import Bourse.Desk
import Bourse.Proofs.WellFormed

namespace Bourse

/-- A part of the books in which no order can be seen. -/
def ApartFromOrders {γ : Type} (part : Books → γ) : Prop :=
  ∀ books orders, part { books with orders } = part books

namespace Scope

section Keeps

variable {γ : Type} {part : Books → γ}

theorem writeOrder_keeps (apart : ApartFromOrders part) (id : OrderId) (expected : Order → Bool)
    (remaining : Order → Int) (status : Status) : Keeps part (writeOrder id expected remaining status) := by
  intro books
  have written {left : Books} {target : OrderId} {open_ : Int} {left' : Status} :
      part (left.setOrder target open_ left') = part left := apart left _
  unfold writeOrder
  split
  · rfl
  next order _ =>
    split
    · rfl
    · split
      next after struck =>
        refine Books.strike_preserves (fun reached => part reached = part books) ?_ struck written
        intro reached next race hit kept
        obtain ⟨_, _, _, _, rfl⟩ := Books.overwritten_eq_some.mp hit
        exact written.trans kept
      next => rfl

theorem recordFill_keeps (apart : ApartFromOrders part) (id : OrderId) (expected remaining : Int)
    (status : Status) : Keeps part (recordFill id expected remaining status) := by
  unfold recordFill
  split
  · exact keeps_fail _
  · split
    · exact keeps_fail _
    · refine (writeOrder_keeps apart _ _ _ _).bind fun written => ?_
      split
      · exact keeps_pure _
      · exact conflict_keeps _ _ _

theorem cancelOrder_keeps (apart : ApartFromOrders part) (id : OrderId) : Keeps part (cancelOrder id) := by
  refine (keeps_read _).bind fun current => (keeps_ofExcept _).bind fun status =>
    (writeOrder_keeps apart _ _ _ _).bind fun written => ?_
  split
  · exact keeps_pure _
  · exact conflict_keeps _ _ _

theorem addOrder_keeps (apart : ApartFromOrders part) (ticket : Ticket) : Keeps part (addOrder ticket) := by
  intro books
  unfold addOrder
  repeat' split
  all_goals first | rfl | exact apart books _

theorem storeOrder_keeps (apart : ApartFromOrders part) (ticket : Ticket) (filled : Int) :
    Keeps part (storeOrder ticket filled) := by
  refine ((addOrder_keeps apart ticket).bind fun order => ?_).atomic
  split
  · exact keeps_pure _
  · exact (keeps_ofExcept _).bind fun status => recordFill_keeps apart _ _ _ _

end Keeps

end Scope

/-- An operation that writes to accounts, transfers or lines. -/
def Operation.MovesFunds : Operation → Prop
  | openAccount .. | credit .. | debit .. | deposit .. | transfer .. | settle .. | postTransfer ..
  | postEntry .. => True
  | _ => False

/-- What shows neither orders nor faults is kept by an operation that writes to nothing else, if not to trades. -/
theorem Operation.perform_keeps_or {γ : Type} {part : Books → γ} (apart : ApartFromOrders part)
    (faults : ∀ books faults, part { books with faults } = part books) {operation : Operation}
    (still : ¬operation.MovesFunds) :
    (∃ first second, operation = .postTrade first second) ∨ Scope.Keeps part operation.perform := by
  cases operation with
  | openAccount | credit | debit | deposit | transfer | settle | postTransfer | postEntry =>
    exact (still trivial).elim
  | postTrade first second => exact .inl ⟨first, second, rfl⟩
  | addOrder => exact .inr ((Scope.addOrder_keeps apart _).map _)
  | cancelOrder => exact .inr ((Scope.cancelOrder_keeps apart _).map _)
  | recordFill => exact .inr ((Scope.recordFill_keeps apart _ _ _ _).map _)
  | refuseOrders | race | ignoreUpdates | clearFaults => exact .inr (Scope.Keeps.map (fun books => faults books _) _)
  | account | order => exact .inr ((Scope.keeps_read _).map _)
  | reconcile =>
    exact .inr (Scope.Keeps.map ((Scope.keeps_read _).bind fun _ => (Scope.keeps_read _).bind fun _ =>
      Scope.keeps_pure _) _)
  | _ => exact .inr (Scope.keeps_read _)

/-- What shows neither orders nor trades nor faults is kept by an operation that writes to nothing else. -/
theorem Operation.perform_keeps {γ : Type} {part : Books → γ} (apart : ApartFromOrders part)
    (trades : ∀ books trades, part { books with trades } = part books)
    (faults : ∀ books faults, part { books with faults } = part books) {operation : Operation}
    (still : ¬operation.MovesFunds) : Scope.Keeps part operation.perform := by
  rcases perform_keeps_or apart faults still with ⟨first, second, rfl⟩ | kept
  · exact (Scope.postTrade_keeps trades first second).map _
  · exact kept

/-- An order as it is stored when `filled` of it was traded before. -/
def Ticket.stored (ticket : Ticket) (id : OrderId) (filled : Int) : Order :=
  { ticket.opened id with remaining := ticket.amount - filled, status := .ofOpen (ticket.amount - filled) }

/-- An order of which nothing was traded before is stored as any new one. -/
theorem Ticket.stored_zero {ticket : Ticket} (positive : 0 < ticket.amount) (id : OrderId) :
    ticket.stored id 0 = ticket.opened id := by
  have open_ : ticket.amount - 0 ≠ 0 := by omega
  unfold stored Status.ofOpen
  rw [if_neg open_, Int.sub_zero]
  rfl

namespace Books

theorem WellFormed.order?_eq_some {books : Books} (formed : books.WellFormed) {id : OrderId} {order : Order} :
    books.order? id = some order ↔ order ∈ books.orders ∧ order.id = id := formed.orderIds.find?_eq_some

/-- The next order gets an id that none has had before. -/
theorem WellFormed.nextId_new {books : Books} (formed : books.WellFormed) : nextId books.orders ∉ books.orderIds := by
  intro old
  obtain ⟨order, member, same⟩ := List.mem_map.mp old
  exact absurd same (Int.ne_of_lt (formed.orderIds.range member).2)

theorem WellFormed.order?_append {books : Books} (formed : books.WellFormed) {row : Order}
    (new : row.id = nextId books.orders) :
    order? { books with orders := books.orders ++ [row] } row.id = some row := by
  have fresh : books.order? row.id = none := by
    refine List.find?_eq_none.mpr fun order member => ?_
    have older := (formed.orderIds.range member).2
    rw [decide_eq_true_eq, new]
    exact Int.ne_of_lt older
  unfold order? at fresh ⊢
  simp [List.find?_append, fresh]

/-- A write to the order that was added last leaves all others alone. -/
theorem WellFormed.setOrder_append {books : Books} (formed : books.WellFormed) {row : Order}
    (new : row.id = nextId books.orders) (remaining : Int) (status : Status) :
    Books.setOrder { books with orders := books.orders ++ [row] } row.id remaining status =
      { books with orders := books.orders ++ [{ row with remaining, status }] } := by
  have older : books.orders.map (fun order =>
      if order.id = row.id then { order with remaining, status } else order) = books.orders := by
    refine (List.map_congr_left fun order member => ?_).trans (List.map_id _)
    have different : order.id ≠ row.id := new ▸ Int.ne_of_lt (formed.orderIds.range member).2
    rw [if_neg different, id_eq]
  unfold Books.setOrder
  rw [List.map_append, older, List.map_singleton, if_pos rfl]

end Books

namespace Scope

variable {books after : Books}

theorem conflict_ne_ok {id : OrderId} {expected : Int} {order : Order} :
    conflict id expected books ≠ (.ok order, after) := by
  intro ran
  obtain ⟨_, _, _, failing⟩ := bind_eq_ok.mp ran
  exact fail_ne_ok failing

/-- Whoever else writes meanwhile, the row that is shown is the one that was asked for, as this write left it. -/
theorem writeOrder_of_some {id : OrderId} {expected : Order → Bool} {remaining : Order → Int} {status : Status}
    {order : Order} (ran : writeOrder id expected remaining status books = (.ok (some order), after)) :
    ∃ row, books.order? id = some row ∧ expected row = true ∧
      (order = { row with remaining := remaining row, status } ∧ row.pair ∈ Pair.listed) ∧
      Books.strike books.faults.races.length books.faults.races id (books.setOrder id (remaining row) status) =
        .ok after := by
  unfold writeOrder at ran
  split at ran
  · cases ran
  next row found =>
    split at ran
    · cases ran
    next passed =>
      split at ran
      next left struck =>
        obtain ⟨shows, rfl⟩ := Prod.mk.inj ran
        obtain ⟨same, listed⟩ := Order.some_shown_eq_ok.mp shows
        exact ⟨row, found, by simpa using (not_or.mp passed).1, ⟨Option.some.inj same, listed⟩, struck⟩
      next => cases ran

theorem recordFill_of_ok {id : OrderId} {expected remaining : Int} {status : Status} {order : Order}
    (ran : recordFill id expected remaining status books = (.ok order, after)) :
    ∃ row, books.order? id = some row ∧ (row.remaining = expected ∧ row.status = .active) ∧
      ((0 ≤ remaining ∧ remaining ≤ expected) ∧ status = .ofOpen remaining) ∧
      (order = { row with remaining, status } ∧ row.pair ∈ Pair.listed) ∧
      Books.strike books.faults.races.length books.faults.races id (books.setOrder id remaining status) =
        .ok after := by
  unfold recordFill at ran
  by_cases range : remaining < 0 ∨ expected < remaining
  · rw [if_pos range] at ran
    exact absurd ran fail_ne_ok
  · rw [if_neg range, Status.after?_ofFill] at ran
    by_cases left : some (Status.ofOpen remaining) ≠ some status
    · rw [if_pos left] at ran
      exact absurd ran fail_ne_ok
    · rw [if_neg left] at ran
      obtain ⟨written, _, writing, ending⟩ := bind_eq_ok.mp ran
      cases written with
      | none => exact absurd ending conflict_ne_ok
      | some row =>
        obtain ⟨rfl, rfl⟩ := pure_eq_ok.mp ending
        obtain ⟨row, found, passed, shows, struck⟩ := writeOrder_of_some writing
        have same : Status.ofOpen remaining = status := by simpa using left
        exact ⟨row, found, by simpa using passed, ⟨by omega, same.symm⟩, shows, struck⟩

theorem recordFill_id {id : OrderId} {expected remaining : Int} {status : Status} {order : Order}
    (ran : recordFill id expected remaining status books = (.ok order, after)) : order.id = id := by
  obtain ⟨row, found, _, _, ⟨rfl, _⟩, _⟩ := recordFill_of_ok ran
  have own : row.id = id := Books.order?_id found
  exact own

theorem strike_of_quiet (quiet : books.faults.races = []) {id : OrderId} {written : Books}
    (struck : Books.strike books.faults.races.length books.faults.races id written = .ok after) : after = written := by
  rw [quiet] at struck
  cases struck
  rfl

theorem cancelOrder_of_ok (quiet : books.faults.races = []) {id : OrderId} {order : Order}
    (ran : cancelOrder id books = (.ok order, after)) :
    ∃ row, books.order? id = some row ∧ row.status = .active ∧ order = { row with status := .canceled } ∧
      after = books.setOrder id row.remaining .canceled := by
  obtain ⟨current, _, looking, changing⟩ := bind_eq_ok.mp ran
  obtain ⟨looked, rfl⟩ := read_eq_ok.mp looking
  obtain ⟨status, _, checking, writing⟩ := bind_eq_ok.mp changing
  obtain ⟨allowed, rfl⟩ := ofExcept_eq_ok.mp checking
  have changed := Order.statusAfter_eq_ok.mp allowed
  have active := Status.active_of_after? changed
  rw [active] at changed
  cases changed
  obtain ⟨written, _, wrote, ending⟩ := bind_eq_ok.mp writing
  cases written with
  | none => exact absurd ending conflict_ne_ok
  | some row =>
    obtain ⟨rfl, rfl⟩ := pure_eq_ok.mp ending
    obtain ⟨row, found, passed, ⟨rfl, _⟩, struck⟩ := writeOrder_of_some wrote
    have same : row.status = current.status := by simpa using passed
    exact ⟨row, found, same.trans active, rfl, strike_of_quiet quiet struck⟩

theorem addOrder_of_ok {ticket : Ticket} {order : Order} (ran : addOrder ticket books = (.ok order, after)) :
    ((0 < ticket.price ∧ 0 < ticket.amount) ∧ ticket.pair ∈ Pair.listed) ∧
      order = ticket.opened (nextId books.orders) ∧ after = { books with orders := books.orders ++ [order] } := by
  unfold addOrder at ran
  split at ran
  · cases ran
  next positive =>
    split at ran
    · cases ran
    · split at ran
      · cases ran
      · obtain ⟨shows, rfl⟩ := Prod.mk.inj ran
        obtain ⟨rfl, listed⟩ := Order.shown_eq_ok.mp shows
        exact ⟨⟨by omega, listed⟩, rfl, rfl⟩

/-- Where nothing is disturbed, a row that is as expected is written. It is shown if its pair is listed. -/
theorem writeOrder_written (undisturbed : books.faults = {}) {row : Order} (found : books.order? row.id = some row)
    {expected : Order → Bool} (passes : expected row = true) (remaining : Order → Int) (status : Status) :
    writeOrder row.id expected remaining status books =
      (some <$> Order.shown { row with remaining := remaining row, status },
        books.setOrder row.id (remaining row) status) := by
  have unrefused : ¬(expected row = false ∨ row.id ∈ books.faults.ignored) := by simp [undisturbed, passes]
  unfold writeOrder
  simp only [found]
  rw [if_neg unrefused, undisturbed]
  rfl

/-- Where nothing is disturbed, a fill of an active order is recorded. The row is shown if its pair is listed. -/
theorem recordFill_written (undisturbed : books.faults = {}) {row : Order} (found : books.order? row.id = some row)
    (active : row.status = .active) {remaining : Int} (range : 0 ≤ remaining ∧ remaining ≤ row.remaining) :
    recordFill row.id row.remaining remaining (.ofOpen remaining) books =
      (Order.shown { row with remaining, status := .ofOpen remaining },
        books.setOrder row.id remaining (.ofOpen remaining)) := by
  have inRange : ¬(remaining < 0 ∨ row.remaining < remaining) := by omega
  have changes : ¬(Status.active.after? (.ofFill remaining) ≠ some (Status.ofOpen remaining)) :=
    Decidable.not_not.mpr (Status.after?_ofFill remaining)
  have passes : decide (row.remaining = row.remaining ∧ row.status = .active) = true :=
    decide_eq_true ⟨rfl, active⟩
  have written : writeOrder row.id (fun order => order.remaining = row.remaining ∧ order.status = .active)
      (fun _ => remaining) (.ofOpen remaining) books = _ := writeOrder_written undisturbed found passes _ _
  unfold recordFill
  rw [if_neg inRange, if_neg changes]
  cases read : Order.shown { row with remaining, status := .ofOpen remaining } with
  | ok shown =>
    rw [read] at written
    exact bind_eq_ok.mpr ⟨_, _, written, pure_eq_ok.mpr ⟨rfl, rfl⟩⟩
  | error failure =>
    rw [read] at written
    exact bind_of_error written

theorem recordFill_ok (undisturbed : books.faults = {}) {row : Order} (found : books.order? row.id = some row)
    (active : row.status = .active) {remaining : Int} (range : 0 ≤ remaining ∧ remaining ≤ row.remaining)
    (listed : row.pair ∈ Pair.listed) :
    recordFill row.id row.remaining remaining (.ofOpen remaining) books =
      (.ok { row with remaining, status := .ofOpen remaining },
        books.setOrder row.id remaining (.ofOpen remaining)) := by
  rw [recordFill_written undisturbed found active range]
  exact congrArg (·, _) (Order.shown_of_listed listed)

/-- Where nothing is disturbed, a row is written for an order with positive terms. It is shown if its pair is
listed. -/
theorem addOrder_written (undisturbed : books.faults = {}) {ticket : Ticket}
    (positive : 0 < ticket.price ∧ 0 < ticket.amount)
    (accounts : books.HasAccount ticket.source ∧ books.HasAccount ticket.destination) :
    addOrder ticket books = (Order.shown (ticket.opened (nextId books.orders)),
      { books with orders := books.orders ++ [ticket.opened (nextId books.orders)] }) := by
  have terms : ¬(ticket.price ≤ 0 ∨ ticket.amount ≤ 0) := by omega
  have taken : ticket.side ∉ books.faults.refused := by simp [undisturbed]
  unfold addOrder
  rw [if_neg terms, if_neg taken, if_neg (not_not.mpr accounts)]
  rfl

theorem addOrder_ok (undisturbed : books.faults = {}) {ticket : Ticket}
    (positive : 0 < ticket.price ∧ 0 < ticket.amount)
    (accounts : books.HasAccount ticket.source ∧ books.HasAccount ticket.destination)
    (listed : ticket.pair ∈ Pair.listed) :
    addOrder ticket books = (.ok (ticket.opened (nextId books.orders)),
      { books with orders := books.orders ++ [ticket.opened (nextId books.orders)] }) := by
  rw [addOrder_written undisturbed positive accounts]
  exact congrArg (·, _) (Order.shown_of_listed listed)

/-- An order is stored in one row, which says what is left of it. -/
theorem storeOrder_of_ok (formed : books.WellFormed) (quiet : books.faults.races = []) {ticket : Ticket}
    {filled : Int} {order : Order} (ran : storeOrder ticket filled books = (.ok order, after)) :
    ((0 < ticket.price ∧ 0 < ticket.amount) ∧ ticket.pair ∈ Pair.listed) ∧ (0 ≤ filled ∧ filled ≤ ticket.amount) ∧
      order = ticket.stored (nextId books.orders) filled ∧
      after = { books with orders := books.orders ++ [order] } := by
  obtain ⟨opened, middle, adding, updating⟩ := bind_eq_ok.mp (atomic_eq_ok.mp ran)
  obtain ⟨⟨positive, listed⟩, rfl, rfl⟩ := addOrder_of_ok adding
  by_cases none : filled = 0
  · rw [if_pos none] at updating
    obtain ⟨rfl, rfl⟩ := pure_eq_ok.mp updating
    subst none
    exact ⟨⟨positive, listed⟩, by omega, (Ticket.stored_zero positive.2 _).symm, rfl⟩
  · rw [if_neg none] at updating
    obtain ⟨status, _, checking, recording⟩ := bind_eq_ok.mp updating
    obtain ⟨_, rfl⟩ := ofExcept_eq_ok.mp checking
    obtain ⟨row, found, _, ⟨range, rfl⟩, ⟨rfl, _⟩, struck⟩ := recordFill_of_ok recording
    obtain rfl := strike_of_quiet (by exact quiet) struck
    have new : (ticket.opened (nextId books.orders)).id = nextId books.orders := rfl
    rw [formed.order?_append new] at found
    cases found
    rw [formed.setOrder_append new]
    have whole : (ticket.opened (nextId books.orders)).remaining = ticket.amount := rfl
    exact ⟨⟨positive, listed⟩, by omega, rfl, rfl⟩

/-- Where nothing is disturbed, an order with positive terms on a listed pair can be stored. -/
theorem storeOrder_ok (undisturbed : books.faults = {}) (formed : books.WellFormed) {ticket : Ticket}
    {filled : Int} (positive : 0 < ticket.price ∧ 0 < ticket.amount) (range : 0 ≤ filled ∧ filled ≤ ticket.amount)
    (accounts : books.HasAccount ticket.source ∧ books.HasAccount ticket.destination)
    (listed : ticket.pair ∈ Pair.listed) :
    storeOrder ticket filled books = (.ok (ticket.stored (nextId books.orders) filled),
      { books with orders := books.orders ++ [ticket.stored (nextId books.orders) filled] }) := by
  refine atomic_eq_ok.mpr (bind_eq_ok.mpr ⟨_, _, addOrder_ok undisturbed positive accounts listed, ?_⟩)
  by_cases none : filled = 0
  · subst none
    rw [if_pos rfl, Ticket.stored_zero positive.2]
    rfl
  · have changed : (ticket.opened (nextId books.orders)).statusAfter (.ofFill (ticket.amount - filled)) =
        .ok (.ofOpen (ticket.amount - filled)) := Order.statusAfter_eq_ok.mpr (Status.after?_ofFill _)
    rw [if_neg none]
    refine bind_eq_ok.mpr ⟨_, _, ofExcept_eq_ok.mpr ⟨changed, rfl⟩, ?_⟩
    have left : 0 ≤ ticket.amount - filled ∧ ticket.amount - filled ≤ ticket.amount := by omega
    have present : Books.order? { books with orders := books.orders ++ [ticket.opened (nextId books.orders)] }
        (ticket.opened (nextId books.orders)).id = some (ticket.opened (nextId books.orders)) :=
      formed.order?_append rfl
    have recorded := recordFill_ok (by exact undisturbed) present rfl left listed
    rw [formed.setOrder_append rfl] at recorded
    exact recorded

/-- An order on a pair that is not listed cannot be stored: its row is written, and taken back as it cannot be read. -/
theorem storeOrder_unlisted (undisturbed : books.faults = {}) {ticket : Ticket}
    (positive : 0 < ticket.price ∧ 0 < ticket.amount)
    (accounts : books.HasAccount ticket.source ∧ books.HasAccount ticket.destination)
    (unlisted : ticket.pair ∉ Pair.listed) (filled : Int) :
    storeOrder ticket filled books = (.error (.unreadable ticket.pair), books) := by
  have added := addOrder_written undisturbed positive accounts
  rw [Order.shown_of_unlisted (by exact unlisted)] at added
  exact atomic_eq_error.mpr ⟨⟨_, bind_of_error added⟩, rfl⟩

end Scope

end Bourse
