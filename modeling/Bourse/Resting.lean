import Bourse.Books

namespace Bourse

namespace Order

theorem shown_eq_ok {order row : Order} : order.shown = .ok row ↔ row = order ∧ order.pair ∈ Pair.listed := by
  unfold shown
  split
  next listed => rw [Except.ok.injEq, eq_comm, and_iff_left listed]
  next unlisted => exact ⟨nofun, fun read => absurd read.2 unlisted⟩

theorem shown_eq_error {order : Order} {failure : Failure} :
    order.shown = .error failure ↔ failure = .unreadable order.pair ∧ order.pair ∉ Pair.listed := by
  unfold shown
  split
  next listed => exact ⟨nofun, fun unread => absurd listed unread.2⟩
  next unlisted => rw [Except.error.injEq, eq_comm, and_iff_left unlisted]

theorem shown_of_listed {order : Order} (listed : order.pair ∈ Pair.listed) : order.shown = .ok order :=
  if_pos listed

theorem shown_of_unlisted {order : Order} (unlisted : order.pair ∉ Pair.listed) :
    order.shown = .error (.unreadable order.pair) := if_neg unlisted

theorem some_shown_eq_ok {order : Order} {written : Option Order} :
    (some <$> order.shown : Except Failure (Option Order)) = .ok written ↔
      written = some order ∧ order.pair ∈ Pair.listed := by
  unfold shown
  split
  next listed =>
    constructor
    · intro shows
      cases shows
      exact ⟨rfl, listed⟩
    · rintro ⟨rfl, _⟩
      rfl
  next unlisted => exact ⟨nofun, fun shows => absurd shows.2 unlisted⟩

theorem some_shown_eq_error {order : Order} {failure : Failure} :
    (some <$> order.shown : Except Failure (Option Order)) = .error failure ↔ order.shown = .error failure := by
  unfold shown
  split
  · exact ⟨nofun, nofun⟩
  · constructor
    · intro failed
      cases failed
      rfl
    · intro failed
      cases failed
      rfl

theorem allShown_cons (order : Order) (rows : List Order) :
    allShown (order :: rows) = order.shown.bind fun row => (allShown rows).map (row :: ·) := by
  unfold allShown
  rw [List.mapM_cons]
  rfl

theorem allShown_eq_ok {rows page : List Order} :
    allShown rows = .ok page ↔ page = rows ∧ ∀ order ∈ rows, order.pair ∈ Pair.listed := by
  induction rows generalizing page with
  | nil =>
    have shown : allShown [] = .ok [] := rfl
    rw [shown, Except.ok.injEq, eq_comm]
    exact ⟨fun same => ⟨same, List.forall_mem_nil _⟩, And.left⟩
  | cons order rows ih =>
    rw [allShown_cons, List.forall_mem_cons]
    constructor
    · intro read
      match first : order.shown, rest : allShown rows with
      | .error failure, _ => rw [first] at read; cases read
      | .ok row, .error failure => rw [first, rest] at read; cases read
      | .ok row, .ok later =>
        rw [first, rest] at read
        cases read
        obtain ⟨rfl, listed⟩ := shown_eq_ok.mp first
        obtain ⟨rfl, all⟩ := ih.mp rest
        exact ⟨rfl, listed, all⟩
    · rintro ⟨rfl, listed, all⟩
      rw [shown_eq_ok.mpr ⟨rfl, listed⟩, ih.mpr ⟨rfl, all⟩]
      rfl

/-- Where rows cannot all be read, the failure names the pair of one that cannot. -/
theorem allShown_eq_error {rows : List Order} {failure : Failure} (unread : allShown rows = .error failure) :
    ∃ order ∈ rows, order.pair ∉ Pair.listed ∧ failure = .unreadable order.pair := by
  induction rows with
  | nil => cases unread
  | cons order rows ih =>
    rw [allShown_cons] at unread
    match first : order.shown, rest : allShown rows with
    | .error cause, _ =>
      rw [first] at unread
      cases unread
      obtain ⟨rfl, unlisted⟩ := shown_eq_error.mp first
      exact ⟨order, List.mem_cons_self, unlisted, rfl⟩
    | .ok row, .error cause =>
      rw [first, rest] at unread
      cases unread
      obtain ⟨other, member, unlisted, same⟩ := ih rest
      exact ⟨other, List.mem_cons_of_mem _ member, unlisted, same⟩
    | .ok row, .ok later =>
      rw [first, rest] at unread
      cases unread

end Order

def checkPageSize (size : Nat) : Except Failure Unit :=
  if size = 0 ∨ maxPageSize < size then .error (.validation (.pageSize size)) else .ok ()

namespace Books

def findOrder (books : Books) (id : OrderId) : Except Failure Order :=
  match books.order? id with
  | some order => order.shown
  | none => .error (.orderNotFound id)

/-- The orders that pay from or into an account, oldest first. -/
def ordersOf (books : Books) (id : AccountId) : Except Failure (List Order) :=
  Order.allShown (books.orders.filter fun order => order.source = id ∨ order.destination = id)

/-- The active orders of side `side` on `pair` that are offered within `limit`, oldest first. -/
def tradable (books : Books) (pair : Pair) (limit : Int) (side : Side) : List Order :=
  books.orders.filter (fun order => order.Tradable pair limit side)

/-- Page number `page` of the tradable orders, the first page being 1. -/
def tradablePage (books : Books) (pair : Pair) (limit : Int) (side : Side) (page size : Nat) :
    Except Failure (List Order) :=
  if page = 0 then .error (.validation .pageZero)
  else do
    checkPageSize size
    Order.allShown (((books.tradable pair limit side).drop ((page - 1) * size)).take size)

/-- The rows with an id beyond the cursor; without a cursor, all that have a proper id. -/
def ordersBeyond (books : Books) (cursor : Option OrderId) : List Order :=
  books.orders.filter (fun order => cursor.getD 0 < order.id)

/-- The next tradable orders beyond the cursor. Orders that were filled meanwhile drop out of the list
without moving the ones that come after. -/
def tradableBeyond (books : Books) (pair : Pair) (limit : Int) (side : Side) (cursor : Option OrderId)
    (size : Nat) : Except Failure (List Order) := do
  checkPageSize size
  Order.allShown (((books.ordersBeyond cursor).filter fun order => order.Tradable pair limit side).take size)

def setOrder (books : Books) (id : OrderId) (remaining : Int) (status : Status) : Books :=
  { books with
    orders := books.orders.map fun order =>
      if order.id = id then { order with remaining, status } else order }

/-- What one competing writer makes of the books; nothing if it finds no row to write. It writes as
anyone does: not to an order whose updates are ignored, and not more than was there initially. -/
def overwritten (books : Books) (race : Race) : Except Failure (Option Books) :=
  match books.order? race.target with
  | none => .ok none
  | some order =>
    if race.target ∈ books.faults.ignored then .ok none
    else if 0 ≤ race.remaining ∧ race.remaining ≤ order.initial then
      .ok (some (books.setOrder race.target race.remaining race.status))
    else .error (.storage (.condition .remaining))

/-- The competing writers that wait for order `written` strike one after the other. What one of them
writes brings on those that wait for its target, but none strikes again within the same chain, so
that no chain is longer than there are races. -/
def strike : Nat → List Race → OrderId → Books → Except Failure Books
  | 0, _, _, books => .ok books
  | depth + 1, races, written, books =>
    (races.filter (fun race => race.whenOrder = written)).foldlM
      (fun books race => do
        match ← books.overwritten race with
        | none => return books
        | some after => strike depth (races.erase race) race.target after)
      books

theorem tradableBeyond_ok {books : Books} {pair : Pair} {limit : Int} {side : Side}
    {cursor : Option OrderId} {size : Nat} {page : List Order}
    (listed : books.tradableBeyond pair limit side cursor size = .ok page) :
    checkPageSize size = .ok () ∧
      page = ((books.ordersBeyond cursor).filter fun order => order.Tradable pair limit side).take size := by
  unfold tradableBeyond at listed
  match checked : checkPageSize size with
  | .error failure => simp [checked, bind, Except.bind] at listed
  | .ok () =>
    simp only [checked, bind, Except.bind] at listed
    exact ⟨rfl, (Order.allShown_eq_ok.mp listed).1⟩

theorem findOrder_eq_ok {books : Books} {id : OrderId} {order : Order} :
    books.findOrder id = .ok order ↔ books.order? id = some order ∧ order.pair ∈ Pair.listed := by
  unfold findOrder
  split
  next row found =>
    rw [Order.shown_eq_ok, found, Option.some.injEq]
    exact ⟨fun ⟨same, listed⟩ => ⟨same.symm, same ▸ listed⟩, fun ⟨same, listed⟩ => ⟨same.symm, same ▸ listed⟩⟩
  next missing => exact ⟨nofun, fun found => nomatch missing.symm.trans found.1⟩

theorem mem_idsBeyond_of_tradableBeyond {books : Books} {pair : Pair} {limit : Int} {side : Side}
    {cursor : Option OrderId} {size : Nat} {page : List Order} {order : Order}
    (listed : books.tradableBeyond pair limit side cursor size = .ok page) (member : order ∈ page) :
    order.id ∈ books.idsBeyond cursor := by
  rw [(tradableBeyond_ok listed).2] at member
  have kept := List.mem_filter.1 (List.mem_filter.1 (List.mem_of_mem_take member)).1
  exact List.mem_filter.2 ⟨List.mem_map_of_mem kept.1, by simpa using kept.2⟩

theorem setOrder_orderIds (books : Books) (id : OrderId) (remaining : Int) (status : Status) :
    (books.setOrder id remaining status).orderIds = books.orderIds := by
  unfold orderIds setOrder
  rw [List.map_map]
  apply List.map_congr_left
  intro order _
  simp only [Function.comp_apply]
  split <;> rfl

theorem overwritten_eq_some {books after : Books} {race : Race} :
    books.overwritten race = .ok (some after) ↔ ∃ order, books.order? race.target = some order ∧
      race.target ∉ books.faults.ignored ∧ (0 ≤ race.remaining ∧ race.remaining ≤ order.initial) ∧
      after = books.setOrder race.target race.remaining race.status := by
  unfold overwritten
  constructor
  · intro written
    split at written
    · cases written
    next order found =>
      split at written
      · cases written
      next heeded =>
        split at written
        next range =>
          cases written
          exact ⟨order, found, heeded, range, rfl⟩
        next => cases written
  · rintro ⟨order, found, heeded, range, rfl⟩
    simp only [found, if_neg heeded, if_pos range]

/-- What no single competing writer undoes, no chain of them does. -/
theorem strike_preserves (holds : Books → Prop)
    (single : ∀ {books after : Books} {race}, books.overwritten race = .ok (some after) → holds books → holds after)
    {depth : Nat} {races : List Race} {written : OrderId} {books after : Books}
    (struck : strike depth races written books = .ok after) (held : holds books) : holds after := by
  induction depth generalizing races written books after with
  | zero => cases struck; exact held
  | succ depth deeper =>
    rw [strike] at struck
    generalize races.filter _ = waiting at struck
    induction waiting generalizing books with
    | nil => cases struck; exact held
    | cons race rest later =>
      rw [List.foldlM_cons] at struck
      match hit : books.overwritten race with
      | .error failure => simp [hit, bind, Except.bind] at struck
      | .ok none =>
        simp only [hit, bind, Except.bind, pure, Except.pure] at struck
        exact later held struck
      | .ok (some left) =>
        simp only [hit, bind, Except.bind] at struck
        split at struck
        · cases struck
        next reached chain => exact later (deeper chain (single hit held)) struck

theorem strike_orderIds {depth : Nat} {races : List Race} {written : OrderId} {books after : Books}
    (struck : strike depth races written books = .ok after) : after.orderIds = books.orderIds := by
  refine strike_preserves (fun reached => reached.orderIds = books.orderIds) ?_ struck rfl
  intro reached next race hit kept
  obtain ⟨_, _, _, _, rfl⟩ := overwritten_eq_some.mp hit
  exact (setOrder_orderIds ..).trans kept

end Books

namespace Scope

def order (id : OrderId) : Scope Order := read (·.findOrder id)

/-- A new order is active and open in full. Its row is written before it is read back, so that an order on a pair that
is not listed fails with the row in place. -/
def addOrder (ticket : Ticket) : Scope Order := fun books =>
  if ticket.price ≤ 0 ∨ ticket.amount ≤ 0 then (.error (.validation .termsNotPositive), books)
  else if ticket.side ∈ books.faults.refused then
    (.error (.storage (.refusedInsert ticket.side)), books)
  else if ¬(books.HasAccount ticket.source ∧ books.HasAccount ticket.destination) then
    (.error (.storage .missingAccount), books)
  else
    let order : Order :=
      { id := nextId books.orders
        side := ticket.side
        pair := ticket.pair
        source := ticket.source
        destination := ticket.destination
        price := ticket.price
        initial := ticket.amount
        remaining := ticket.amount
        status := .active }
    (order.shown, { books with orders := books.orders ++ [order] })

/-- Writes the row of an order if it is still as expected, and shows the row it wrote. A row that cannot be read back is
written all the same. -/
def writeOrder (id : OrderId) (expected : Order → Bool) (remaining : Order → Int)
    (status : Status) : Scope (Option Order) := fun books =>
  match books.order? id with
  | none => (.ok none, books)
  | some order =>
    if expected order = false ∨ id ∈ books.faults.ignored then (.ok none, books)
    else
      match Books.strike books.faults.races.length books.faults.races id
        (books.setOrder id (remaining order) status) with
      | .ok after => (some <$> Order.shown { order with remaining := remaining order, status }, after)
      | .error failure => (.error failure, books)

/-- The answer to a write that found the row changed. -/
def conflict (id : OrderId) (expected : Int) : Scope Order := do
  let current ← order id
  fail (.conflict id expected current.remaining current.status)

/-- Records a fill against an active order, provided that `expected` is what is still open. -/
def recordFill (id : OrderId) (expected remaining : Int) (status : Status) : Scope Order :=
  if remaining < 0 ∨ expected < remaining then
    fail (.validation (.remainingRange id expected remaining))
  else if Status.active.after? (.ofFill remaining) ≠ some status then
    fail (.validation (.statusMismatch id remaining status))
  else do
    let written ← writeOrder id (fun order => order.remaining = expected ∧ order.status = .active)
      (fun _ => remaining) status
    match written with
    | some order => pure order
    | none => conflict id expected

/-- Takes an order back. What is open stays on record. -/
def cancelOrder (id : OrderId) : Scope Order := do
  let current ← order id
  let status ← ofExcept (current.statusAfter .cancel)
  let written ← writeOrder id (fun order => order.status = current.status) (·.remaining) status
  match written with
  | some order => pure order
  | none => conflict id current.remaining

theorem writeOrder_keeps_orderIds (id : OrderId) (expected : Order → Bool) (remaining : Order → Int)
    (status : Status) : Keeps (·.orderIds) (writeOrder id expected remaining status) := by
  intro books
  unfold writeOrder
  split
  · rfl
  · split
    · rfl
    · split
      next struck => exact (Books.strike_orderIds struck).trans (Books.setOrder_orderIds ..)
      next => rfl

theorem conflict_keeps {γ : Type} (part : Books → γ) (id : OrderId) (expected : Int) :
    Keeps part (conflict id expected) := (keeps_read _).bind fun _ => keeps_fail _

theorem recordFill_keeps_orderIds (id : OrderId) (expected remaining : Int) (status : Status) :
    Keeps (·.orderIds) (recordFill id expected remaining status) := by
  unfold recordFill
  split
  · exact keeps_fail _
  · split
    · exact keeps_fail _
    · refine (writeOrder_keeps_orderIds _ _ _ _).bind fun written => ?_
      split
      · exact keeps_pure _
      · exact conflict_keeps _ _ _

end Scope

end Bourse
