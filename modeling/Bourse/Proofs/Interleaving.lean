import Bourse.Proofs.Floor

namespace Bourse

open Scope

/-- An operation that neither records a fill without settling it nor calls up a competing writer. -/
def Operation.Tame : Operation → Prop
  | recordFill .. | race _ => False
  | _ => True

def Move.Tame : Move → Prop
  | perform operation => operation.Tame
  | _ => True

theorem Operation.Tame.fair {operation : Operation} (tame : operation.Tame) : operation.Fair := by
  cases operation with
  | race => exact tame
  | _ => trivial

/-- What one scope can make of the orders, and of what is on record as drawn from them. -/
inductive Effect (books : Books) (draws : Draws) (after : Books) : Draws → Prop
  | none (orders : after.orders = books.orders) : Effect books draws after draws
  | added {row : Order} (new : row.id = nextId books.orders) (whole : row.remaining = row.initial)
      (orders : after.orders = books.orders ++ [row]) : Effect books draws after draws
  | stored {row : Order} {filled : Int} (new : row.id = nextId books.orders) (range : 0 ≤ filled)
      (drawn : row.initial - row.remaining = filled) (orders : after.orders = books.orders ++ [row]) :
      Effect books draws after (draws.store row.id filled)
  | canceled {row : Order} (found : books.order? row.id = some row) (active : row.status = .active)
      (orders : after.orders = (books.setOrder row.id row.remaining .canceled).orders) :
      Effect books draws after draws
  | filled {ticket : Ticket} {resting : Order} {quantity : Int} {fill : Fill}
      (done : FillDone ticket resting quantity books fill after) :
      Effect books draws after (draws.add fill)

/-- An operation that writes neither an order nor a trade, and calls up no competing writer. -/
def Operation.OffMarket : Operation → Prop
  | settle .. | postTrade .. | addOrder _ | cancelOrder _ | recordFill .. | race _ => False
  | _ => True

/-- What shows neither funds nor faults is kept by an operation that writes to nothing else. -/
theorem Operation.OffMarket.keeps {γ : Type} {part : Books → γ} {operation : Operation}
    (offMarket : operation.OffMarket) (apart : ApartFromFunds part)
    (faults : ∀ books faults, part { books with faults } = part books) : Keeps part operation.perform := by
  cases operation with
  | settle | postTrade | addOrder | cancelOrder | recordFill | race => exact offMarket.elim
  | openAccount => exact Keeps.map (fun books => apart books _ books.transfers books.entries) _
  | credit => exact (credit_keeps apart _ _).map _
  | debit => exact (debit_keeps apart _ _).map _
  | deposit => exact (deposit_keeps apart _ _).map _
  | transfer => exact (transfer_keeps apart _ _ _).map _
  | postTransfer => exact (postTransfer_keeps apart _).map _
  | postEntry => exact (postEntry_keeps apart _ _).map _
  | refuseOrders | ignoreUpdates | clearFaults => exact Keeps.map (fun books => faults books _) _
  | account | order => exact (keeps_read _).map _
  | reconcile => exact Keeps.map ((keeps_read _).bind fun _ => (keeps_read _).bind fun _ => keeps_pure _) _
  | _ => exact keeps_read _

/-- An operation that opens no order and takes none back leaves the orders alone. -/
theorem Operation.perform_keeps_orders {operation : Operation} (tame : operation.Tame) :
    (∃ ticket, operation = .addOrder ticket) ∨ (∃ id, operation = .cancelOrder id) ∨
      Keeps (·.orders) operation.perform := by
  have apart : ApartFromFunds fun books : Books => books.orders := fun _ _ _ _ => rfl
  have kept (offMarket : operation.OffMarket) : Keeps (·.orders) operation.perform :=
    offMarket.keeps apart fun _ _ => rfl
  cases operation with
  | addOrder ticket => exact .inl ⟨ticket, rfl⟩
  | cancelOrder id => exact .inr (.inl ⟨id, rfl⟩)
  | recordFill | race => exact tame.elim
  | settle => exact .inr (.inr ((settle_keeps apart (fun _ _ => rfl) _ _).map _))
  | postTrade => exact .inr (.inr ((postTrade_keeps (fun _ _ => rfl) _ _).map _))
  | _ => exact .inr (.inr (kept trivial))

theorem Operation.perform_effect {operation : Operation} (tame : operation.Tame) {books : Books}
    (calm : books.Calm) (draws : Draws) : Effect books draws (operation.perform.atomic books).2 draws := by
  match ran : operation.perform.atomic books with
  | (.error failure, after) =>
    obtain ⟨_, rfl⟩ := atomic_eq_error.mp ran
    exact .none rfl
  | (.ok answer, after) =>
    rcases perform_keeps_orders tame with ⟨ticket, rfl⟩ | ⟨id, rfl⟩ | kept
    · obtain ⟨order, added, _⟩ := map_eq_ok.mp (atomic_eq_ok.mp ran)
      obtain ⟨_, rfl, rfl⟩ := addOrder_of_ok added
      exact .added rfl rfl rfl
    · obtain ⟨order, canceled, _⟩ := map_eq_ok.mp (atomic_eq_ok.mp ran)
      obtain ⟨row, found, active, _, rfl⟩ := cancelOrder_of_ok calm.quiet canceled
      have own : row.id = id := Books.order?_id found
      rw [← own] at found ⊢
      exact .canceled found active rfl
    · have same := kept.atomic books
      rw [ran] at same
      exact .none same

namespace Floor

variable {floor : Floor}

theorem proceed_effect (calm : floor.books.Calm) (index : Nat) :
    Effect floor.books floor.draws (floor.proceed index).books (floor.proceed index).draws ∧
      (floor.proceed index).books.Calm := by
  unfold proceed
  match floor.matchers[index]? with
  | none => exact ⟨.none rfl, calm⟩
  | some matcher =>
    rcases matcher.step_cases floor.books with idle | ⟨resting, quantity, fill, after, ran, stepped⟩
    · simp only [idle, Option.elim_none]
      exact ⟨.none rfl, calm⟩
    · simp only [stepped, Option.elim_some]
      exact ⟨.filled (fill_of_ok calm.steady ran), (fill_makes ..).calm calm ran⟩

theorem store_effect (calm : floor.books.Calm) (ticket : Ticket) (filled : Int) :
    Effect floor.books floor.draws (floor.store ticket filled).books (floor.store ticket filled).draws ∧
      (floor.store ticket filled).books.Calm := by
  unfold store
  match ran : storeOrder ticket filled floor.books with
  | (.error _, after) =>
    obtain ⟨_, rfl⟩ := atomic_eq_error.mp ran
    exact ⟨.none rfl, calm⟩
  | (.ok order, after) =>
    refine ⟨?_, (storeOrder_makes ..).calm calm ran⟩
    obtain ⟨_, range, rfl, rfl⟩ := storeOrder_of_ok calm.formed calm.quiet ran
    have drawn : ticket.amount - (ticket.amount - filled) = filled := by omega
    exact .stored rfl range.1 drawn rfl

/-- Each move has one of these effects on the orders and on the records, and leaves the books calm. -/
theorem step_effect {move : Move} (tame : move.Tame) (calm : floor.books.Calm) :
    Effect floor.books floor.draws (floor.step move).books (floor.step move).draws ∧
      (floor.step move).books.Calm := by
  cases move with
  | join => exact ⟨.none rfl, calm⟩
  | proceed index => exact proceed_effect calm index
  | store ticket filled => exact store_effect calm ticket filled
  | perform operation =>
    have made : Makes False operation.perform := operation.perform_makes (.inr tame.fair)
    exact ⟨operation.perform_effect tame calm floor.draws, made.atomic.calm calm rfl⟩

end Floor

/-- What is missing from each order is on record as drawn from it, and nothing else is on record. -/
structure Reckoned (books : Books) (draws : Draws) : Prop where
  rows : ∀ order ∈ books.orders, order.initial - order.remaining = draws.total order.id
  unknown : ∀ id, nextId books.orders ≤ id → draws.stored id = 0 ∧ draws.against id = []
  stored : ∀ id, 0 ≤ draws.stored id
  fills : ∀ fill ∈ draws.fills, 0 < fill.quantity

theorem reckoned_empty : Reckoned .empty {} where
  rows := List.forall_mem_nil _
  unknown := fun _ _ => ⟨rfl, rfl⟩
  stored := fun _ => Int.le_refl 0
  fills := List.forall_mem_nil _

variable {books after : Books} {draws drawn : Draws}

theorem nextId_setOrder (books : Books) (id : OrderId) (remaining : Int) (status : Status) :
    nextId (books.setOrder id remaining status).orders = nextId books.orders := by
  unfold nextId Books.setOrder
  rw [List.length_map]

/-- A new order is reckoned with if what is on record for it is what is missing from it. -/
theorem Reckoned.append (reckoned : Reckoned books draws) (formed : books.WellFormed) {row : Order}
    (new : row.id = nextId books.orders) (orders : after.orders = books.orders ++ [row])
    (left : row.initial - row.remaining = drawn.stored row.id) (range : 0 ≤ drawn.stored row.id)
    (others : ∀ id, id ≠ row.id → drawn.stored id = draws.stored id) (fills : drawn.fills = draws.fills) :
    Reckoned after drawn := by
  have against (id : OrderId) : drawn.against id = draws.against id := by rw [Draws.against, fills, Draws.against]
  refine ⟨?_, fun id beyond => ?_, fun id => ?_, fills ▸ reckoned.fills⟩
  · rw [orders]
    refine forall_mem_append_singleton (fun order member => ?_) ?_
    · have older : order.id ≠ row.id := new ▸ Int.ne_of_lt (formed.orderIds.range member).2
      rw [reckoned.rows order member, Draws.total, Draws.total, others order.id older, against]
    · have clear := (reckoned.unknown row.id (Int.le_of_eq new.symm)).2
      rw [Draws.total, against, clear, List.map_nil, List.sum_nil, Int.add_zero]
      exact left
  · rw [orders, nextId_append] at beyond
    have later : row.id < id := new ▸ Int.lt_of_add_one_le beyond
    have before := reckoned.unknown id (Int.le_of_lt (new ▸ later))
    exact ⟨(others id (Int.ne_of_gt later)).trans before.1, (against id).trans before.2⟩
  · by_cases same : id = row.id
    · exact same ▸ range
    · rw [others id same]
      exact reckoned.stored id

/-- An order that is taken back keeps what was open of it. -/
theorem Reckoned.cancel (reckoned : Reckoned books draws) (formed : books.WellFormed) {row : Order}
    (found : books.order? row.id = some row)
    (orders : after.orders = (books.setOrder row.id row.remaining .canceled).orders) : Reckoned after draws := by
  obtain ⟨present, _⟩ := formed.order?_eq_some.mp found
  refine ⟨?_, ?_, reckoned.stored, reckoned.fills⟩
  · rw [orders]
    refine Books.forall_mem_setOrder (fun other member _ => reckoned.rows other member) ?_
    intro other member same
    rw [formed.orderIds.unique member present same]
    exact reckoned.rows row present
  · rw [orders, nextId_setOrder]
    exact reckoned.unknown

/-- What a fill takes off an order goes on record against it. -/
theorem Reckoned.fill (reckoned : Reckoned books draws) (formed : books.WellFormed) {ticket : Ticket}
    {resting : Order} {quantity : Int} {fill : Fill} (done : FillDone ticket resting quantity books fill after) :
    Reckoned after (draws.add fill) := by
  obtain ⟨row, found, ⟨left, _⟩, _⟩ := done.row
  obtain ⟨present, own⟩ := formed.order?_eq_some.mp found
  have known := reckoned.rows row present
  have named : fill.resting.id = row.id := done.resting_id.trans own.symm
  refine ⟨?_, ?_, reckoned.stored, forall_mem_append_singleton reckoned.fills ?_⟩
  · rw [done.orders, ← own]
    refine Books.forall_mem_setOrder (fun other member different => ?_) fun other member same => ?_
    · rw [draws.add_total_of_ne (named ▸ Ne.symm different)]
      exact reckoned.rows other member
    · have total := draws.add_total_self fill
      rw [named, ← known, done.quantity_eq] at total
      have missing : row.initial - (resting.remaining - quantity) = (draws.add fill).total row.id := by omega
      rw [formed.orderIds.unique member present same]
      exact missing
  · rw [done.orders, nextId_setOrder]
    intro id beyond
    have before := (formed.orderIds.range present).2
    have different : fill.resting.id ≠ id := named ▸ Int.ne_of_lt (Int.lt_of_lt_of_le before beyond)
    rw [draws.add_against_of_ne different]
    exact reckoned.unknown id beyond
  · exact done.quantity_eq ▸ done.positive

theorem Effect.reckoned (effect : Effect books draws after drawn) (formed : books.WellFormed)
    (reckoned : Reckoned books draws) : Reckoned after drawn := by
  cases effect with
  | none orders => exact ⟨orders ▸ reckoned.rows, orders ▸ reckoned.unknown, reckoned.stored, reckoned.fills⟩
  | @added row new whole orders =>
    have clear := (reckoned.unknown row.id (Int.le_of_eq new.symm)).1
    refine reckoned.append formed new orders ?_ (reckoned.stored row.id) (fun _ _ => rfl) rfl
    rw [clear, whole, Int.sub_self]
  | @stored row filled new range left orders =>
    have recorded : (draws.store row.id filled).stored row.id = filled := draws.store_self row.id filled
    refine reckoned.append formed new orders ?_ ?_ (fun id different => draws.store_of_ne different filled) rfl
    · rw [recorded, left]
    · rw [recorded]
      exact range
  | canceled found _ orders => exact reckoned.cancel formed found orders
  | filled done => exact reckoned.fill formed done

/-- A closed order is out of reach: no scope changes it and no fill is made against it. -/
theorem Effect.closed (effect : Effect books draws after drawn) (formed : books.WellFormed) {order : Order}
    (member : order ∈ books.orders) (closed : order.status ≠ .active) :
    order ∈ after.orders ∧ drawn.against order.id = draws.against order.id := by
  have unmoved {row : Order} {remaining : Int} {status : Status} (found : books.order? row.id = some row)
      (active : row.status = .active) :
      order.id ≠ row.id ∧ order ∈ (books.setOrder row.id remaining status).orders := by
    have different : order.id ≠ row.id := by
      intro same
      rw [formed.orderIds.unique member (formed.order?_eq_some.mp found).1 same] at closed
      exact closed active
    exact ⟨different, List.mem_map.mpr ⟨order, member, if_neg different⟩⟩
  cases effect with
  | none orders => exact ⟨orders ▸ member, rfl⟩
  | added _ _ orders => exact ⟨orders ▸ List.mem_append_left _ member, rfl⟩
  | stored _ _ _ orders => exact ⟨orders ▸ List.mem_append_left _ member, rfl⟩
  | canceled found active orders => exact ⟨orders ▸ (unmoved found active).2, rfl⟩
  | @filled ticket resting quantity fill done =>
    obtain ⟨row, found, ⟨_, active⟩, _⟩ := done.row
    have own := (formed.order?_eq_some.mp found).2
    obtain ⟨different, kept⟩ := unmoved (own.symm ▸ found) active
    rw [own] at kept different
    refine ⟨done.orders ▸ kept, draws.add_against_of_ne ?_⟩
    rw [done.resting_id]
    exact Ne.symm different

/-- A fill against an order that is no longer as it was listed fails, whatever it has moved by then. -/
theorem Scope.fill_of_stale (calm : books.Calm) (ticket : Ticket) {resting : Order} (quantity : Int)
    (stale : ∀ row, books.order? resting.id = some row →
      row.remaining ≠ resting.remaining ∨ row.status ≠ .active) :
    ∃ cause, fill ticket resting quantity books = (.error cause, books) := by
  match ran : fill ticket resting quantity books with
  | (.error cause, after) =>
    obtain rfl := fill_of_error ran
    exact ⟨cause, rfl⟩
  | (.ok fill, after) =>
    obtain ⟨row, found, ⟨left, active⟩, _⟩ := (fill_of_ok calm.steady ran).row
    rcases stale row found with different | closed
    · exact absurd left different
    · exact absurd active closed

namespace Floor

variable {floor : Floor}

/-- A floor with calm books from which nothing was drawn that is not on record. -/
structure Sound (floor : Floor) : Prop where
  calm : floor.books.Calm
  reckoned : Reckoned floor.books floor.draws

theorem sound_empty : Sound {} := ⟨Books.calm_empty, reckoned_empty⟩

theorem Sound.step (sound : floor.Sound) {move : Move} (tame : move.Tame) : (floor.step move).Sound := by
  obtain ⟨effect, calm⟩ := step_effect tame sound.calm
  exact ⟨calm, effect.reckoned sound.calm.formed sound.reckoned⟩

theorem Sound.run (sound : floor.Sound) {moves : List Move} (tame : ∀ move ∈ moves, move.Tame) :
    (floor.run moves).Sound := by
  induction moves generalizing floor with
  | nil => exact sound
  | cons move rest ih =>
    have later : ∀ other ∈ rest, other.Tame := fun other member => tame other (List.mem_cons_of_mem _ member)
    exact ih (sound.step (tame move List.mem_cons_self)) later

/-- Whatever happens on the floor, a closed order stays as it is and is filled no more. -/
theorem Sound.run_closed (sound : floor.Sound) {moves : List Move} (tame : ∀ move ∈ moves, move.Tame)
    {order : Order} (member : order ∈ floor.books.orders) (closed : order.status ≠ .active) :
    order ∈ (floor.run moves).books.orders ∧
      (floor.run moves).draws.against order.id = floor.draws.against order.id := by
  induction moves generalizing floor with
  | nil => exact ⟨member, rfl⟩
  | cons move rest ih =>
    have first := tame move List.mem_cons_self
    obtain ⟨kept, same⟩ := (step_effect first sound.calm).1.closed sound.calm.formed member closed
    have later : ∀ other ∈ rest, other.Tame := fun other member => tame other (List.mem_cons_of_mem _ member)
    obtain ⟨keptOn, sameStill⟩ := ih (sound.step first) later kept
    exact ⟨keptOn, sameStill.trans same⟩

/-- A matcher whose listing is out of date stops, and nothing else changes on the floor. -/
theorem Sound.proceed_stale (sound : floor.Sound) {index : Nat} {matcher : Matcher} {resting : Order}
    {rest : List Order} (there : floor.matchers[index]? = some matcher) (running : matcher.result = none)
    (listed : matcher.page = resting :: rest)
    (stale : ∀ row, floor.books.order? resting.id = some row →
      row.remaining ≠ resting.remaining ∨ row.status ≠ .active) :
    ∃ cause, floor.proceed index = { floor with
      matchers := floor.matchers.set index
        { matcher with result := some (.error ⟨matcher.progress, cause⟩) } } := by
  obtain ⟨cause, failed⟩ := fill_of_stale sound.calm matcher.ticket
    (min (matcher.progress.openAmount matcher.ticket.amount) resting.remaining) stale
  refine ⟨cause, ?_⟩
  unfold proceed
  simp only [there, matcher.step_failed running listed failed, Option.elim_none]

/-- However matchers and others take turns at the books, no order is drawn on twice: what is missing from it is
what it was stored with as filled and the fills against it, a closed order is filled no more, and a fill of an
order that has changed since it was listed fails and changes nothing. -/
theorem no_double_spend {moves : List Move} (tame : ∀ move ∈ moves, move.Tame) :
    let floor := run {} moves
    (∀ order ∈ floor.books.orders,
      order.initial - order.remaining =
          floor.draws.stored order.id + ((floor.draws.against order.id).map (·.quantity)).sum ∧
        floor.draws.stored order.id + ((floor.draws.against order.id).map (·.quantity)).sum ≤ order.initial ∧
        0 ≤ floor.draws.stored order.id ∧ ∀ fill ∈ floor.draws.against order.id, 0 < fill.quantity) ∧
      (∀ order ∈ floor.books.orders, order.status ≠ .active →
        ∀ later : List Move, (∀ move ∈ later, move.Tame) → order ∈ (floor.run later).books.orders ∧
          (floor.run later).draws.against order.id = floor.draws.against order.id) ∧
      ∀ index matcher resting rest, floor.matchers[index]? = some matcher → matcher.result = none →
        matcher.page = resting :: rest →
        (∀ row, floor.books.order? resting.id = some row →
          row.remaining ≠ resting.remaining ∨ row.status ≠ .active) →
        ∃ cause, floor.step (.proceed index) = { floor with
          matchers := floor.matchers.set index
            { matcher with result := some (.error ⟨matcher.progress, cause⟩) } } := by
  intro floor
  have sound : floor.Sound := sound_empty.run tame
  refine ⟨fun order member => ?_, fun order member closed later tameLater => ?_, ?_⟩
  · have drawn := sound.reckoned.rows order member
    have left := (sound.calm.orders order member).remaining.1
    refine ⟨drawn, ?_, sound.reckoned.stored order.id, fun fill made => ?_⟩
    · unfold Draws.total at drawn
      omega
    · exact sound.reckoned.fills fill (List.mem_filter.mp made).1
  · exact sound.run_closed tameLater member closed
  · intro index matcher resting rest there running listed stale
    exact sound.proceed_stale there running listed stale

/-- Two bidders list the same ask. After the first has filled a part of it, the second comes too late. -/
theorem no_double_spend_of_late_bidder :
    let bid (amount : Int) : Ticket := ⟨.bid, ⟨.btc, .usdt⟩, 20, amount, 4, 3⟩
    let ask : Order := ⟨1, .ask, ⟨.btc, .usdt⟩, 1, 2, 20, 5, 5, .active⟩
    let moves : List Move := [.perform (.openAccount "ann" .btc), .perform (.openAccount "ann" .usdt),
      .perform (.openAccount "bob" .btc), .perform (.openAccount "bob" .usdt), .perform (.deposit 1 10),
      .perform (.deposit 4 200), .store ⟨.ask, ⟨.btc, .usdt⟩, 20, 5, 1, 2⟩ 0, .join (bid 3) 10, .join (bid 5) 10,
      .proceed 0, .proceed 1, .proceed 0]
    (∀ move ∈ moves, move.Tame) ∧
      ((run {} moves).draws.against 1).map (·.quantity) = [3] ∧
      (run {} moves).books.order? 1 = some { ask with remaining := 2 } ∧
      ∃ matcher cause, (run {} moves).matchers[1]? = some matcher ∧ matcher.page = [ask] ∧
        (run {} moves).step (.proceed 1) = { run {} moves with
          matchers := (run {} moves).matchers.set 1
            { matcher with result := some (.error ⟨matcher.progress, cause⟩) } } := by
  intro bid ask moves
  have tame : ∀ move ∈ moves, move.Tame := by
    simp [moves, Move.Tame, Operation.Tame]
  have waiting : (run {} moves).matchers[1]?.map (fun matcher => (matcher.page, matcher.result.isNone)) =
      some ([ask], true) := by decide +kernel
  obtain ⟨matcher, there, same⟩ := Option.map_eq_some_iff.mp waiting
  obtain ⟨listed, running⟩ := Prod.mk.inj same
  have changed : (run {} moves).books.order? 1 = some { ask with remaining := 2 } := by decide +kernel
  obtain ⟨cause, stopped⟩ := (no_double_spend tame).2.2 1 matcher ask [] there
    (Option.isNone_iff_eq_none.mp running) listed fun row found =>
      .inl (by rw [Option.some.inj (found.symm.trans changed)]; decide)
  exact ⟨tame, by decide +kernel, changed, matcher, cause, there, listed, stopped⟩

end Floor

end Bourse
