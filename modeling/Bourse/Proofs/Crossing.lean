import Bourse.Proofs.Growth
import Bourse.Proofs.Placement

namespace Bourse

open Scope

/-- Two active orders that could be traded against each other. -/
def Order.Meets (order other : Order) : Prop :=
  (order.status = .active ∧ other.status = .active) ∧
    (other.side = order.side.opposite ∧ other.pair = order.pair) ∧ order.side.Crosses order.price other.price

/-- Orders that meet did so before, when more of them was open. -/
theorem Order.Meets.before {order other now later : Order} (meets : now.Meets later) (develops : order.Develops now)
    (developsToo : other.Develops later) : order.Meets other := by
  obtain ⟨⟨active, activeToo⟩, ⟨side, pair⟩, crosses⟩ := meets
  rw [develops.terms, developsToo.terms] at side pair crosses
  exact ⟨⟨develops.active active, developsToo.active activeToo⟩, ⟨side, pair⟩, crosses⟩

/-- Where two orders meet, the younger one is among the excepted. -/
def Books.CrossedOnlyBy (excepted : OrderId → Prop) (books : Books) : Prop :=
  ∀ older ∈ books.orders, ∀ younger ∈ books.orders, older.id < younger.id → younger.Meets older → excepted younger.id

namespace Books.CrossedOnlyBy

variable {excepted : OrderId → Prop} {books after : Books}

theorem mono (crossed : books.CrossedOnlyBy excepted) {more : OrderId → Prop} (wider : ∀ id, excepted id → more id) :
    books.CrossedOnlyBy more :=
  fun older member younger present before meets => wider _ (crossed older member younger present before meets)

/-- Where no order is added, none comes to meet another. -/
theorem grown (crossed : books.CrossedOnlyBy excepted) (grown : books.Grown after) (formed : after.WellFormed)
    (ids : after.orderIds = books.orderIds) : after.CrossedOnlyBy excepted := by
  intro older member younger present before meets
  obtain ⟨olderThen, standing, develops⟩ := grown.earlier formed ids older member
  obtain ⟨youngerThen, standingToo, developsToo⟩ := grown.earlier formed ids younger present
  rw [develops.id_eq, developsToo.id_eq] at before
  rw [developsToo.id_eq]
  exact crossed olderThen standing youngerThen standingToo before (meets.before developsToo develops)

/-- An order that is added meets none of those before it, or is excepted. -/
theorem append (crossed : books.CrossedOnlyBy excepted) (formed : books.WellFormed) {row : Order}
    (new : row.id = nextId books.orders) (apart : (∀ order ∈ books.orders, ¬row.Meets order) ∨ excepted row.id) :
    CrossedOnlyBy excepted { books with orders := books.orders ++ [row] } := by
  have range {order : Order} (member : order ∈ books.orders) : order.id < row.id :=
    new ▸ (formed.orderIds.range member).2
  intro older member younger present before meets
  rcases List.mem_append.mp present with old | last
  · rcases List.mem_append.mp member with standing | lastToo
    · exact crossed older standing younger old before meets
    · -- No order is older than an order that is listed before it.
      rw [List.mem_singleton.mp lastToo] at before
      exact absurd (range old) (Int.not_lt.mpr (Int.le_of_lt before))
  · rw [List.mem_singleton.mp last] at before meets ⊢
    rcases apart with none | other
    · rcases List.mem_append.mp member with standing | lastToo
      · exact absurd meets (none older standing)
      · rw [List.mem_singleton.mp lastToo] at before
        exact absurd before (Int.lt_irrefl _)
    · exact other

end Books.CrossedOnlyBy

/-- An operation that neither adds an order nor records a fill, and calls up no competing writer. -/
def Operation.Passive : Operation → Prop
  | addOrder _ | recordFill .. | race _ => False
  | _ => True

theorem Operation.Passive.tame {operation : Operation} (passive : operation.Passive) : operation.Tame := by
  cases operation with
  | recordFill | race => exact passive
  | _ => trivial

theorem Scope.cancelOrder_keeps_orderIds (id : OrderId) : Keeps (·.orderIds) (cancelOrder id) := by
  refine (keeps_read _).bind fun current => (keeps_ofExcept _).bind fun status =>
    (writeOrder_keeps_orderIds _ _ _ _).bind fun written => ?_
  split
  · exact keeps_pure _
  · exact conflict_keeps _ _ _

theorem Operation.Passive.keeps_orderIds {operation : Operation} (passive : operation.Passive) :
    Keeps (·.orderIds) operation.perform := by
  rcases operation.perform_keeps_orders passive.tame with ⟨ticket, rfl⟩ | ⟨id, rfl⟩ | kept
  · exact passive.elim
  · exact (cancelOrder_keeps_orderIds id).map _
  · intro books
    have same : (operation.perform books).2.orders = books.orders := kept books
    simp only [Books.orderIds, same]

theorem Desk.cancel_orderIds (desk : Desk) (principal : Principal) (id : OrderId) (books : Books) :
    (desk.cancel principal id books).books.orderIds = books.orderIds := by
  have kept (id : OrderId) : Secures (fun after : Books => after.orderIds = books.orderIds) (cancelOrder id) :=
    (cancelOrder_keeps_orderIds id).secures fun same held => same.trans held
  exact desk.cancel_preserves principal id kept rfl

/-- Only submissions add orders. -/
theorem Call.run_orderIds (desk : Desk) {call : Call} (passive : call.Each Operation.Passive) {books : Books}
    (calm : books.Calm) :
    (∃ principal ticket, call = .submit principal ticket) ∨ (call.run desk books).2.orderIds = books.orderIds := by
  cases call with
  | submit principal ticket => exact .inl ⟨principal, ticket, rfl⟩
  | cancel principal id => exact .inr (desk.cancel_orderIds principal id books)
  | lookUp => exact .inr rfl
  | matchTicket ticket size => exact .inr (calm.matchTicket_served ticket size).orderIds
  | perform operation => exact .inr ((Operation.Passive.keeps_orderIds passive).atomic books)
  | batch operations tolerant abort =>
    exact .inr (Batch.commit_keeps (fun operation member => (passive operation member).keeps_orderIds) _ _ books)

theorem Call.run_writes_of_passive (desk : Desk) {call : Call} (passive : call.Each Operation.Passive)
    {books : Books} (calm : books.Calm) : Writes False books (call.run desk books).2 :=
  call.run_writes desk (.inr (passive.imp fun passive => passive.tame.fair)) (.inr calm.quiet)

/-- A reply to a submission that its order was interrupted, and stored under `id`. -/
def Reply.Interrupted (reply : Reply) (id : OrderId) : Prop :=
  ∃ filled cause events, reply = .receipt (.error (.interrupted id filled cause)) events

/-- The order was stored by a submission, which was answered that it was interrupted. -/
def Visit.Interrupts (visit : Visit) (id : OrderId) : Prop :=
  (∃ principal ticket, visit.call = .submit principal ticket) ∧ visit.reply.Interrupted id ∧
    id ∉ visit.books.orderIds ∧ id ∈ visit.after.orderIds

/-- A submission leaves the books crossed as they were, but for its own order if that was interrupted. -/
theorem Submission.crossedOnlyBy {ticket : Ticket} {books after : Books} {result : Except Failure Receipt}
    {excepted : OrderId → Prop} (submission : Submission ticket books result after) (calm : books.Calm)
    (crossed : books.CrossedOnlyBy excepted)
    (interrupted : ∀ id filled cause, result = .error (.interrupted id filled cause) → id ∉ books.orderIds →
      id ∈ after.orderIds → excepted id) : after.CrossedOnlyBy excepted := by
  have served {fills middle} (served : Served ticket books fills middle) : middle.CrossedOnlyBy excepted :=
    crossed.grown ((served.writes calm).grown calm.formed) (served.calm calm).formed served.orderIds
  cases submission with
  | refused => exact crossed
  | unstored ended => exact served ended
  | @added fills middle row result ended _ row_eq exhausted =>
    have between := (ended.calm calm).formed
    have new : row.id = nextId middle.orders := by rw [row_eq]; rfl
    refine (served ended).append between new ?_
    by_cases active : row.status = .active
    · rcases exhausted active with none | ⟨filled, cause, rfl⟩
      · left
        intro order member meets
        have crosses : order ∈ middle.crossedBy ticket := by
          obtain ⟨⟨_, open_⟩, ⟨side, pair⟩, crosses⟩ := meets
          rw [row_eq] at side pair crosses
          exact List.mem_filter.mpr ⟨member, decide_eq_true ⟨open_, side, pair, crosses⟩⟩
        rw [none] at crosses
        cases crosses
      · right
        have fresh : row.id ∉ books.orderIds := by
          rw [← ended.orderIds, new]
          exact between.nextId_new
        have added := List.mem_append_right middle.orders (List.mem_singleton_self row)
        exact interrupted _ _ _ rfl fresh (List.mem_map_of_mem added)
    · exact .inl fun order _ meets => active meets.1.1

/-- After a call the books are crossed as they were, but for an order that was interrupted in it. -/
theorem Visit.crossedOnlyBy (visit : Visit) {excepted : OrderId → Prop}
    (passive : visit.call.Each Operation.Passive) (calm : visit.books.Calm)
    (crossed : visit.books.CrossedOnlyBy excepted) :
    visit.after.CrossedOnlyBy fun id => excepted id ∨ visit.Interrupts id := by
  obtain ⟨desk, call, books⟩ := visit
  have wider : books.CrossedOnlyBy fun id => excepted id ∨ Visit.Interrupts ⟨desk, call, books⟩ id :=
    crossed.mono fun _ => .inl
  rcases call.run_orderIds desk passive calm with ⟨principal, ticket, rfl⟩ | ids
  · refine (desk.submit_submission principal ticket calm).crossedOnlyBy calm wider ?_
    intro id filled cause answer fresh added
    have reply : Visit.reply ⟨desk, .submit principal ticket, books⟩ =
        .receipt (.error (.interrupted id filled cause)) (desk.submit principal ticket books).events := by
      rw [← answer]
      rfl
    exact .inr ⟨⟨principal, ticket, rfl⟩, ⟨filled, cause, _, reply⟩, fresh, added⟩
  · have written := call.run_writes_of_passive desk passive calm
    exact wider.grown (written.grown calm.formed) (written.calm calm).formed ids

theorem History.crossedOnlyBy {past : List Visit} {books : Books}
    (history : History (fun _ call => call.Each Operation.Passive) past books) :
    books.CrossedOnlyBy fun id => ∃ visit ∈ past, visit.Interrupts id := by
  induction history with
  | start => exact List.forall_mem_nil _
  | @next past books earlier desk call passive ih =>
    have calm : books.Calm := earlier.reach.calm fun passive => passive.imp fun passive => passive.tame.fair
    refine (Visit.crossedOnlyBy ⟨desk, call, books⟩ passive calm ih).mono fun id excepted => ?_
    rcases excepted with ⟨visit, member, interrupts⟩ | interrupts
    · exact ⟨visit, List.mem_append_left _ member, interrupts⟩
    · exact ⟨_, List.mem_append_right _ List.mem_cons_self, interrupts⟩

/-- An active bid is at or above an active ask of its pair only where the younger of the two was interrupted when it
came in; where nothing was ever interrupted, it is below all of them. -/
theorem History.crossed_only_by_interrupted {past : List Visit} {books : Books}
    (history : History (fun _ call => call.Each Operation.Passive) past books) {bid ask : Order}
    (bids : bid ∈ books.orders ∧ bid.side = .bid ∧ bid.status = .active)
    (asks : ask ∈ books.orders ∧ ask.side = .ask ∧ ask.status = .active) (pair : bid.pair = ask.pair) :
    (ask.price ≤ bid.price → ∃ visit ∈ past, visit.Interrupts (max bid.id ask.id)) ∧
      ((∀ visit ∈ past, ∀ id, ¬visit.reply.Interrupted id) → bid.price < ask.price) := by
  obtain ⟨bidPresent, bidSide, bidActive⟩ := bids
  obtain ⟨askPresent, askSide, askActive⟩ := asks
  have formed := history.reach.wellFormed
  have crossed := history.crossedOnlyBy
  have only : ask.price ≤ bid.price → ∃ visit ∈ past, visit.Interrupts (max bid.id ask.id) := by
    intro crossing
    rcases Int.lt_trichotomy bid.id ask.id with before | same | behind
    · rw [Int.max_eq_right (Int.le_of_lt before)]
      refine crossed bid bidPresent ask askPresent before ⟨⟨askActive, bidActive⟩, ⟨?_, pair⟩, ?_⟩
      · rw [bidSide, askSide]
        rfl
      · rw [askSide]
        exact crossing
    · rw [formed.orderIds.unique bidPresent askPresent same, askSide] at bidSide
      cases bidSide
    · rw [Int.max_eq_left (Int.le_of_lt behind)]
      refine crossed ask askPresent bid bidPresent behind ⟨⟨bidActive, askActive⟩, ⟨?_, pair.symm⟩, ?_⟩
      · rw [bidSide, askSide]
        rfl
      · rw [bidSide]
        exact crossing
  refine ⟨only, fun smooth => ?_⟩
  by_contra crossing
  obtain ⟨visit, member, _, interrupted, _⟩ := only (Int.not_lt.mp crossing)
  exact smooth visit member _ interrupted

/-- The bid fills the cheaper ask and is interrupted for lack of funds, at the price of the other ask. -/
theorem crossed_only_by_interrupted_bid :
    let calls := twoAsks ++ [.submit ⟨"bob"⟩ ⟨.bid, ⟨.btc, .usdt⟩, 30, 8, 4, 3⟩]
    let past := Desk.visits {} calls .empty
    let books := Desk.serve {} calls .empty
    let ask : Order := ⟨2, .ask, ⟨.btc, .usdt⟩, 1, 2, 30, 5, 5, .active⟩
    let bid : Order := ⟨3, .bid, ⟨.btc, .usdt⟩, 4, 3, 30, 8, 3, .active⟩
    (∀ call ∈ calls, call.Each Operation.Passive) ∧ (bid ∈ books.orders ∧ ask ∈ books.orders) ∧
      ask.price ≤ bid.price ∧ ∃ visit ∈ past, visit.Interrupts 3 := by
  intro calls past books ask bid
  have passive : ∀ call ∈ calls, call.Each Operation.Passive := by
    simp [calls, twoAsks, Call.Each, Operation.Passive]
  have history : History (fun _ call => call.Each Operation.Passive) past books := .of_calls passive
  have bidden : bid ∈ books.orders := by decide +kernel
  have asked : ask ∈ books.orders := by decide +kernel
  have crossing : ask.price ≤ bid.price := Int.le_refl 30
  have only := history.crossed_only_by_interrupted ⟨bidden, rfl, rfl⟩ ⟨asked, rfl, rfl⟩ rfl
  exact ⟨passive, ⟨bidden, asked⟩, crossing, only.1 crossing⟩

end Bourse
