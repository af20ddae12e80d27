import Bourse.Proofs.Handling
import Bourse.Proofs.Totals
import Bourse.Session

namespace Bourse

open Scope

namespace Event

/-- What an event says was filled of an order, whether it came in or rested. -/
def quantityFor (id : OrderId) : Event → Int
  | filled order resting _ quantity _ => if order = id ∨ resting = id then quantity else 0
  | _ => 0

/-- What was open of an order when it was taken back, if that is what an event reports. -/
def leftOf? (id : OrderId) : Event → Option Int
  | cancelled order remaining => if order = id then some remaining else none
  | _ => none

end Event

/-- All that events say was filled of an order. -/
def filledIn (events : List Event) (id : OrderId) : Int := (events.map (·.quantityFor id)).sum

/-- The reports that an order was taken back, each with what was open of it. -/
def cancellationsIn (events : List Event) (id : OrderId) : List Int := events.filterMap (·.leftOf? id)

section Events

variable {events : List Event} {id : OrderId}

theorem filledIn_append (events more : List Event) (id : OrderId) :
    filledIn (events ++ more) id = filledIn events id + filledIn more id := by
  simp only [filledIn, List.map_append, List.sum_append]

theorem cancellationsIn_append (events more : List Event) (id : OrderId) :
    cancellationsIn (events ++ more) id = cancellationsIn events id ++ cancellationsIn more id :=
  List.filterMap_append

/-- Events that name no order say nothing of any. -/
theorem filledIn_of_silent (silent : ∀ event ∈ events, event.order? = none) (id : OrderId) :
    filledIn events id = 0 := by
  refine List.sum_eq_zero fun quantity member => ?_
  obtain ⟨event, present, rfl⟩ := List.mem_map.mp member
  have silent := silent event present
  cases event with
  | accepted => rfl
  | _ => cases silent

theorem cancellationsIn_of_silent (silent : ∀ event ∈ events, event.order? = none) (id : OrderId) :
    cancellationsIn events id = [] := by
  refine List.filterMap_eq_nil_iff.mpr fun event present => ?_
  have silent := silent event present
  cases event with
  | accepted => rfl
  | _ => cases silent

theorem filledIn_fills (id : OrderId) (fills : List Fill) (other : OrderId) :
    filledIn (fills.map (.ofFill id)) other =
      sumWhere (fun fill => id = other ∨ fill.resting.id = other) (·.quantity) fills := by
  induction fills with
  | nil => rfl
  | cons fill rest ih =>
    rw [sumWhere_cons, ← ih]
    rfl

theorem cancellationsIn_fills (id : OrderId) (fills : List Fill) (other : OrderId) :
    cancellationsIn (fills.map (.ofFill id)) other = [] := by
  refine List.filterMap_eq_nil_iff.mpr fun event present => ?_
  obtain ⟨fill, _, rfl⟩ := List.mem_map.mp present
  rfl

/-- The last event on an order that is stored reports no fill and no cancellation. -/
theorem Event.ending_plain {last : Event} {row : Order} {filled : Int}
    (ending : last = .ofStored row filled ∨ ∃ reason, last = .interrupted row.id filled reason) (id : OrderId) :
    last.quantityFor id = 0 ∧ last.leftOf? id = none := by
  rcases ending with rfl | ⟨reason, rfl⟩
  · unfold ofStored
    split
    · exact ⟨rfl, rfl⟩
    · exact ⟨rfl, rfl⟩
  · exact ⟨rfl, rfl⟩

/-- What is reported of an order that is stored tells of its fills only. -/
theorem filledIn_storedReport {row : Order} {last : Event} {filled : Int}
    (ending : last = .ofStored row filled ∨ ∃ reason, last = .interrupted row.id filled reason) (ticket : Ticket)
    (fills : List Fill) (id : OrderId) :
    filledIn (storedReport ticket row.id fills last) id =
      sumWhere (fun fill => row.id = id ∨ fill.resting.id = id) (·.quantity) fills := by
  have plain : filledIn [last] id = 0 := by
    simp only [filledIn, List.map_singleton, List.sum_singleton, (Event.ending_plain ending id).1]
  have accepted : filledIn [.accepted ticket] id = 0 := rfl
  rw [storedReport, ← List.singleton_append, filledIn_append, filledIn_append, filledIn_fills, accepted, plain,
    Int.zero_add, Int.add_zero]

theorem cancellationsIn_storedReport {row : Order} {last : Event} {filled : Int}
    (ending : last = .ofStored row filled ∨ ∃ reason, last = .interrupted row.id filled reason) (ticket : Ticket)
    (fills : List Fill) (id : OrderId) : cancellationsIn (storedReport ticket row.id fills last) id = [] := by
  have plain : cancellationsIn [last] id = [] :=
    List.filterMap_eq_nil_iff.mpr (List.forall_mem_singleton.mpr (Event.ending_plain ending id).2)
  have accepted : cancellationsIn [.accepted ticket] id = [] := rfl
  rw [storedReport, ← List.singleton_append, cancellationsIn_append, cancellationsIn_append, cancellationsIn_fills,
    accepted, plain]
  rfl

end Events

/-- Events tell of the orders what the books hold of them: how much was filled, and which were taken back. -/
structure Replays (events : List Event) (books : Books) : Prop where
  drawn : ∃ draws, Reckoned books draws ∧ ∀ id, filledIn events id = draws.total id
  canceled : ∀ order ∈ books.orders,
    cancellationsIn events order.id = if order.status = .canceled then [order.remaining] else []
  unknown : ∀ id, nextId books.orders ≤ id → cancellationsIn events id = []

theorem replays_empty : Replays [] .empty where
  drawn := ⟨{}, reckoned_empty, fun _ => rfl⟩
  canceled := List.forall_mem_nil _
  unknown := fun _ _ => rfl

section Step

variable {ticket : Ticket} {start books after : Books} {fills : List Fill} {draws : Draws} {events : List Event}

theorem Draws.total_append (draws : Draws) (fills : List Fill) (id : OrderId) :
    Draws.total { draws with fills := draws.fills ++ fills } id =
      draws.total id + sumWhere (·.resting.id = id) (·.quantity) fills := by
  simp only [total, against, sumWhere, List.filter_append, List.map_append, List.sum_append, Int.add_assoc]

theorem Served.reckoned (served : Served ticket start fills books) (calm : start.Calm)
    (reckoned : Reckoned start draws) : Reckoned books { draws with fills := draws.fills ++ fills } := by
  induction served with
  | none => simpa using reckoned
  | @next fills books resting quantity fill after earlier standing tradable filled ih =>
    have before := earlier.calm calm
    have later := ih.fill before.formed (fill_of_ok before.steady filled)
    rwa [Draws.add, List.append_assoc] at later

theorem nextId_served (served : Served ticket start fills books) :
    nextId books.orders = nextId start.orders := by
  have same := congrArg List.length served.orderIds
  unfold Books.orderIds at same
  rw [List.length_map, List.length_map] at same
  unfold nextId
  rw [same]

theorem Reckoned.total_unknown (reckoned : Reckoned books draws) {id : OrderId}
    (beyond : nextId books.orders ≤ id) :
    draws.total id = 0 := by
  obtain ⟨stored, against⟩ := reckoned.unknown id beyond
  rw [Draws.total, stored, against]
  rfl

/-- What is reported of an order that is stored counts for it and for the orders that it was filled against. -/
theorem Reckoned.total_stored (reckoned : Reckoned start draws) (served : Served ticket start fills books)
    (told : ∀ id, filledIn events id = draws.total id) (calm : start.Calm) {row : Order}
    (new : row.id = nextId books.orders) (id : OrderId) :
    filledIn events id + sumWhere (fun fill => row.id = id ∨ fill.resting.id = id) (·.quantity) fills =
      (Draws.store { draws with fills := draws.fills ++ fills } row.id (quantityOf fills)).total id := by
  by_cases own : row.id = id
  · -- The order is new: only its own fills are reported of it, and nothing rests on it yet.
    subst own
    have all : sumWhere (fun fill : Fill => row.id = row.id ∨ fill.resting.id = row.id) (·.quantity) fills =
        quantityOf fills := by
      simp [sumWhere, quantityOf]
    have none := ((served.reckoned calm reckoned).unknown row.id (Int.le_of_eq new.symm)).2
    have before : draws.total row.id = 0 :=
      reckoned.total_unknown (Int.le_of_eq ((nextId_served served).symm.trans new.symm))
    rw [all, told, before, Draws.total, Draws.store_self]
    have same : Draws.against
        (.store { draws with fills := draws.fills ++ fills } row.id (quantityOf fills)) row.id = [] := none
    rw [same]
    simp
  · have others : sumWhere (fun fill => row.id = id ∨ fill.resting.id = id) (·.quantity) fills =
        sumWhere (·.resting.id = id) (·.quantity) fills := sumWhere_congr fun fill _ => or_iff_right own
    rw [others, told, ← draws.total_append, Draws.total, Draws.total, Draws.store_of_ne _ (Ne.symm own)]
    rfl

theorem Replays.of_silent (replays : Replays events books) (formed : books.WellFormed) {more : List Event}
    (silent : ∀ event ∈ more, event.order? = none) (orders : after.orders = books.orders) :
    Replays (events ++ more) after := by
  obtain ⟨draws, reckoned, told⟩ := replays.drawn
  have canceled (id : OrderId) : cancellationsIn (events ++ more) id = cancellationsIn events id := by
    rw [cancellationsIn_append, cancellationsIn_of_silent silent, List.append_nil]
  refine ⟨⟨draws, (Effect.none orders).reckoned formed reckoned, fun id => ?_⟩, ?_, ?_⟩
  · rw [filledIn_append, filledIn_of_silent silent, Int.add_zero, told]
  · simp only [canceled, orders]
    exact replays.canceled
  · simp only [canceled, orders]
    exact replays.unknown

/-- An order that is stored brings a report of its fills, which the orders that it was filled against have seen. -/
theorem Replays.of_stored (replays : Replays events books) (calm : books.Calm) {desk : Desk}
    {principal : Principal} {row : Order} {last : Event}
    (stored : Stored desk principal ticket books fills after row last) :
    Replays (events ++ storedReport ticket row.id fills last) { after with orders := after.orders ++ [row] } := by
  obtain ⟨draws, reckoned, told⟩ := replays.drawn
  have served := stored.served
  have canceled (id : OrderId) :
      cancellationsIn (events ++ storedReport ticket row.id fills last) id = cancellationsIn events id := by
    rw [cancellationsIn_append, cancellationsIn_storedReport stored.ending, List.append_nil]
  have effect : Effect after { draws with fills := draws.fills ++ fills }
      { after with orders := after.orders ++ [row] } _ := .stored stored.new stored.within.1 stored.drawn rfl
  refine ⟨⟨_, effect.reckoned (served.calm calm).formed (served.reckoned calm reckoned), fun id => ?_⟩, ?_, ?_⟩
  · rw [← reckoned.total_stored served told calm stored.new, filledIn_append, filledIn_storedReport stored.ending]
  · simp only [canceled]
    refine forall_mem_append_singleton (fun order member => ?_) ?_
    · obtain ⟨old, present, rfl | ⟨⟨open_, left⟩, _, _, rfl⟩⟩ := served.order_before calm order member
      · exact replays.canceled order present
      · rw [if_neg left]
        have before := replays.canceled old present
        rw [open_, if_neg nofun] at before
        exact before
    · rw [if_neg stored.not_canceled]
      exact replays.unknown row.id (Int.le_of_eq ((nextId_served served).symm.trans stored.new.symm))
  · simp only [canceled, nextId_append]
    intro id beyond
    exact replays.unknown id (by rw [← nextId_served served]; omega)

/-- An order that is taken back brings the report of what was open of it. -/
theorem Replays.of_canceled (replays : Replays events books) (formed : books.WellFormed) {row : Order}
    (found : books.order? row.id = some row) (active : row.status = .active) :
    Replays (events ++ [.cancelled row.id row.remaining]) (books.setOrder row.id row.remaining .canceled) := by
  obtain ⟨draws, reckoned, told⟩ := replays.drawn
  obtain ⟨present, _⟩ := formed.order?_eq_some.mp found
  have others {id : OrderId} (different : row.id ≠ id) :
      cancellationsIn (events ++ [.cancelled row.id row.remaining]) id = cancellationsIn events id := by
    simp [cancellationsIn, Event.leftOf?, different]
  have own : cancellationsIn (events ++ [.cancelled row.id row.remaining]) row.id = [row.remaining] := by
    have before := replays.canceled row present
    rw [active, if_neg nofun] at before
    rw [cancellationsIn_append, before]
    simp [cancellationsIn, Event.leftOf?]
  have effect : Effect books draws (books.setOrder row.id row.remaining .canceled) draws :=
    .canceled found active rfl
  refine ⟨⟨draws, effect.reckoned formed reckoned, fun id => ?_⟩, ?_, fun id beyond => ?_⟩
  · rw [filledIn_append, ← told]
    exact Int.add_zero _
  · refine Books.forall_mem_setOrder (fun order member different => ?_) fun order member same => ?_
    · rw [others (Ne.symm different)]
      exact replays.canceled order member
    · rw [same, own]
      exact (if_pos rfl).symm
  · rw [nextId_setOrder] at beyond
    have before := (formed.orderIds.range present).2
    rw [others (Int.ne_of_lt (Int.lt_of_lt_of_le before beyond))]
    exact replays.unknown id beyond

/-- What a principal's call reports is what it does to the orders. -/
theorem Handled.replays {desk : Desk} {call : Call} {reply : Reply}
    (handled : Handled desk books call reply after) (calm : books.Calm) (replays : Replays events books) :
    Replays (events ++ reply.events) after := by
  have nothing : ∀ event ∈ ([] : List Event), event.order? = none := List.forall_mem_nil _
  cases handled with
  | still silent => exact replays.of_silent calm.formed silent rfl
  | opened => exact replays.of_silent calm.formed nothing rfl
  | deposited => exact replays.of_silent calm.formed nothing rfl
  | stored stored => exact replays.of_stored calm stored
  | canceled found active => exact replays.of_canceled calm.formed found active

end Step

/-- All that calls have reported, oldest first. -/
def reports (past : List Visit) : List Event := past.flatMap fun visit => visit.reply.events

theorem History.replays {past : List Visit} {books : Books} (history : History Call.RetailAt past books) :
    Replays (reports past) books := by
  induction history with
  | start => exact replays_empty
  | @next past books earlier desk call made ih =>
    have undisturbed := earlier.undisturbed
    have later : reports (past ++ [⟨desk, call, books⟩]) = reports past ++ (call.run desk books).1.events := by
      simp [reports, Visit.reply]
    rw [later]
    exact (made.2.handled undisturbed made.1).replays undisturbed.calm ih

/-- What a listener hears of the answers to commands. -/
def heard (responses : List Response) : List Event :=
  responses.flatMap fun
    | .reply _ events => events.getD []
    | _ => []

namespace Session

/-- Calls in a session are answered at its desk one after the other. -/
theorem run_calls (session : Session) (calls : List Call) :
    session.run (calls.map .call) =
      ((session.settings.desk.visits calls session.books).map fun visit =>
          .reply visit.reply (if session.settings.listening then visit.reply.events? else none),
        { session with books := session.settings.desk.serve calls session.books }) := by
  induction calls generalizing session with
  | nil => rfl
  | cons call rest ih =>
    simp only [List.map_cons, run, step, ih]
    rfl

/-- A listener hears all that is reported. -/
theorem heard_run {session : Session} (listening : session.settings.listening = true) (calls : List Call) :
    heard (session.run (calls.map .call)).1 = reports (session.settings.desk.visits calls session.books) := by
  rw [run_calls, heard, List.flatMap_map, reports]
  simp only [if_pos listening]
  rfl

theorem start_eq_ok {settings : DeskSettings} {durable : Bool} {session : Session}
    (started : start settings durable = .ok session) : session = ⟨settings, settings, durable, .empty⟩ := by
  unfold start at started
  match checked : settings.check with
  | .error failure => simp [checked, bind, Except.bind] at started
  | .ok () => simpa [checked, bind, Except.bind, pure, Except.pure] using started.symm

/-- A listener who has heard all events of a session knows of each order how much of it is gone, whether it was
taken back, and otherwise whether it is completed. -/
theorem events_replay {settings : DeskSettings} {durable : Bool} {session : Session}
    (started : start settings durable = .ok session) (shown : settings.accounts = .books)
    (listening : settings.listening = true) {calls : List Call} (retail : ∀ call ∈ calls, call.Retail)
    {order : Order} (member : order ∈ (session.run (calls.map .call)).2.books.orders) :
    let events := heard (session.run (calls.map .call)).1
    order.initial - order.remaining = filledIn events order.id ∧
      (order.status = .canceled ↔ (cancellationsIn events order.id).length = 1) ∧
      (∀ left ∈ cancellationsIn events order.id, left = order.remaining) ∧
      (order.status ≠ .canceled → (order.status = .completed ↔ filledIn events order.id = order.initial)) := by
  obtain rfl := start_eq_ok started
  have desk : settings.desk.directory = .ofBooks := congrArg AccountSource.directory shown
  have history : History Call.RetailAt (settings.desk.visits calls .empty) (settings.desk.serve calls .empty) :=
    .of_calls fun call present => ⟨desk, retail call present⟩
  rw [run_calls] at member
  intro events
  have all : events = reports (settings.desk.visits calls .empty) := heard_run (by exact listening) calls
  have replays : Replays events _ := all ▸ history.replays
  obtain ⟨draws, reckoned, told⟩ := replays.drawn
  have drawn := (reckoned.rows order member).trans (told order.id).symm
  have canceled := replays.canceled order member
  have completed := (history.undisturbed.calm.orders order member).completed
  refine ⟨drawn, ?_, ?_, fun _ => ?_⟩
  · rw [canceled]
    by_cases back : order.status = .canceled
    · simp [back]
    · simp [back]
  · rw [canceled]
    intro left present
    split at present
    · exact List.mem_singleton.mp present
    · cases present
  · rw [completed]
    omega

/-- The bid fills the first ask and is interrupted at the second, which is then taken back. -/
theorem events_replay_after_interruption :
    let calls := twoAsks ++ [.submit ⟨"bob"⟩ ⟨.bid, ⟨.btc, .usdt⟩, 30, 8, 4, 3⟩, .cancel ⟨"ann"⟩ 2]
    let session : Session := ⟨{}, {}, false, .empty⟩
    let ended := session.run (calls.map .call)
    let order : Order := ⟨2, .ask, ⟨.btc, .usdt⟩, 1, 2, 30, 5, 5, .canceled⟩
    start {} false = .ok session ∧ (∀ call ∈ calls, call.Retail) ∧ order ∈ ended.2.books.orders ∧
      (heard ended.1).map Event.name = ["OrderAccepted", "OrderRested", "OrderAccepted", "OrderRested",
        "OrderAccepted", "OrderFilled", "OrderInterrupted", "OrderCancelled"] ∧
      filledIn (heard ended.1) 1 = 5 ∧ filledIn (heard ended.1) 3 = 5 ∧
      (cancellationsIn (heard ended.1) order.id).length = 1 := by
  intro calls session ended order
  have started : start {} false = .ok session := by decide +kernel
  have retail : ∀ call ∈ calls, call.Retail := by
    simp [calls, twoAsks, Call.Retail]
  have member : order ∈ ended.2.books.orders := by decide +kernel
  have replayed := events_replay started rfl rfl retail member
  exact ⟨started, retail, member, by decide +kernel, by decide +kernel, by decide +kernel, replayed.2.1.mp rfl⟩

end Session

end Bourse
