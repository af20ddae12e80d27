import Bourse.Proofs.Handling
import Bourse.Proofs.Tables
import Mathlib.Data.List.Forall2

namespace Bourse

open Scope

/-- The order has a row in the books. What has become of the row since it was read is not asked. -/
def Books.Bears (books : Books) (order : Order) : Prop := order.opened ∈ books.orders.map Order.opened

namespace Books.Bears

variable {books after : Books} {order : Order}

theorem of_mem (member : order ∈ books.orders) : books.Bears order := List.mem_map_of_mem member

theorem extended (bears : books.Bears order) (extended : books.Extended after) : after.Bears order :=
  extended.orders.subset bears

theorem row (bears : books.Bears order) (formed : books.WellFormed) :
    ∃ row, books.order? row.id = some row ∧ row.opened = order.opened := by
  obtain ⟨row, member, same⟩ := List.mem_map.mp bears
  exact ⟨row, formed.order?_eq_some.mpr ⟨member, rfl⟩, same⟩

end Books.Bears

variable {ticket : Ticket} {books after : Books}

theorem Scope.fill_extended {resting : Order} {quantity : Int} {done : Fill}
    (ran : fill ticket resting quantity books = (.ok done, after)) : books.Extended after :=
  ((fill_makes ticket resting quantity).writes (.inl trivial : books.Quiet True) ran).extended

section Carries

-- A property of the fills made so far, and of the books with them, that each further fill carries on. Competing
-- writers may strike during the fill.
variable (holds : List Fill → Books → Prop)
  (carried : ∀ {fills books resting quantity fill after}, holds fills books → books.Bears resting →
    Scope.fill ticket resting quantity books = (.ok fill, after) → holds (fills ++ [fill]) after)

include carried

theorem fillPage_carries {page : List Order} {progress : Progress} (held : holds progress.fills books)
    (borne : ∀ resting ∈ page, books.Bears resting) :
    holds (progressIn (fillPage ticket page progress books).1).fills (fillPage ticket page progress books).2 := by
  fun_induction fillPage ticket page progress books with
  | case1 => exact held
  | case2 resting rest progress books cause after failed =>
    obtain rfl := fill_of_error failed
    exact held
  | case3 resting rest progress books fill after ran closed =>
    exact carried held (borne resting List.mem_cons_self) ran
  | case4 resting rest progress books fill after ran open_ ih =>
    exact ih (carried held (borne resting List.mem_cons_self) ran) fun other member =>
      (borne other (List.mem_cons_of_mem _ member)).extended (fill_extended ran)

/-- A page that is listed anew shows rows of the books. -/
theorem listedPage_carries {cursor : Option OrderId} {size : Nat} {page : List Order} {progress : Progress}
    {outcome : Except Interruption Progress}
    (listed : books.tradableBeyond ticket.pair ticket.price ticket.side.opposite cursor size = .ok page)
    (held : holds progress.fills books) (ran : fillPage ticket page progress books = (outcome, after)) :
    holds (progressIn outcome).fills after := by
  have borne : ∀ order ∈ page, books.Bears order := fun order member =>
    .of_mem (Books.mem_of_tradableBeyond listed order member)
  have left := fillPage_carries holds carried held borne
  rwa [ran] at left

theorem sweep_carries {size : Nat} {cursor : Option OrderId} {progress : Progress}
    (held : holds progress.fills books) :
    holds (progressIn (sweep ticket size cursor progress books).1).fills
      (sweep ticket size cursor progress books).2 := by
  fun_induction sweep ticket size cursor progress books with
  | case1 => exact held
  | case2 => exact held
  | case3 cursor progress books first rest listed interruption after ran =>
    exact listedPage_carries holds carried listed held ran
  | case4 cursor progress books first rest listed reached after ran completed =>
    exact listedPage_carries holds carried listed held ran
  | case5 cursor progress books first rest listed reached after ran unfinished ih =>
    exact ih (listedPage_carries holds carried listed held ran)

/-- What each fill carries on holds where matching ends, however it ends. -/
theorem matchTicket_carries (held : holds [] books) (size : Nat) :
    holds (progressIn (matchTicket ticket size books).1).fills (matchTicket ticket size books).2 :=
  sweep_carries holds carried held

end Carries

/-- What the fill has settled is due to it against a row of the books, at the price of that row. -/
def Fill.BookedIn (fill : Fill) (ticket : Ticket) (books : Books) : Prop :=
  ∃ resting, books.Bears resting ∧ fill.resting.id = resting.id ∧ fill.price = resting.price ∧
    ⟨fill.trade.first, fill.trade.second⟩ = ticket.swap resting fill.quantity

theorem Fill.BookedIn.extended {fill : Fill} (booked : fill.BookedIn ticket books) (extended : books.Extended after) :
    fill.BookedIn ticket after := by
  obtain ⟨resting, bears, terms⟩ := booked
  exact ⟨resting, bears.extended extended, terms⟩

theorem matchTicket_booked (ticket : Ticket) (size : Nat) (books : Books) :
    ∀ fill ∈ (progressIn (matchTicket ticket size books).1).fills,
      fill.BookedIn ticket (matchTicket ticket size books).2 := by
  refine matchTicket_carries (fun fills books => ∀ fill ∈ fills, fill.BookedIn ticket books) ?_
    (List.forall_mem_nil _) size
  intro fills books resting quantity fill after held bears ran
  have posted := fill_posted ran
  have extended := fill_extended ran
  refine forall_mem_append_singleton (fun earlier member => (held earlier member).extended extended) ?_
  refine ⟨resting, bears.extended extended, posted.resting_id, posted.price_eq, ?_⟩
  rw [posted.quantity_eq]
  exact (Swap.ofFill_eq_ok.mp posted.swap).2

section Events

def Event.isFill : Event → Bool
  | filled .. => true
  | _ => false

/-- The events that report fills. -/
def fillsIn (events : List Event) : List Event := events.filter (·.isFill)

/-- The report on an order that is stored tells of its fills one by one, in between that it was accepted and how it
ended. -/
theorem fillsIn_storedReport {row : Order} {last : Event} {filled : Int}
    (ending : last = .ofStored row filled ∨ ∃ reason, last = .interrupted row.id filled reason) (ticket : Ticket)
    (fills : List Fill) : fillsIn (storedReport ticket row.id fills last) = fills.map (.ofFill row.id) := by
  have plain : last.isFill = false := by
    rcases ending with rfl | ⟨reason, rfl⟩
    · unfold Event.ofStored
      split <;> rfl
    · rfl
  have accepted : (Event.accepted ticket).isFill = false := rfl
  have reports : (fills.map (Event.ofFill row.id)).filter (·.isFill) = fills.map (.ofFill row.id) := by
    refine List.filter_eq_self.mpr fun event member => ?_
    obtain ⟨fill, _, rfl⟩ := List.mem_map.mp member
    rfl
  simp only [fillsIn, storedReport, List.filter_cons, List.filter_append, List.filter_nil, plain, accepted, reports,
    Bool.false_eq_true, if_false, List.append_nil]

/-- The event reports the trade under its number, with its quantity of the base currency, and the price of the order in
the books that it was made against. -/
def Event.Announces (event : Event) (ticket : Ticket) (books : Books) (trade : Trade) : Prop :=
  ∃ order resting, books.order? resting.id = some resting ∧
    event = .filled order resting.id trade.id trade.first.amount resting.price ∧
    ⟨trade.first, trade.second⟩ = ticket.swap resting trade.first.amount

theorem Fill.BookedIn.announced {fill : Fill} (booked : fill.BookedIn ticket books) (formed : books.WellFormed)
    (quantity : fill.trade.first.amount = fill.quantity) (order : OrderId) :
    (Event.ofFill order fill).Announces ticket books fill.trade := by
  obtain ⟨resting, bears, id_eq, price_eq, legs⟩ := booked
  obtain ⟨row, found, same⟩ := bears.row formed
  -- The row and the order as it was listed differ at most in what is open of them.
  have id : row.id = resting.id := (congrArg Order.id same :)
  have price : row.price = resting.price := (congrArg Order.price same :)
  have swap : ticket.swap row fill.quantity = ticket.swap resting fill.quantity :=
    (congrArg (ticket.swap · fill.quantity) same :)
  refine ⟨order, row, found, ?_, ?_⟩
  · rw [Event.ofFill, id_eq, price_eq, id, price, quantity]
  · rw [quantity, legs, swap]

end Events

/-- What a submission has traded and what it reports of it: every trade in an event of its own, or none of them, and
then the failure says that the order could not be stored and what was filled of it. -/
structure Announced (ticket : Ticket) (start : Books) (filing : Filing Receipt) (made : List Trade) : Prop where
  trades : filing.books.trades = start.trades ++ made
  reported : List.Forall₂ (Event.Announces · ticket filing.books) (fillsIn filing.events) made ∨
    made ≠ [] ∧ fillsIn filing.events = [] ∧
      ∃ cause, filing.result = .error (.unstored (made.map (·.first.amount)).sum cause)

section Taken

variable {desk : Desk} {start middle : Books} {outcome : Except Interruption Progress} {progress : Progress}

/-- A matched order that is stored reports all of its fills. -/
theorem announced_of_stored (matched : matchTicket ticket desk.pageSize start = (outcome, middle))
    (reached : outcome = .ok progress ∨ ∃ cause, outcome = .error ⟨progress, cause⟩) {order : Order}
    (stored : storeOrder ticket progress.traded middle = (.ok order, after)) (formed : after.WellFormed) {last : Event}
    (ending : last = .ofStored order progress.traded ∨ ∃ reason, last = .interrupted order.id progress.traded reason)
    (result : Except Failure Receipt) :
    Announced ticket start ⟨result, storedReport ticket order.id progress.fills last, after⟩
      (progress.fills.map (·.trade)) := by
  have accounted := (Matched.of_eq matched).accounted
  have booked := matchTicket_booked ticket desk.pageSize start
  rw [matched] at booked
  rw [progressIn_of_reached reached] at accounted booked
  have extended := ((storeOrder_makes ticket progress.traded).writes (.inl trivial : middle.Quiet True) stored).extended
  have apart : ApartFromOrders fun books : Books => books.trades := fun _ _ => rfl
  have kept := storeOrder_keeps apart ticket progress.traded middle
  rw [stored] at kept
  refine ⟨kept.trans accounted.trades, .inl ?_⟩
  rw [fillsIn_storedReport ending, List.forall₂_map_left_iff, List.forall₂_map_right_iff, List.forall₂_same]
  exact fun fill member => ((booked fill member).extended extended).announced formed
    (accounted.quantities fill member).2 order.id

theorem Taken.announced {filing : Filing Receipt} (taken : Taken desk ticket start filing)
    (formed : filing.books.WellFormed) :
    ∃ made, Announced ticket start { filing with events := .accepted ticket :: filing.events } made := by
  cases taken with
  | stored matched stored => exact ⟨_, announced_of_stored matched (.inl rfl) stored formed (.inl rfl) _⟩
  | interrupted matched some stored =>
    exact ⟨_, announced_of_stored matched (.inr ⟨_, rfl⟩) stored formed (.inr ⟨_, rfl⟩) _⟩
  | @rejected progress cause middle matched none =>
    have accounted : Accounted ticket start progress middle := (Matched.of_eq matched).accounted
    obtain rfl : middle = start := accounted.untouched (accounted.fills_eq_nil none)
    exact ⟨[], (List.append_nil _).symm, .inl .nil⟩
  | @unstored outcome progress cause middle matched reached failed =>
    have accounted := (Matched.of_eq matched).accounted
    rw [progressIn_of_reached reached] at accounted
    refine ⟨progress.fills.map (·.trade), accounted.trades, ?_⟩
    by_cases none : progress.traded = 0
    · rw [accounted.fills_eq_nil none]
      exact .inl .nil
    · have some : progress.fills ≠ [] := fun empty => none (by rw [accounted.traded, empty]; rfl)
      refine .inr ⟨by simpa using some, rfl, cause, ?_⟩
      rw [if_neg none, accounted.amounts]

end Taken

/-- Every fill that a submission commits is reported, one event for one trade and in their order, whatever faults are
set up and however the submission ends but in one way: an order that was filled and cannot be stored reports none of
its fills. -/
theorem Reach.fills_announced (reach : Reach (fun _ _ => True) .empty books) (desk : Desk) (principal : Principal)
    (ticket : Ticket) : ∃ made, Announced ticket books (desk.submit principal ticket books) made := by
  have left : Reach (fun _ _ => True) .empty ((Call.submit principal ticket).run desk books).2 := reach.next trivial
  have formed : (desk.submit principal ticket books).books.WellFormed := left.wellFormed
  unfold Desk.submit at formed ⊢
  cases vetted : desk.vet principal ticket books with
  | error failure => exact ⟨[], (List.append_nil _).symm, .inl .nil⟩
  | ok =>
    rw [vetted] at formed
    exact (desk.take_taken ticket books).announced formed

/-- Two fills on two pages are reported, of the second ask what a competing writer left of it meanwhile. -/
theorem fills_announced_despite_race :
    let books := Desk.serve {} (twoAsks ++ [.perform (.race ⟨1, 2, 2, .active⟩), .perform (.deposit 4 60)]) .empty
    let ticket : Ticket := ⟨.bid, ⟨.btc, .usdt⟩, 30, 8, 4, 3⟩
    let filing := Desk.submit { pageSize := 1 } ⟨"bob"⟩ ticket books
    Reach (fun _ _ => True) .empty books ∧
      fillsIn filing.events = [.filled 3 1 1 5 20, .filled 3 2 2 2 30] ∧
      ∃ made, Announced ticket books filing made := by
  intro books ticket filing
  have reach : Reach (fun _ _ => True) .empty books := Reach.serve .start fun _ _ => trivial
  exact ⟨reach, by decide +kernel, reach.fills_announced { pageSize := 1 } ⟨"bob"⟩ ticket⟩

/-- A bid takes an ask whole and is then refused by the table of orders: its trade stands, and no event tells of it. -/
theorem fill_unannounced_when_bid_refused :
    let books := Desk.serve {} (twoAsks ++ [.perform (.refuseOrders .bid)]) .empty
    let ticket : Ticket := ⟨.bid, ⟨.btc, .usdt⟩, 20, 5, 4, 3⟩
    let filing := Desk.submit {} ⟨"bob"⟩ ticket books
    Reach (fun _ _ => True) .empty books ∧
      filing.result = .error (.unstored 5 (.storage (.refusedInsert .bid))) ∧
      filing.books.trades = books.trades ++ [⟨1, ⟨1, 3, 5⟩, ⟨4, 2, 100⟩⟩] ∧ filing.events = [.accepted ticket] ∧
      ¬ ∃ made, filing.books.trades = books.trades ++ made ∧
        List.Forall₂ (Event.Announces · ticket filing.books) (fillsIn filing.events) made := by
  intro books ticket filing
  have events : filing.events = [.accepted ticket] := by decide +kernel
  have trades : filing.books.trades = books.trades ++ [⟨1, ⟨1, 3, 5⟩, ⟨4, 2, 100⟩⟩] := by decide +kernel
  refine ⟨Reach.serve .start fun _ _ => trivial, by decide +kernel, trades, events, ?_⟩
  rintro ⟨made, added, reported⟩
  rw [events] at reported
  cases reported
  cases List.append_cancel_left (trades.symm.trans added)

end Bourse
