import Bourse.Forms
import Bourse.Proofs.Rounds
import Bourse.Proofs.Serving
import Bourse.Proofs.Submission

namespace Bourse

open Scope

/-- What the table of orders demands of a row whose amount is a word. -/
structure Order.Storable (order : Order) : Prop where
  price : 0 < order.price
  initial : 0 < order.initial ∧ order.initial ≤ greatestWord
  remaining : 0 ≤ order.remaining ∧ order.remaining ≤ order.initial

/-- Orders as their table can hold them, sorted by their keys. They may have been numbered with gaps. -/
structure Books.OrdersStorable (books : Books) : Prop where
  ascending : books.orders.Pairwise (·.id < ·.id)
  rows : ∀ order ∈ books.orders, order.Storable

namespace Books

variable {books after : Books}

theorem ascending_of_orderIds (kept : after.orderIds = books.orderIds)
    (ascending : books.orders.Pairwise (·.id < ·.id)) : after.orders.Pairwise (·.id < ·.id) := by
  have ids : books.orderIds.Pairwise (· < ·) := List.pairwise_map.mpr ascending
  rw [← kept] at ids
  exact List.pairwise_map.mp ids

theorem OrdersStorable.setOrder (storable : books.OrdersStorable) {id : OrderId} {row : Order}
    (found : books.order? id = some row) {remaining : Int} (range : 0 ≤ remaining ∧ remaining ≤ row.initial)
    (status : Status) : (books.setOrder id remaining status).OrdersStorable := by
  have present : row ∈ books.orders := List.mem_of_find?_eq_some found
  have own := order?_id found
  refine ⟨ascending_of_orderIds (setOrder_orderIds ..) storable.ascending, ?_⟩
  refine forall_mem_setOrder (fun order member _ => storable.rows order member) fun order member same => ?_
  obtain rfl :=
    eq_of_ids_ascending (List.pairwise_map.mpr storable.ascending) member present (same.trans own.symm)
  exact { storable.rows order member with remaining := range }

/-- Competing writers write no more than was there initially. -/
theorem OrdersStorable.strike (storable : books.OrdersStorable) {depth : Nat} {races : List Race} {written : OrderId}
    (struck : strike depth races written books = .ok after) : after.OrdersStorable := by
  refine strike_preserves OrdersStorable (fun hit storable => ?_) struck storable
  obtain ⟨row, found, _, range, rfl⟩ := overwritten_eq_some.mp hit
  exact storable.setOrder found range _

end Books

namespace Scope

/-- The row of a fill stays in range, and so do those that competing writers write after it. -/
theorem recordFill_secures_ordersStorable (id : OrderId) (expected remaining : Int) (status : Status) :
    Secures Books.OrdersStorable (recordFill id expected remaining status) := by
  intro books order after storable ran
  obtain ⟨row, found, ⟨same, _⟩, ⟨range, _⟩, _, struck⟩ := recordFill_of_ok ran
  have most := (storable.rows row (List.mem_of_find?_eq_some found)).remaining.2
  exact (storable.setOrder found (by omega) _).strike struck

/-- Whoever else writes meanwhile, an order is shown with what was not yet filled of it. -/
theorem placeOrder_remaining {ticket : Ticket} {filled : Int} {order : Order} {books after : Books}
    (placed : placeOrder ticket filled books = (.ok order, after)) : order.remaining = ticket.amount - filled := by
  rcases placeOrder_cases ticket filled books with ⟨other, left, stored, same⟩ | ⟨cause, _, failed⟩
  · rw [same] at placed
    cases placed
    obtain ⟨added, middle, adding, updating⟩ := bind_eq_ok.mp (atomic_eq_ok.mp stored)
    obtain ⟨_, rfl, rfl⟩ := addOrder_of_ok adding
    by_cases none : filled = 0
    · rw [if_pos none] at updating
      obtain ⟨rfl, rfl⟩ := pure_eq_ok.mp updating
      rw [none, Int.sub_zero]
      rfl
    · rw [if_neg none] at updating
      obtain ⟨status, _, _, recording⟩ := bind_eq_ok.mp updating
      obtain ⟨row, _, _, _, ⟨rfl, _⟩, _⟩ := recordFill_of_ok recording
      rfl
  · rw [failed] at placed
    cases placed

theorem fill_secures_ordersStorable (ticket : Ticket) (resting : Order) (quantity : Int) :
    Secures Books.OrdersStorable (fill ticket resting quantity) := by
  refine fill_secures (fun first second => ?_) recordFill_secures_ordersStorable ticket resting quantity
  have kept : Keeps (·.orders) (settle first second) := settle_keeps (fun _ _ _ _ => rfl) (fun _ _ => rfl) _ _
  refine kept.secures fun {books after} (same : after.orders = books.orders) storable => ?_
  exact ⟨same ▸ storable.ascending, same ▸ storable.rows⟩

end Scope

/-- What may have been traded of an amount, which may be negative. -/
def TradedOf (amount traded : Int) : Prop := 0 ≤ traded ∧ traded ≤ max amount 0

namespace TradedOf

variable {amount traded : Int}

theorem add (range : TradedOf amount traded) {quantity rest : Int} (positive : 0 < quantity)
    (within : quantity ≤ min (amount - traded) rest) : TradedOf amount (traded + quantity) := by
  unfold TradedOf at range ⊢
  omega

theorem fitsWord (range : TradedOf amount traded) (word : FitsWord amount) : FitsWord traded := by
  unfold TradedOf at range
  unfold FitsWord leastWord greatestWord at word ⊢
  omega

theorem fitsWord_open (range : TradedOf amount traded) (word : FitsWord amount) : FitsWord (amount - traded) := by
  unfold TradedOf at range
  unfold FitsWord leastWord greatestWord at word ⊢
  omega

end TradedOf

/-- A page that is read has a number and a proper size. -/
theorem Books.proper_of_tradablePage {books : Books} {pair : Pair} {limit : Int} {side : Side} {page size : Nat}
    {rows : List Order} (read : books.tradablePage pair limit side page size = .ok rows) :
    1 ≤ page ∧ size ≤ maxPageSize := by
  unfold tradablePage at read
  split at read
  · cases read
  next numbered =>
    match checked : checkPageSize size with
    | .error failure => simp [checked, bind, Except.bind] at read
    | .ok () => exact ⟨Nat.one_le_iff_ne_zero.mpr numbered, (checkPageSize_eq_ok.mp checked).2⟩

theorem fitsWord_neg {amount : Int} (positive : 0 < amount) (word : FitsWord amount) : FitsWord (-amount) := by
  unfold FitsWord leastWord greatestWord at word ⊢
  omega

/-- Legs exist only for a positive quantity. With no more of it than there is, what they take off the order and off the
paying accounts fits a word. -/
theorem Order.Storable.legs_in_range {resting : Order} (storable : resting.Storable) {ticket : Ticket} {quantity : Int}
    (within : quantity ≤ resting.remaining) {legs : Swap} (swap : Swap.ofFill ticket resting quantity = .ok legs) :
    0 < quantity ∧ FitsWord (resting.remaining - quantity) ∧ FitsWord (-legs.base.amount) ∧
      FitsWord (-legs.quote.amount) := by
  obtain ⟨⟨positive, word⟩, rfl⟩ := Swap.ofFill_eq_ok.mp swap
  have most := Int.le_trans storable.remaining.2 storable.initial.2
  have value : 0 < resting.price * quantity := Int.mul_pos positive.1 positive.2
  have least : leastWord ≤ 0 := by decide
  rw [Ticket.swap_base_amount, Ticket.swap_quote_amount]
  refine ⟨positive.2, ⟨by omega, by omega⟩, fitsWord_neg positive.2 ⟨by omega, by omega⟩, fitsWord_neg value word⟩

namespace Matcher

/-- What matching relies on where it computes without a check. -/
structure InRange (ticket : Ticket) (state : Matcher × Books) : Prop where
  own : state.1.ticket = ticket
  storable : state.2.OrdersStorable
  page : ∀ order ∈ state.1.page, order.Storable
  traded : TradedOf ticket.amount state.1.progress.traded

variable {ticket : Ticket} {before after : Matcher × Books}

/-- A fill takes something, and no more than is open on either side. -/
theorem quantity_of_attempt {matcher : Matcher} {resting : Order} {books left : Books} {fill : Fill}
    (ran : matcher.attempt resting books = (.ok fill, left)) :
    fill.quantity = matcher.quantity resting ∧ 0 < fill.quantity ∧
      fill.quantity ≤ min (matcher.progress.openAmount matcher.ticket.amount) resting.remaining := by
  have posted := fill_posted ran
  rw [posted.quantity_eq]
  exact ⟨rfl, posted.positive, Int.le_refl _⟩

theorem Round.inRange (round : Round before after) (range : InRange ticket before) : InRange ticket after := by
  obtain ⟨rfl, storable, page, traded⟩ := range
  cases round with
  | turned _ _ listed =>
    refine ⟨rfl, storable, fun order member => ?_, traded⟩
    exact storable.rows order (Books.mem_of_tradableBeyond listed order member)
  | completed _ _ ran => exact ⟨rfl, fill_secures_ordersStorable _ _ _ storable ran, page, traded⟩
  | @filled matcher books resting rest fill left _ trying ran =>
    simp only [trying] at page
    refine ⟨rfl, fill_secures_ordersStorable _ _ _ storable ran,
      fun order member => page order (List.mem_cons_of_mem _ member), ?_⟩
    obtain ⟨_, positive, within⟩ := quantity_of_attempt ran
    exact traded.add positive within
  | _ => exact ⟨rfl, storable, page, traded⟩

theorem Alone.inRange (alone : Alone before after) (range : InRange ticket before) : InRange ticket after := by
  induction alone with
  | refl => exact range
  | @tail middle _ _ stepped ih => exact stepped ▸ (round_next middle).inRange ih

end Matcher

open Matcher in
/-- Where matching, storing and listing compute without a check, all results fit a word, whatever the terms of the
ticket and also if competing writers wait. What was traded goes from zero up to the amount. What is open, what a fill
leaves of the resting order, the lines that it takes off the paying accounts and the new total all fit, since a fill
goes through only for a positive quantity that is open on either side. So does what is stored as open in the end, and
so does the number of rows before a page. -/
theorem unchecked_arithmetic_fits {ticket : Ticket} (word : FitsWord ticket.amount) {books : Books}
    (storable : books.OrdersStorable) (size : Nat) :
    (∀ matcher reached, Alone ({ ticket, size }, books) (matcher, reached) →
      (0 ≤ matcher.progress.traded ∧ matcher.progress.traded ≤ max ticket.amount 0) ∧
      FitsWord (ticket.amount - matcher.progress.traded) ∧
      ∀ resting rest, matcher.page = resting :: rest →
        (∀ legs, Swap.ofFill ticket resting
            (min (ticket.amount - matcher.progress.traded) resting.remaining) = .ok legs →
          FitsWord (resting.remaining - min (ticket.amount - matcher.progress.traded) resting.remaining) ∧
          FitsWord (-legs.base.amount) ∧ FitsWord (-legs.quote.amount)) ∧
        ∀ fill after, matcher.attempt resting reached = (.ok fill, after) →
          (0 < fill.quantity ∧ fill.quantity ≤ min (ticket.amount - matcher.progress.traded) resting.remaining) ∧
          FitsWord (matcher.progress.traded + fill.quantity) ∧
          FitsWord (ticket.amount - (matcher.progress.traded + fill.quantity))) ∧
    (∃ last, Alone ({ ticket, size }, books) (last, (matchTicket ticket size books).2) ∧
      last.result = some (matchTicket ticket size books).1) ∧
    (0 ≤ (progressIn (matchTicket ticket size books).1).traded ∧
      (progressIn (matchTicket ticket size books).1).traded ≤ max ticket.amount 0) ∧
    FitsWord (ticket.amount - (progressIn (matchTicket ticket size books).1).traded) ∧
    (∀ order after, placeOrder ticket (progressIn (matchTicket ticket size books).1).traded
        (matchTicket ticket size books).2 = (.ok order, after) →
      order.remaining = ticket.amount - (progressIn (matchTicket ticket size books).1).traded) ∧
    ∀ pair limit side page pageSize rows, page ≤ greatestUnsigned32 →
      books.tradablePage pair limit side page pageSize = .ok rows → FitsWord (((page - 1) * pageSize : Nat) : Int) := by
  have start : InRange ticket ({ ticket, size }, books) :=
    ⟨rfl, storable, List.forall_mem_nil _, Int.le_refl 0, Int.le_max_right _ _⟩
  have accounted := (matchTicket_matched ticket size books).accounted
  have traded : TradedOf ticket.amount (progressIn (matchTicket ticket size books).1).traded := by
    refine ⟨accounted.traded_nonneg, ?_⟩
    rcases accounted.within with none | within
    · rw [accounted.traded, none]
      exact Int.le_max_right _ _
    · exact Int.le_trans within (Int.le_max_left _ _)
  refine ⟨fun matcher reached alone => ?matching, alone_matchTicket ticket size books, traded,
    traded.fitsWord_open word, fun _ _ => placeOrder_remaining,
    fun pair limit side page pageSize rows unsigned read => ?listing⟩
  case matching =>
    obtain ⟨rfl, later, page, traded⟩ := alone.inRange start
    refine ⟨traded, traded.fitsWord_open word,
      fun resting rest listed => ⟨fun legs swap => ?_, fun fill after ran => ?_⟩⟩
    · have own := page resting (listed ▸ List.mem_cons_self)
      exact (own.legs_in_range (Int.min_le_right _ _) swap).2
    · obtain ⟨_, positive, within⟩ := quantity_of_attempt ran
      have total := traded.add positive within
      exact ⟨⟨positive, within⟩, total.fitsWord word, total.fitsWord_open word⟩
  case listing =>
    have proper := (Books.proper_of_tradablePage read).2
    have before : (page - 1) * pageSize ≤ greatestUnsigned32 * maxPageSize :=
      Nat.mul_le_mul (Nat.le_trans (Nat.sub_le _ _) unsigned) proper
    have small : greatestUnsigned32 * maxPageSize ≤ 9223372036854775807 := by decide
    unfold FitsWord leastWord greatestWord
    omega

/-- All but one unit of the greatest amount is traded with the first ask. A competing writer revives the second with
nothing left of it, which stops matching. Of the least amount nothing is traded. -/
theorem unchecked_arithmetic_fits_at_limits :
    let order (id price remaining : Int) (status : Status) : Order :=
      ⟨id, .ask, ⟨.btc, .usdt⟩, 1, 2, price, greatestWord, remaining, status⟩
    let books : Books :=
      { accounts := [⟨1, "ann", greatestWord, .btc⟩, ⟨2, "ann", 0, .usdt⟩, ⟨3, "bob", 0, .btc⟩,
          ⟨4, "bob", greatestWord, .usdt⟩]
        orders := [order 3 1 (greatestWord - 1) .active, order 7 1 0 .completed]
        faults := { races := [⟨3, 7, 0, .active⟩] } }
    let greatest : Ticket := ⟨.bid, ⟨.btc, .usdt⟩, greatestWord, greatestWord, 4, 3⟩
    let least : Ticket := ⟨.bid, ⟨.btc, .usdt⟩, greatestWord, leastWord, 4, 3⟩
    (FitsWord greatest.amount ∧ FitsWord least.amount) ∧ books.OrdersStorable ∧
      (progressIn (matchTicket greatest 1 books).1).traded = greatestWord - 1 ∧
      FitsWord (greatest.amount - (progressIn (matchTicket greatest 1 books).1).traded) ∧
      (progressIn (matchTicket least 1 books).1).traded = 0 ∧
      FitsWord (least.amount - (progressIn (matchTicket least 1 books).1).traded) ∧
      books.tradablePage ⟨.btc, .usdt⟩ 1 .ask greatestUnsigned32 maxPageSize = .ok [] ∧
      FitsWord (((greatestUnsigned32 - 1) * maxPageSize : Nat) : Int) := by
  intro order books greatest least
  have words : FitsWord greatest.amount ∧ FitsWord least.amount := by decide
  have storable : books.OrdersStorable := by
    refine ⟨by decide, fun row member => ?_⟩
    rcases List.mem_cons.mp member with rfl | member
    · exact ⟨by decide, by decide, by decide⟩
    · rw [List.mem_singleton.mp member]
      exact ⟨by decide, by decide, by decide⟩
  obtain ⟨_, _, _, buying, _, listing⟩ := unchecked_arithmetic_fits words.1 storable 1
  obtain ⟨_, _, _, none, _⟩ := unchecked_arithmetic_fits words.2 storable 1
  have last : books.tradablePage ⟨.btc, .usdt⟩ 1 .ask greatestUnsigned32 maxPageSize = .ok [] := by decide +kernel
  exact ⟨words, storable, by decide +kernel, buying, by decide +kernel, none, last,
    listing _ _ _ _ _ _ (Nat.le_refl _) last⟩

end Bourse
