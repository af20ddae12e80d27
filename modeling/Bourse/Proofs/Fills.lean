import Bourse.Proofs.Movements
import Bourse.Proofs.OrderRows
import Bourse.Proofs.Runs
import Mathlib.Algebra.Order.BigOperators.Group.List
import Mathlib.Algebra.Order.Ring.Int

namespace Bourse

open Scope

theorem notional_of_ok {price quantity value : Int} (fits : notional price quantity = .ok value) :
    (0 < price ∧ 0 < quantity) ∧ value = price * quantity ∧ FitsWord value := by
  unfold notional at fits
  by_cases positive : 0 < price ∧ 0 < quantity
  · rw [if_pos positive] at fits
    by_cases word : FitsWord (price * quantity)
    · rw [if_pos word] at fits
      cases fits
      exact ⟨positive, rfl, word⟩
    · rw [if_neg word] at fits
      cases fits
  · rw [if_neg positive] at fits
    cases fits

/-- The legs of a fill of `quantity`, whether or not its value fits a word. -/
def Ticket.swap (ticket : Ticket) (resting : Order) (quantity : Int) : Swap :=
  match ticket.side with
  | .bid => ⟨⟨resting.heldInBase, ticket.heldInBase, quantity⟩,
      ⟨ticket.heldInQuote, resting.heldInQuote, resting.price * quantity⟩⟩
  | .ask => ⟨⟨ticket.heldInBase, resting.heldInBase, quantity⟩,
      ⟨resting.heldInQuote, ticket.heldInQuote, resting.price * quantity⟩⟩

section Swap

variable {ticket : Ticket} {resting : Order} {quantity : Int}

theorem Swap.ofFill_of_notional (fits : notional resting.price quantity = .ok (resting.price * quantity)) :
    ofFill ticket resting quantity = .ok (ticket.swap resting quantity) := by
  unfold ofFill Ticket.swap
  rw [fits]
  cases ticket.side with
  | bid => rfl
  | ask => rfl

theorem Swap.ofFill_eq_ok {legs : Swap} : ofFill ticket resting quantity = .ok legs ↔
    ((0 < resting.price ∧ 0 < quantity) ∧ FitsWord (resting.price * quantity)) ∧
      legs = ticket.swap resting quantity := by
  constructor
  · intro swap
    cases fits : notional resting.price quantity with
    | error error =>
      rw [ofFill, fits] at swap
      cases swap
    | ok value =>
      obtain ⟨positive, rfl, word⟩ := notional_of_ok fits
      exact ⟨⟨positive, word⟩, Except.ok.inj (swap.symm.trans (ofFill_of_notional fits))⟩
  · rintro ⟨⟨positive, word⟩, rfl⟩
    exact ofFill_of_notional ((if_pos positive).trans (if_pos word))

namespace Ticket

theorem swap_base_amount : (ticket.swap resting quantity).base.amount = quantity := by
  unfold swap
  split <;> rfl

theorem swap_quote_amount : (ticket.swap resting quantity).quote.amount = resting.price * quantity := by
  unfold swap
  split <;> rfl

end Ticket

/-- The base currency moves in the quantity of the fill, whichever side came in. -/
theorem Swap.amounts_of_ofFill {legs : Swap} (swap : ofFill ticket resting quantity = .ok legs) :
    (0 < resting.price ∧ 0 < quantity) ∧ legs.base.amount = quantity ∧
      legs.quote.amount = resting.price * quantity := by
  obtain ⟨⟨positive, _⟩, rfl⟩ := ofFill_eq_ok.mp swap
  exact ⟨positive, Ticket.swap_base_amount, Ticket.swap_quote_amount⟩

end Swap

/-- What a fill that succeeds has posted, also where competing writers wait for its rows: they write to orders
only. -/
structure FillPosted (ticket : Ticket) (resting : Order) (quantity : Int) (books : Books) (fill : Fill)
    (after : Books) : Prop where
  swap : Swap.ofFill ticket resting quantity = .ok ⟨fill.trade.first, fill.trade.second⟩
  trades : after.trades = books.trades ++ [fill.trade]
  resting_id : fill.resting.id = resting.id
  quantity_eq : fill.quantity = quantity
  price_eq : fill.price = resting.price

theorem Scope.fill_posted {books after : Books} {ticket : Ticket} {resting : Order} {quantity : Int} {done : Fill}
    (ran : fill ticket resting quantity books = (.ok done, after)) :
    FillPosted ticket resting quantity books done after := by
  unfold fill at ran
  cases swap : Swap.ofFill ticket resting quantity with
  | error error =>
    rw [swap] at ran
    exact absurd ran fail_ne_ok
  | ok legs =>
    rw [swap] at ran
    obtain ⟨settlement, middle, settling, checking⟩ := bind_eq_ok.mp (atomic_eq_ok.mp ran)
    obtain ⟨trade_eq, posted⟩ := settle_trades settling
    obtain ⟨status, _, checked, recording⟩ := bind_eq_ok.mp checking
    obtain ⟨_, rfl⟩ := ofExcept_eq_ok.mp checked
    obtain ⟨left, _, recorded, ending⟩ := bind_eq_ok.mp recording
    obtain ⟨rfl, rfl⟩ := pure_eq_ok.mp ending
    have apart : ApartFromOrders fun books : Books => books.trades := fun _ _ => rfl
    have kept := recordFill_keeps apart resting.id resting.remaining (resting.remaining - quantity) status middle
    rw [recorded] at kept
    have first : settlement.trade.first = legs.base := by rw [trade_eq]
    have second : settlement.trade.second = legs.quote := by rw [trade_eq]
    refine ⟨?_, kept.trans posted, recordFill_id recorded, rfl, rfl⟩
    rw [first, second]
    exact swap

namespace FillPosted

variable {ticket : Ticket} {resting : Order} {quantity : Int} {books after : Books} {fill : Fill}

theorem positive (posted : FillPosted ticket resting quantity books fill after) : 0 < quantity :=
  (Swap.amounts_of_ofFill posted.swap).1.2

theorem first_amount (posted : FillPosted ticket resting quantity books fill after) :
    fill.trade.first.amount = quantity := (Swap.amounts_of_ofFill posted.swap).2.1

end FillPosted

/-- What a fill that succeeds has found and done where no competing writer waits: the resting order was still
as it had been listed, and what was filled is taken off it. -/
structure FillDone (ticket : Ticket) (resting : Order) (quantity : Int) (books : Books) (fill : Fill)
    (after : Books) : Prop where
  swap : Swap.ofFill ticket resting quantity = .ok ⟨fill.trade.first, fill.trade.second⟩
  within : quantity ≤ resting.remaining
  row : ∃ row, books.order? resting.id = some row ∧ (row.remaining = resting.remaining ∧ row.status = .active) ∧
    fill.resting = { row with
      remaining := resting.remaining - quantity, status := .ofOpen (resting.remaining - quantity) }
  listed : fill.resting.pair ∈ Pair.listed
  quantity_eq : fill.quantity = quantity
  price_eq : fill.price = resting.price
  settled : ∃ settlement middle, SettledIn fill.trade.first fill.trade.second books settlement middle ∧
    settlement.trade = fill.trade ∧
    after = middle.setOrder resting.id (resting.remaining - quantity) (.ofOpen (resting.remaining - quantity))

theorem Transferred.keeps {payer payee : AccountId} {amount : Int} {books after : Books} {row : Transfer}
    (done : Transferred payer payee amount books row after) :
    after.orders = books.orders ∧ after.trades = books.trades ∧ after.faults = books.faults := by
  rw [done.after_eq]
  exact ⟨rfl, rfl, rfl⟩

theorem SettledIn.keeps {first second : Leg} {books after : Books} {settlement : Settlement}
    (settled : SettledIn first second books settlement after) :
    after.orders = books.orders ∧ after.trades = books.trades ++ [settlement.trade] ∧
      after.faults = books.faults := by
  obtain ⟨middle, moved, movedToo⟩ := settled.transfers
  obtain ⟨orders, trades, faults⟩ := moved.keeps
  obtain ⟨orders', trades', faults'⟩ := movedToo.keeps
  exact ⟨orders'.trans orders, trades'.trans trades, faults'.trans faults⟩

theorem Scope.fill_of_ok {books after : Books} (steady : books.Steady) {ticket : Ticket} {resting : Order}
    {quantity : Int} {done : Fill} (ran : fill ticket resting quantity books = (.ok done, after)) :
    FillDone ticket resting quantity books done after := by
  have posted := fill_posted ran
  unfold fill at ran
  cases swap : Swap.ofFill ticket resting quantity with
  | error error =>
    rw [swap] at ran
    exact absurd ran fail_ne_ok
  | ok legs =>
    rw [swap] at ran
    obtain ⟨settlement, middle, settling, checking⟩ := bind_eq_ok.mp (atomic_eq_ok.mp ran)
    have settled := settle_of_ok steady.formed settling
    obtain ⟨orders, _, faults⟩ := settled.keeps
    obtain ⟨status, _, checked, recording⟩ := bind_eq_ok.mp checking
    obtain ⟨_, rfl⟩ := ofExcept_eq_ok.mp checked
    obtain ⟨left, _, recorded, ending⟩ := bind_eq_ok.mp recording
    obtain ⟨row, found, same, ⟨range, rfl⟩, ⟨rfl, listed⟩, struck⟩ := recordFill_of_ok recorded
    obtain rfl := strike_of_quiet (faults ▸ steady.quiet) struck
    obtain ⟨rfl, rfl⟩ := pure_eq_ok.mp ending
    have atRow : books.order? resting.id = some row := by
      unfold Books.order? at found ⊢
      rwa [orders] at found
    have first : settlement.trade.first = legs.base := by rw [settled.trade_eq]
    have second : settlement.trade.second = legs.quote := by rw [settled.trade_eq]
    refine ⟨posted.swap, by omega, ⟨row, atRow, same, rfl⟩, listed, rfl, rfl, settlement, middle, ?_, rfl, rfl⟩
    rw [first, second]
    exact settled

namespace FillDone

variable {ticket : Ticket} {resting : Order} {quantity : Int} {books after : Books} {fill : Fill}

theorem positive (done : FillDone ticket resting quantity books fill after) : 0 < quantity :=
  (Swap.amounts_of_ofFill done.swap).1.2

theorem first_amount (done : FillDone ticket resting quantity books fill after) :
    fill.trade.first.amount = quantity := (Swap.amounts_of_ofFill done.swap).2.1

theorem trades (done : FillDone ticket resting quantity books fill after) :
    after.trades = books.trades ++ [fill.trade] := by
  obtain ⟨settlement, middle, settled, same, rfl⟩ := done.settled
  rw [← same]
  exact settled.keeps.2.1

theorem orders (done : FillDone ticket resting quantity books fill after) :
    after.orders = (books.setOrder resting.id (resting.remaining - quantity)
      (.ofOpen (resting.remaining - quantity))).orders := by
  obtain ⟨settlement, middle, settled, _, rfl⟩ := done.settled
  unfold Books.setOrder
  rw [settled.keeps.1]

theorem faults (done : FillDone ticket resting quantity books fill after) : after.faults = books.faults := by
  obtain ⟨settlement, middle, settled, _, rfl⟩ := done.settled
  exact settled.keeps.2.2

theorem resting_id (done : FillDone ticket resting quantity books fill after) : fill.resting.id = resting.id := by
  obtain ⟨row, found, _, same⟩ := done.row
  have own : row.id = resting.id := Books.order?_id found
  rw [same]
  exact own

end FillDone

/-- What matching reports agrees with the rows that it has added: one trade for each fill, of its quantity. -/
structure Accounted (ticket : Ticket) (start : Books) (progress : Progress) (books : Books) : Prop where
  trades : books.trades = start.trades ++ progress.fills.map (·.trade)
  quantities : ∀ fill ∈ progress.fills, 0 < fill.quantity ∧ fill.trade.first.amount = fill.quantity
  traded : progress.traded = (progress.fills.map (·.quantity)).sum
  within : progress.fills = [] ∨ progress.traded ≤ ticket.amount
  untouched : progress.fills = [] → books = start
  orderIds : books.orderIds = start.orderIds

variable {ticket : Ticket} {start books : Books} {progress : Progress}

theorem Matched.calm {outcome : Except Interruption Progress × Books} (matched : Matched ticket start outcome)
    (calm : start.Calm) : outcome.2.Calm :=
  matched.preserves (fun _ _ => (fill_makes _ _ _).secures_calm) calm

/-- Each fill takes no more than is open. -/
theorem Filled.accounted (filled : Filled ticket start progress books) : Accounted ticket start progress books := by
  induction filled with
  | none => exact ⟨(List.append_nil _).symm, List.forall_mem_nil _, rfl, .inl rfl, fun _ => rfl, rfl⟩
  | @next progress books resting fill after earlier pending tradable ran ih =>
    have posted := fill_posted ran
    have quantity := posted.quantity_eq
    have open_ : fill.quantity ≤ ticket.amount - progress.traded := by
      rw [quantity]
      exact Int.min_le_left _ _
    refine ⟨?_, ?_, ?_, .inr ?_, fun none => absurd none (progress.add_fills_ne_nil fill), ?_⟩
    · rw [posted.trades, ih.trades, List.append_assoc]
      simp only [Progress.add, List.map_append, List.map_singleton]
    · refine forall_mem_append_singleton ih.quantities ⟨quantity ▸ posted.positive, ?_⟩
      rw [posted.first_amount, quantity]
    · simp only [Progress.add, List.map_append, List.sum_append, List.map_singleton, List.sum_singleton, ih.traded]
    · simp only [Progress.add]
      omega
    · have kept := fill_keeps_orderIds ticket resting
        (min (progress.openAmount ticket.amount) resting.remaining) books
      rw [ran] at kept
      exact kept.trans ih.orderIds

namespace Accounted

/-- The trades that were added come to what was traded. -/
theorem amounts (accounted : Accounted ticket start progress books) :
    ((progress.fills.map (·.trade)).map (·.first.amount)).sum = progress.traded := by
  rw [List.map_map, accounted.traded]
  exact congrArg List.sum (List.map_congr_left fun fill member => (accounted.quantities fill member).2)

theorem traded_nonneg (accounted : Accounted ticket start progress books) : 0 ≤ progress.traded := by
  rw [accounted.traded]
  refine List.sum_nonneg fun quantity member => ?_
  obtain ⟨fill, present, rfl⟩ := List.mem_map.mp member
  exact Int.le_of_lt (accounted.quantities fill present).1

theorem traded_pos (accounted : Accounted ticket start progress books) (some : progress.fills ≠ []) :
    0 < progress.traded := by
  rw [accounted.traded]
  refine List.sum_pos _ (fun quantity member => ?_) (by simpa using some)
  obtain ⟨fill, present, rfl⟩ := List.mem_map.mp member
  exact (accounted.quantities fill present).1

theorem fills_eq_nil (accounted : Accounted ticket start progress books) (none : progress.traded = 0) :
    progress.fills = [] := by
  by_contra some
  have positive := accounted.traded_pos some
  omega

theorem traded_lt (accounted : Accounted ticket start progress books) (pending : progress.Pending ticket.amount)
    (positive : 0 < ticket.amount) : progress.traded < ticket.amount := by
  rcases pending with none | open_
  · rw [accounted.traded, none]
    exact positive
  · rcases accounted.within with none | within
    · rw [accounted.traded, none]
      exact positive
    · unfold Progress.openAmount at open_
      omega

end Accounted

end Bourse
