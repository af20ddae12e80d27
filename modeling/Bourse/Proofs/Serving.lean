import Bourse.Proofs.Greedy
import Bourse.Proofs.Interleaving

namespace Bourse

open Scope

/-- How a ticket is served: fill after fill, each against an order that stands in the books as it was listed. -/
inductive Served (ticket : Ticket) (start : Books) : List Fill → Books → Prop
  | none : Served ticket start [] start
  | next {fills books resting quantity fill after} (earlier : Served ticket start fills books)
      (standing : resting ∈ books.orders)
      (tradable : resting.Tradable ticket.pair ticket.price ticket.side.opposite)
      (filled : Scope.fill ticket resting quantity books = (.ok fill, after)) :
      Served ticket start (fills ++ [fill]) after

/-- What was filled in all. -/
def quantityOf (fills : List Fill) : Int := (fills.map (·.quantity)).sum

theorem quantityOf_append (fills : List Fill) (fill : Fill) :
    quantityOf (fills ++ [fill]) = quantityOf fills + fill.quantity := by
  simp only [quantityOf, List.map_append, List.map_singleton, List.sum_append, List.sum_singleton]

namespace FillDone

variable {ticket : Ticket} {resting : Order} {quantity : Int} {books after : Books} {fill : Fill}

/-- The order that a fill shows is the one that it leaves in the books. -/
theorem resting_mem (done : FillDone ticket resting quantity books fill after) : fill.resting ∈ after.orders := by
  obtain ⟨row, found, _, same⟩ := done.row
  have own := Books.order?_id found
  rw [done.orders, same]
  exact List.mem_map.mpr ⟨row, List.mem_of_find?_eq_some found, if_pos own⟩

/-- A fill leaves an order alone that is not the one it is made against. -/
theorem mem_of_ne (done : FillDone ticket resting quantity books fill after) {order : Order}
    (standing : order ∈ books.orders) (different : order.id ≠ resting.id) : order ∈ after.orders := by
  rw [done.orders]
  exact List.mem_map.mpr ⟨order, standing, if_neg different⟩

/-- A fill leaves closed orders alone. -/
theorem mem_of_closed (done : FillDone ticket resting quantity books fill after) (formed : books.WellFormed)
    {order : Order} (standing : order ∈ books.orders) (closed : order.status ≠ .active) : order ∈ after.orders :=
  ((Effect.filled done : Effect books {} after _).closed formed standing closed).1

end FillDone

variable {ticket : Ticket} {start books : Books} {fills : List Fill}

/-- A turn through standing orders that are crossed serves the ticket. -/
theorem settleInTurn_served {unfilled : Int} {listed : List Order} (earlier : Served ticket start fills books)
    (calm : books.Calm) (standing : ∀ order ∈ listed, order ∈ books.orders)
    (tradable : ∀ order ∈ listed, order.Tradable ticket.pair ticket.price ticket.side.opposite)
    (ascending : listed.Pairwise (·.id < ·.id)) :
    Served ticket start (fills ++ (settleInTurn ticket unfilled listed books).fills)
      (settleInTurn ticket unfilled listed books).books := by
  fun_induction settleInTurn ticket unfilled listed books generalizing fills with
  | case1 unfilled books => rwa [List.append_nil]
  | case2 unfilled resting rest books cause after failed => rwa [List.append_nil]
  | case3 resting rest books fill after filled =>
    exact earlier.next (standing resting List.mem_cons_self) (tradable resting List.mem_cons_self) filled
  | case4 unfilled resting rest books fill after filled unfinished later =>
    rename_i ih
    have done := fill_of_ok calm.steady filled
    have served := earlier.next (standing resting List.mem_cons_self) (tradable resting List.mem_cons_self) filled
    -- The orders after this one have other ids, so that they still stand as they were listed.
    obtain ⟨before, following⟩ := List.pairwise_cons.mp ascending
    have ended := ih served ((fill_makes ..).calm calm filled)
      (fun order member => done.mem_of_ne (standing order (List.mem_cons_of_mem _ member))
        (Int.ne_of_gt (before order member)))
      (fun order member => tradable order (List.mem_cons_of_mem _ member)) following
    rwa [List.append_assoc] at ended

theorem Books.tradable_of_crossedBy {order : Order} (crossed : order ∈ books.crossedBy ticket) :
    order ∈ books.orders ∧ order.Tradable ticket.pair ticket.price ticket.side.opposite := by
  obtain ⟨standing, terms⟩ := List.mem_filter.mp crossed
  obtain ⟨active, side, pair, crosses⟩ := of_decide_eq_true terms
  exact ⟨standing, side, pair, Side.offersWithin_opposite.mpr crosses, active⟩

theorem Turn.books_outcome (turn : Turn) (amount : Int) (earlier : Progress) :
    (turn.outcome amount earlier).2 = turn.books := by
  unfold outcome
  repeat' split
  all_goals rfl

/-- Pages of a size that is not allowed are refused before anything is done. -/
theorem matchTicket_of_size (ticket : Ticket) (books : Books) {size : Nat}
    (refused : ¬(1 ≤ size ∧ size ≤ maxPageSize)) :
    ∃ cause, matchTicket ticket size books = (.error ⟨{}, cause⟩, books) := by
  rw [← checkPageSize_eq_ok] at refused
  unfold matchTicket
  fun_cases sweep ticket size none {} books with
  | case1 cause listed => exact ⟨cause, rfl⟩
  | case2 listed => exact absurd (Books.tradableBeyond_ok listed).1 refused
  | case3 first rest listed => exact absurd (Books.tradableBeyond_ok listed).1 refused
  | case4 first rest listed => exact absurd (Books.tradableBeyond_ok listed).1 refused
  | case5 first rest listed => exact absurd (Books.tradableBeyond_ok listed).1 refused

/-- However matching ends, the ticket was served with the fills that it reports. -/
theorem Books.Calm.matchTicket_served (calm : books.Calm) (ticket : Ticket) (size : Nat) :
    Served ticket books (progressIn (matchTicket ticket size books).1).fills (matchTicket ticket size books).2 := by
  by_cases range : 1 ≤ size ∧ size ≤ maxPageSize
  · by_cases readable : books.Readable ticket
    · have ascending := calm.formed.ahead_none ticket ▸ calm.formed.ahead_ascending ticket none
      have served : Served ticket books _ (settleInTurn ticket ticket.amount (books.crossedBy ticket) books).books :=
        settleInTurn_served .none calm (fun order member => (tradable_of_crossedBy member).1)
          (fun order member => (tradable_of_crossedBy member).2) ascending
      rw [calm.steady.matchTicket_eq readable range, matchInTurn, Turn.progressIn_outcome, Turn.books_outcome]
      exact served
    · rw [calm.steady.matchTicket_unread readable range]
      exact .none
  · obtain ⟨cause, refused⟩ := matchTicket_of_size ticket books range
    rw [refused]
    exact .none

theorem Matched.accounted {outcome : Except Interruption Progress × Books} (matched : Matched ticket start outcome) :
    Accounted ticket start (progressIn outcome.1) outcome.2 := by
  cases matched with
  | exhausted filled _ => exact filled.accounted
  | completed filled _ _ => exact { filled.accounted with }
  | refused filled _ _ => exact filled.accounted
  | stopped filled _ _ _ => exact filled.accounted

namespace Served

theorem calm (served : Served ticket start fills books) (calm : start.Calm) : books.Calm := by
  induction served with
  | none => exact calm
  | next _ _ _ filled ih => exact (fill_makes ..).calm ih filled

theorem writes (served : Served ticket start fills books) (calm : start.Calm) : Writes False start books := by
  induction served with
  | none => exact .refl
  | @next fills books resting quantity fill after earlier standing tradable filled ih =>
    have written := fill_makes ticket resting quantity (.inr (earlier.calm calm).quiet : books.Quiet False)
    rw [filled] at written
    exact ih.trans written

theorem faults (served : Served ticket start fills books) (calm : start.Calm) : books.faults = start.faults := by
  induction served with
  | none => rfl
  | next earlier _ _ filled ih => exact (fill_of_ok (earlier.calm calm).steady filled).faults.trans ih

theorem orderIds (served : Served ticket start fills books) : books.orderIds = start.orderIds := by
  induction served with
  | none => rfl
  | @next fills books resting quantity fill after earlier standing tradable filled ih =>
    have kept := fill_keeps_orderIds ticket resting quantity books
    rw [filled] at kept
    exact kept.trans ih

/-- Serving a ticket leaves an order as it was, or takes from one that was open and does not take it back. -/
theorem order_before (served : Served ticket start fills books) (calm : start.Calm) :
    ∀ order ∈ books.orders, ∃ old ∈ start.orders, order = old ∨
      ((old.status = .active ∧ order.status ≠ .canceled) ∧
        ∃ remaining status, order = { old with remaining, status }) := by
  induction served with
  | none => exact fun order member => ⟨order, member, .inl rfl⟩
  | @next fills books resting quantity fill after earlier standing tradable filled ih =>
    have before := earlier.calm calm
    rw [(fill_of_ok before.steady filled).orders]
    refine Books.forall_mem_setOrder (fun order member _ => ih order member) fun order member same => ?_
    have active : order.status = .active := by
      rw [before.formed.orderIds.unique member standing same]
      exact tradable.2.2.2
    obtain ⟨old, present, rfl | ⟨⟨open_, _⟩, _, _, rfl⟩⟩ := ih order member
    · exact ⟨order, present, .inr ⟨⟨active, Status.ofOpen_ne_canceled _⟩, _, _, rfl⟩⟩
    · exact ⟨old, present, .inr ⟨⟨open_, Status.ofOpen_ne_canceled _⟩, _, _, rfl⟩⟩

/-- An order that was filled whole stays as that fill has left it. -/
theorem resting_mem (served : Served ticket start fills books) (calm : start.Calm) {fill : Fill}
    (made : fill ∈ fills) (closed : fill.resting.status ≠ .active) : fill.resting ∈ books.orders := by
  induction served with
  | none => cases made
  | next earlier _ _ filled ih =>
    have before := earlier.calm calm
    have done := fill_of_ok before.steady filled
    rcases List.mem_append.mp made with old | new
    · exact done.mem_of_closed before.formed (ih old) closed
    · rw [List.mem_singleton.mp new]
      exact done.resting_mem

end Served

end Bourse
