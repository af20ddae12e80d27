import Bourse.Proofs.Handling

namespace Bourse

open Scope

variable {ticket : Ticket} {books after : Books}

/-- After a fill that has left nothing open of a resting order, that order is crossed no more, and no other is that was
not crossed before. -/
theorem FillDone.crossedBy_subset {resting : Order} {fill : Fill}
    (done : FillDone ticket resting resting.remaining books fill after) :
    ∀ order ∈ after.crossedBy ticket, order ∈ books.crossedBy ticket ∧ order.id ≠ resting.id := by
  have rows : ∀ order ∈ after.orders, order.status = .active → order ∈ books.orders ∧ order.id ≠ resting.id := by
    rw [done.orders, Int.sub_self]
    refine Books.forall_mem_setOrder (fun order member different _ => ⟨member, different⟩) ?_
    intro order _ _ active
    cases active
  intro order crossed
  obtain ⟨present, terms⟩ := List.mem_filter.mp crossed
  obtain ⟨before, different⟩ := rows order present (of_decide_eq_true terms).1
  exact ⟨List.mem_filter.mpr ⟨before, terms⟩, different⟩

/-- A turn that goes to the end of its list, with something still open, leaves no order that could be crossed. -/
theorem settleInTurn_exhausts {unfilled : Int} {listed : List Order} (calm : books.Calm)
    (all : ∀ order ∈ books.crossedBy ticket, order ∈ listed)
    (unstopped : (settleInTurn ticket unfilled listed books).stopped = none)
    (short : (settleInTurn ticket unfilled listed books).traded ≠ unfilled) :
    (settleInTurn ticket unfilled listed books).books.crossedBy ticket = [] := by
  fun_induction settleInTurn ticket unfilled listed books with
  | case1 unfilled books => exact List.eq_nil_of_subset_nil all
  | case2 => cases unstopped
  | case3 resting rest books fill after filled => exact absurd Turn.traded_singleton short
  | case4 unfilled resting rest books fill after filled unfinished later ih =>
    have done := fill_of_ok calm.steady filled
    have total : Turn.traded { later with fills := fill :: later.fills } = fill.quantity + later.traded :=
      Turn.traded_cons
    have whole : min unfilled resting.remaining = resting.remaining := by
      have quantity := done.quantity_eq
      omega
    rw [whole] at done
    have shortLater : later.traded ≠ unfilled - fill.quantity := by omega
    refine ih ((fill_makes ..).calm calm filled) (fun order crossed => ?_) unstopped shortLater
    obtain ⟨before, different⟩ := done.crossedBy_subset order crossed
    rcases List.mem_cons.mp (all order before) with rfl | behind
    · exact absurd rfl different
    · exact behind

/-- Matching that ends without a failure has traded all or leaves no order that could be crossed. -/
theorem Books.Calm.matchTicket_exhausts (calm : books.Calm) {size : Nat} {progress : Progress}
    (matched : matchTicket ticket size books = (.ok progress, after)) :
    progress.traded = ticket.amount ∨ after.crossedBy ticket = [] := by
  by_cases range : 1 ≤ size ∧ size ≤ maxPageSize
  · by_cases readable : books.Readable ticket
    case neg => cases (calm.steady.matchTicket_unread readable range).symm.trans matched
    rw [calm.steady.matchTicket_eq readable range, matchInTurn] at matched
    obtain ⟨unstopped, _, traded, _⟩ := Turn.outcome_eq_ok (congrArg Prod.fst matched)
    have reached : _ = after := congrArg Prod.snd matched
    rw [Turn.books_outcome] at reached
    rw [← reached, traded]
    by_cases all : (settleInTurn ticket ticket.amount (books.crossedBy ticket) books).traded = ticket.amount
    · exact .inl all
    · exact .inr (settleInTurn_exhausts calm (fun order crossed => crossed) unstopped all)
  · obtain ⟨cause, refused⟩ := matchTicket_of_size ticket books range
    rw [refused] at matched
    cases matched

/-- How a submission ends, whatever the desk takes for accounts and whatever is refused or ignored: it leaves the
books alone; or it adds its order, and if that is active nothing is left that it crosses unless it was interrupted; or
it leaves fills without their order. -/
inductive Submission (ticket : Ticket) (books : Books) : Except Failure Receipt → Books → Prop
  | refused {failure} : Submission ticket books (.error failure) books
  | added {fills middle row result} (served : Served ticket books fills middle)
      (listed : ticket.pair ∈ Pair.listed) (row_eq : row = ticket.stored (nextId middle.orders) (quantityOf fills))
      (exhausted : row.status = .active →
        middle.crossedBy ticket = [] ∨ ∃ filled cause, result = .error (.interrupted row.id filled cause)) :
      Submission ticket books result { middle with orders := middle.orders ++ [row] }
  | unstored {fills middle filled cause} (served : Served ticket books fills middle) :
      Submission ticket books (.error (.unstored filled cause)) middle

theorem Taken.submission {desk : Desk} {filing : Filing Receipt} (taken : Taken desk ticket books filing)
    (calm : books.Calm) : Submission ticket books filing.result filing.books := by
  cases taken with
  | stored matched stored =>
    obtain ⟨⟨served, traded⟩, ⟨_, listed⟩, row, rfl⟩ := calm.stored_of_matched matched (.inl rfl) stored
    refine .added served listed row fun active => .inl ?_
    rcases calm.matchTicket_exhausts matched with all | none
    · -- Of an order that was traded in full nothing is open.
      rw [row, ← traded, all, Ticket.stored, Int.sub_self] at active
      cases active
    · exact none
  | interrupted matched some stored =>
    obtain ⟨⟨served, _⟩, ⟨_, listed⟩, row, rfl⟩ := calm.stored_of_matched matched (.inr ⟨_, rfl⟩) stored
    exact .added served listed row fun _ => .inr ⟨_, _, rfl⟩
  | rejected matched none =>
    obtain ⟨_, accounted⟩ := calm.served_of_matched matched
    rw [accounted.untouched (accounted.fills_eq_nil none)]
    exact .refused
  | @unstored outcome progress cause middle matched reached failed =>
    obtain ⟨served, accounted⟩ := calm.served_of_matched matched
    rw [progressIn_of_reached reached] at served accounted
    by_cases none : progress.traded = 0
    · rw [accounted.untouched (accounted.fills_eq_nil none)]
      exact .refused
    · rw [if_neg none]
      exact .unstored served

theorem Desk.submit_submission (desk : Desk) (principal : Principal) (ticket : Ticket) (calm : books.Calm) :
    Submission ticket books (desk.submit principal ticket books).result
      (desk.submit principal ticket books).books := by
  unfold submit
  cases desk.vet principal ticket books with
  | error failure => exact .refused
  | ok => exact (desk.take_taken ticket books).submission calm

end Bourse
