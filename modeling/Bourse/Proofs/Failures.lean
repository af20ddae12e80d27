import Bourse.Desk
import Bourse.Proofs.Matched

namespace Bourse

theorem Books.overwritten_eq_error {books : Books} {race : Race} {failure : Failure}
    (failed : books.overwritten race = .error failure) : failure = .storage (.condition .remaining) := by
  unfold overwritten at failed
  repeat' split at failed
  all_goals cases failed
  rfl

theorem Books.strike_eq_error {depth : Nat} {races : List Race} {written : OrderId} {books : Books}
    {failure : Failure} (failed : strike depth races written books = .error failure) :
    failure = .storage (.condition .remaining) := by
  induction depth generalizing races written books with
  | zero => cases failed
  | succ depth deeper =>
    rw [strike] at failed
    generalize races.filter _ = waiting at failed
    induction waiting generalizing books with
    | nil => cases failed
    | cons race rest later =>
      rw [List.foldlM_cons] at failed
      cases hit : books.overwritten race with
      | error cause =>
        simp only [hit, bind, Except.bind] at failed
        cases failed
        exact overwritten_eq_error hit
      | ok next =>
        cases next with
        | none =>
          simp only [hit, bind, Except.bind, pure, Except.pure] at failed
          exact later failed
        | some left =>
          simp only [hit, bind, Except.bind] at failed
          split at failed
          next cause chain =>
            cases failed
            exact deeper chain
          next reached chain => exact later failed

theorem Order.shown_unfilled {order : Order} {failure : Failure} (unread : order.shown = .error failure) :
    failure.filled? = none := by
  rw [(shown_eq_error.mp unread).1]
  rfl

namespace Scope

theorem account_unfilled (id : AccountId) : Unfilled (account id) := by
  refine unfilled_read fun books failure failed => ?_
  unfold Books.findAccount at failed
  split at failed
  · cases failed
  · cases failed
    rfl

theorem order_unfilled (id : OrderId) : Unfilled (order id) := by
  refine unfilled_read fun books failure failed => ?_
  unfold Books.findOrder at failed
  split at failed
  · exact Order.shown_unfilled failed
  · cases failed
    rfl

theorem statusAfter_unfilled (order : Order) (change : Change) : Unfilled (ofExcept (order.statusAfter change)) := by
  refine unfilled_ofExcept fun failure failed => ?_
  unfold Order.statusAfter at failed
  split at failed
  · cases failed
  · cases failed
    rfl

theorem writeBalance_unfilled (found : Account) (balance : Int) : Unfilled (writeBalance found balance) := by
  intro books failure after failed
  unfold writeBalance at failed
  split at failed
  · cases failed
    rfl
  · cases failed

theorem credit_unfilled (id : AccountId) (amount : Int) : Unfilled (credit id amount) := by
  refine (account_unfilled id).bind fun found => ?_
  split
  · exact writeBalance_unfilled _ _
  · exact unfilled_fail rfl

theorem debit_unfilled (id : AccountId) (amount : Int) : Unfilled (debit id amount) := by
  refine (account_unfilled id).bind fun found => ?_
  split
  · exact writeBalance_unfilled _ _
  · exact unfilled_fail rfl
  · exact unfilled_fail rfl

theorem postTransfer_unfilled (leg : Leg) : Unfilled (postTransfer leg) := by
  intro books failure after failed
  unfold postTransfer at failed
  repeat' split at failed
  all_goals cases failed
  all_goals rfl

theorem postEntry_unfilled (id : AccountId) (amount : Int) : Unfilled (postEntry id amount) := by
  intro books failure after failed
  unfold postEntry at failed
  split at failed
  · cases failed
  · cases failed
    rfl

theorem postTrade_unfilled (first second : Leg) : Unfilled (postTrade first second) := by
  intro books failure after failed
  unfold postTrade at failed
  repeat' split at failed
  all_goals cases failed
  all_goals rfl

theorem positive_unfilled (amount : Int) : Unfilled (positive amount) := by
  unfold positive
  split
  · exact unfilled_pure _
  · exact unfilled_fail rfl

theorem endpoints_unfilled (payer payee : AccountId) : Unfilled (endpoints payer payee) :=
  (account_unfilled _).bind fun _ => (account_unfilled _).bind fun _ => unfilled_pure _

theorem move_unfilled (payer payee : AccountId) (amount : Int) : Unfilled (move payer payee amount) :=
  (debit_unfilled _ _).bind fun _ => (credit_unfilled _ _).bind fun _ => (postTransfer_unfilled _).bind fun _ =>
    (postEntry_unfilled _ _).bind fun _ => (postEntry_unfilled _ _).bind fun _ => unfilled_pure _

theorem transfer_unfilled (payer payee : AccountId) (amount : Int) : Unfilled (transfer payer payee amount) := by
  refine (positive_unfilled _).bind fun _ => (endpoints_unfilled _ _).bind fun ends => ?_
  split
  split
  · exact move_unfilled _ _ _
  · exact unfilled_fail rfl

theorem settle_unfilled (first second : Leg) : Unfilled (settle first second) :=
  (positive_unfilled _).bind fun _ => (positive_unfilled _).bind fun _ => (postTrade_unfilled _ _).bind fun _ =>
    (transfer_unfilled _ _ _).bind fun _ => (transfer_unfilled _ _ _).bind fun _ => unfilled_pure _

theorem addOrder_unfilled (ticket : Ticket) : Unfilled (addOrder ticket) := by
  intro books failure after failed
  unfold addOrder at failed
  split at failed
  · cases failed
    rfl
  · split at failed
    · cases failed
      rfl
    · split at failed
      · cases failed
        rfl
      · exact Order.shown_unfilled (Prod.mk.inj failed).1

theorem writeOrder_unfilled (id : OrderId) (expected : Order → Bool) (remaining : Order → Int) (status : Status) :
    Unfilled (writeOrder id expected remaining status) := by
  intro books failure after failed
  unfold writeOrder at failed
  split at failed
  · cases failed
  · split at failed
    · cases failed
    · split at failed
      next => exact Order.shown_unfilled (Order.some_shown_eq_error.mp (Prod.mk.inj failed).1)
      next struck =>
        cases failed
        rw [Books.strike_eq_error struck]
        rfl

theorem conflict_unfilled (id : OrderId) (expected : Int) : Unfilled (conflict id expected) :=
  (order_unfilled _).bind fun _ => unfilled_fail rfl

theorem recordFill_unfilled (id : OrderId) (expected remaining : Int) (status : Status) :
    Unfilled (recordFill id expected remaining status) := by
  unfold recordFill
  split
  · exact unfilled_fail rfl
  · split
    · exact unfilled_fail rfl
    · refine (writeOrder_unfilled _ _ _ _).bind fun written => ?_
      split
      · exact unfilled_pure _
      · exact conflict_unfilled _ _

theorem storeOrder_unfilled (ticket : Ticket) (filled : Int) : Unfilled (storeOrder ticket filled) := by
  refine ((addOrder_unfilled ticket).bind fun order => ?_).atomic
  split
  · exact unfilled_pure _
  · exact (statusAfter_unfilled _ _).bind fun status => recordFill_unfilled _ _ _ _

theorem fill_unfilled (ticket : Ticket) (resting : Order) (quantity : Int) :
    Unfilled (fill ticket resting quantity) := by
  unfold fill
  split
  · exact unfilled_fail rfl
  · exact ((settle_unfilled _ _).bind fun _ => (statusAfter_unfilled _ _).bind fun _ =>
      (recordFill_unfilled _ _ _ _).bind fun _ => unfilled_pure _).atomic

end Scope

theorem checkPageSize_eq_error {size : Nat} {failure : Failure} (refused : checkPageSize size = .error failure) :
    failure = .validation (.pageSize size) := by
  unfold checkPageSize at refused
  split at refused
  · cases refused
    rfl
  · cases refused

/-- Matching itself never fails with a failure that names fills: what was filled stands beside its cause. -/
theorem Matched.cause_unfilled {ticket : Ticket} {start after : Books} {interruption : Interruption}
    (matched : Matched ticket start (.error interruption, after)) : interruption.cause.filled? = none := by
  cases matched with
  | refused _ _ refused =>
    rcases Books.tradableBeyond_error refused with size | ⟨⟨rfl, _⟩, _⟩
    · rw [checkPageSize_eq_error size]
      rfl
    · rfl
  | stopped _ _ _ failed => exact Scope.fill_unfilled _ _ _ failed

/-- The desk refuses a ticket for a failure that names no fills, or hands on what the directory has answered for one of
its accounts. -/
theorem Desk.vet_error {desk : Desk} {principal : Principal} {ticket : Ticket} {books : Books} {failure : Failure}
    (refused : desk.vet principal ticket books = .error failure) :
    failure.filled? = none ∨
      ∃ id, (id = ticket.source ∨ id = ticket.destination) ∧ desk.directory books id = .error failure := by
  have checked {id : AccountId} {expected : Currency} {cause : Failure}
      (failed : desk.checkAccount principal id expected books = .error cause) :
      cause.filled? = none ∨ desk.directory books id = .error cause := by
    unfold checkAccount at failed
    match looked : desk.directory books id with
    | .error reason =>
      simp only [looked, bind, Except.bind, Except.error.injEq] at failed
      exact .inr (congrArg _ failed)
    | .ok account =>
      simp only [looked, bind, Except.bind, Principal.authorize] at failed
      repeat' split at failed
      all_goals cases failed
      all_goals exact .inl rfl
  unfold vet at refused
  match terms : ticket.check with
  | .error reason =>
    simp only [terms, bind, Except.bind, Except.error.injEq] at refused
    subst refused
    unfold Ticket.check at terms
    repeat' split at terms
    all_goals cases terms
    all_goals exact .inl rfl
  | .ok () =>
    match source : desk.checkAccount principal ticket.source (ticket.side.pays ticket.pair) books with
    | .error reason =>
      simp only [terms, source, bind, Except.bind, Except.error.injEq] at refused
      subst refused
      exact (checked source).imp_right fun looked => ⟨_, .inl rfl, looked⟩
    | .ok () =>
      simp only [terms, source, bind, Except.bind] at refused
      exact (checked refused).imp_right fun looked => ⟨_, .inr rfl, looked⟩

end Bourse
