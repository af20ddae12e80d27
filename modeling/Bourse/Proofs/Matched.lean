import Bourse.Matching
import Bourse.Proofs.Scope

namespace Bourse

theorem Scope.fill_of_error {ticket : Ticket} {resting : Order} {quantity : Int} {books after : Books}
    {cause : Failure} (failed : fill ticket resting quantity books = (.error cause, after)) : after = books := by
  unfold fill at failed
  cases swap : Swap.ofFill ticket resting quantity with
  | error error =>
    rw [swap] at failed
    exact (congrArg Prod.snd failed).symm
  | ok legs =>
    rw [swap] at failed
    exact (atomic_eq_error.mp failed).2

theorem checkPageSize_eq_ok {size : Nat} : checkPageSize size = .ok () ↔ 1 ≤ size ∧ size ≤ maxPageSize := by
  unfold checkPageSize
  split
  · exact ⟨nofun, by omega⟩
  · exact ⟨fun _ => by omega, fun _ => rfl⟩

/-- A page is refused for its size, or because the orders on it stand on a pair that is not read back. -/
theorem Books.tradableBeyond_error {books : Books} {pair : Pair} {limit : Int} {side : Side}
    {cursor : Option OrderId} {size : Nat} {cause : Failure}
    (refused : books.tradableBeyond pair limit side cursor size = .error cause) :
    checkPageSize size = .error cause ∨ (cause = .unreadable pair ∧ pair ∉ Pair.listed) ∧
      ∃ order ∈ books.ordersBeyond cursor, order.Tradable pair limit side := by
  unfold tradableBeyond at refused
  match checked : checkPageSize size with
  | .error failure => exact .inl (by simpa only [checked, bind, Except.bind, Except.error.injEq] using refused)
  | .ok () =>
    simp only [checked, bind, Except.bind] at refused
    obtain ⟨order, member, unlisted, rfl⟩ := Order.allShown_eq_error refused
    obtain ⟨standing, terms⟩ := List.mem_filter.mp (List.mem_of_mem_take member)
    have tradable : order.Tradable pair limit side := of_decide_eq_true terms
    exact .inr ⟨tradable.2.1 ▸ ⟨rfl, unlisted⟩, order, standing, tradable⟩

theorem Books.tradable_of_tradableBeyond {books : Books} {pair : Pair} {limit : Int} {side : Side}
    {cursor : Option OrderId} {size : Nat} {page : List Order}
    (listed : books.tradableBeyond pair limit side cursor size = .ok page) :
    ∀ order ∈ page, order.Tradable pair limit side := by
  intro order member
  rw [(tradableBeyond_ok listed).2] at member
  simpa using (List.mem_filter.mp (List.mem_of_mem_take member)).2

/-- Orders on a page are read, so that they stand on a listed pair. -/
theorem Books.listed_of_tradableBeyond {books : Books} {pair : Pair} {limit : Int} {side : Side}
    {cursor : Option OrderId} {size : Nat} {page : List Order}
    (listed : books.tradableBeyond pair limit side cursor size = .ok page) : page = [] ∨ pair ∈ Pair.listed := by
  have tradable := tradable_of_tradableBeyond listed
  unfold tradableBeyond at listed
  match checked : checkPageSize size with
  | .error failure => simp [checked, bind, Except.bind] at listed
  | .ok () =>
    simp only [checked, bind, Except.bind] at listed
    obtain ⟨same, read⟩ := Order.allShown_eq_ok.mp listed
    cases page with
    | nil => exact .inl rfl
    | cons first rest =>
      have terms := tradable first List.mem_cons_self
      exact .inr (terms.2.1 ▸ read first (same ▸ List.mem_cons_self))

theorem Books.mem_of_tradableBeyond {books : Books} {pair : Pair} {limit : Int} {side : Side}
    {cursor : Option OrderId} {size : Nat} {page : List Order}
    (listed : books.tradableBeyond pair limit side cursor size = .ok page) : ∀ order ∈ page, order ∈ books.orders := by
  intro order member
  rw [(tradableBeyond_ok listed).2] at member
  exact (List.mem_filter.mp (List.mem_filter.mp (List.mem_of_mem_take member)).1).1

/-- Matching looks for more: nothing is filled yet or something is still open. Before the first fill it does
not ask what is open. -/
def Progress.Pending (progress : Progress) (amount : Int) : Prop :=
  progress.fills = [] ∨ progress.openAmount amount ≠ 0

/-- How matching gets from one fill to the next, and the books with it. Each order that is tried was listed as
tradable, in the books as they were when its page was read. -/
inductive Filled (ticket : Ticket) (start : Books) : Progress → Books → Prop
  | none : Filled ticket start {} start
  | next {progress books resting fill after} (earlier : Filled ticket start progress books)
      (pending : progress.Pending ticket.amount)
      (tradable : resting.Tradable ticket.pair ticket.price ticket.side.opposite)
      (filled : Scope.fill ticket resting (min (progress.openAmount ticket.amount) resting.remaining) books =
        (.ok fill, after)) :
      Filled ticket start (progress.add fill) after

/-- How matching ends: no order is left to try, nothing is left open, or it fails between two fills, as it turns to the
next page or at the next order. -/
inductive Matched (ticket : Ticket) (start : Books) : Except Interruption Progress × Books → Prop
  | exhausted {progress books} (filled : Filled ticket start progress books)
      (pending : progress.Pending ticket.amount) : Matched ticket start (.ok progress, books)
  | completed {progress books} (filled : Filled ticket start progress books) (some : progress.fills ≠ [])
      (closed : progress.openAmount ticket.amount = 0) :
      Matched ticket start (.ok { progress with status := .completed }, books)
  | refused {progress books cursor size cause} (filled : Filled ticket start progress books)
      (pending : progress.Pending ticket.amount)
      (refused : books.tradableBeyond ticket.pair ticket.price ticket.side.opposite cursor size = .error cause) :
      Matched ticket start (.error ⟨progress, cause⟩, books)
  | stopped {progress books resting cause} (filled : Filled ticket start progress books)
      (pending : progress.Pending ticket.amount)
      (tradable : resting.Tradable ticket.pair ticket.price ticket.side.opposite)
      (failed : Scope.fill ticket resting (min (progress.openAmount ticket.amount) resting.remaining) books =
        (.error cause, books)) :
      Matched ticket start (.error ⟨progress, cause⟩, books)

variable {ticket : Ticket} {start : Books}

theorem Filled.status {progress : Progress} {books : Books} (filled : Filled ticket start progress books) :
    progress.status = .active := by
  induction filled with
  | none => rfl
  | next _ _ _ _ ih => exact ih

theorem Progress.add_fills_ne_nil (progress : Progress) (fill : Fill) : (progress.add fill).fills ≠ [] :=
  List.append_ne_nil_of_right_ne_nil _ (List.cons_ne_nil _ _)

theorem Progress.openAmount_add (progress : Progress) (fill : Fill) (amount : Int) :
    (progress.add fill).openAmount amount = progress.openAmount amount - fill.quantity := by
  simp only [openAmount, add]
  omega

theorem fillPage_matched {page : List Order} {progress : Progress} {books : Books}
    (filled : Filled ticket start progress books) (pending : progress.Pending ticket.amount)
    (tradable : ∀ resting ∈ page, resting.Tradable ticket.pair ticket.price ticket.side.opposite) :
    Matched ticket start (fillPage ticket page progress books) := by
  fun_induction fillPage ticket page progress books with
  | case1 => exact .exhausted filled pending
  | case2 resting rest progress books cause after failed =>
    obtain rfl := Scope.fill_of_error failed
    exact .stopped filled pending (tradable resting List.mem_cons_self) failed
  | case3 resting rest progress books fill after ran closed =>
    exact .completed (filled.next pending (tradable resting List.mem_cons_self) ran)
      (progress.add_fills_ne_nil fill) closed
  | case4 resting rest progress books fill after ran open_ ih =>
    exact ih (filled.next pending (tradable resting List.mem_cons_self) ran) (.inr open_)
      fun other member => tradable other (List.mem_cons_of_mem _ member)

/-- A page that was tried to its end leaves matching where it can go on. -/
theorem Matched.resume {progress : Progress} {books : Books} (matched : Matched ticket start (.ok progress, books))
    (unfinished : progress.status ≠ .completed) :
    Filled ticket start progress books ∧ progress.Pending ticket.amount := by
  cases matched with
  | exhausted filled pending => exact ⟨filled, pending⟩
  | completed => exact absurd rfl unfinished

theorem sweep_matched {size : Nat} {cursor : Option OrderId} {progress : Progress} {books : Books}
    (filled : Filled ticket start progress books) (pending : progress.Pending ticket.amount) :
    Matched ticket start (sweep ticket size cursor progress books) := by
  fun_induction sweep ticket size cursor progress books with
  | case1 cursor progress books cause listed =>
    exact .refused filled pending listed
  | case2 cursor progress books listed => exact .exhausted filled pending
  | case3 cursor progress books first rest listed interruption after ran =>
    exact ran ▸ fillPage_matched filled pending (Books.tradable_of_tradableBeyond listed)
  | case4 cursor progress books first rest listed reached after ran completed =>
    exact ran ▸ fillPage_matched filled pending (Books.tradable_of_tradableBeyond listed)
  | case5 cursor progress books first rest listed reached after ran unfinished ih =>
    have page := fillPage_matched filled pending (Books.tradable_of_tradableBeyond listed)
    rw [ran] at page
    obtain ⟨filled, pending⟩ := page.resume unfinished
    exact ih filled pending

/-- Whatever the page size, matching goes from fill to fill until it ends. -/
theorem matchTicket_matched (ticket : Ticket) (size : Nat) (books : Books) :
    Matched ticket books (matchTicket ticket size books) :=
  sweep_matched .none (.inl rfl)

theorem Matched.of_eq {size : Nat} {outcome : Except Interruption Progress × Books}
    (ran : matchTicket ticket size start = outcome) : Matched ticket start outcome :=
  ran ▸ matchTicket_matched ticket size start

end Bourse
