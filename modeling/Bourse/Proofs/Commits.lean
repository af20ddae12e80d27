import Bourse.Proofs.Greedy
import Bourse.Proofs.Growth
import Bourse.Proofs.History
import Bourse.Proofs.Holders
import Bourse.Proofs.Submission

namespace Bourse

open Scope

/-- One scope that is kept, and the fill that it settled if any: a fill, a matched order that is stored, or operations
that came to the end of their scope. A tolerant scope is kept with what its failed operations have written. -/
inductive Commit (books : Books) : List Fill → Books → Prop
  | fill {ticket resting quantity made after}
      (settled : Scope.fill ticket resting quantity books = (.ok made, after)) : Commit books [made] after
  | order {ticket filled order after} (stored : storeOrder ticket filled books = (.ok order, after)) :
      Commit books [] after
  | scope {operations tolerant} (fair : ∀ operation ∈ operations, operation.Fair)
      (ended : (Batch.run tolerant operations books).failure = none) :
      Commit books [] (Batch.run tolerant operations books).books

/-- Scopes that are kept one after the other, whoever has opened them, and the fills that they settled. -/
inductive Commits (start : Books) : List Fill → Books → Prop
  | none : Commits start [] start
  | next {fills books made after} (earlier : Commits start fills books) (commit : Commit books made after) :
      Commits start (fills ++ made) after

theorem Batch.run_writes {operations : List Operation} (fair : ∀ operation ∈ operations, operation.Fair)
    (tolerant : Bool) {books : Books} (quiet : books.Quiet False) :
    Writes False books (run tolerant operations books).books := run_makes (.inr fair) tolerant quiet

theorem Commit.writes {books after : Books} {made : List Fill} (commit : Commit books made after)
    (quiet : books.Quiet False) : Writes False books after := by
  cases commit with
  | @fill ticket resting quantity made after settled =>
    have written := fill_makes ticket resting quantity quiet
    rwa [settled] at written
  | @order ticket filled order after stored =>
    have written := storeOrder_makes ticket filled quiet
    rwa [stored] at written
  | scope fair ended => exact Batch.run_writes fair _ quiet

/-- An operation that succeeds in a scope of its own. -/
theorem Operation.Fair.commit {operation : Operation} (fair : operation.Fair) {books after : Books} {answer : Answer}
    (ran : operation.perform books = (.ok answer, after)) : Commit books [] after := by
  have whole : Batch.run false [operation] books = ⟨[.ok answer], none, after⟩ := by
    simp only [Batch.run, ran]
  have ended : (Batch.run false [operation] books).failure = none := by rw [whole]
  have committed := Commit.scope (List.forall_mem_singleton.mpr fair) ended
  rwa [whole] at committed

namespace Commits

variable {start books after : Books} {fills more : List Fill}

theorem trans (first : Commits start fills books) (second : Commits books more after) :
    Commits start (fills ++ more) after := by
  induction second with
  | none => rwa [List.append_nil]
  | next _ commit ih =>
    rw [← List.append_assoc]
    exact ih.next commit

/-- One more scope, in which nothing was filled. -/
theorem unfilled (earlier : Commits start fills books) (commit : Commit books [] after) :
    Commits start fills after := by
  have ended := earlier.next commit
  rwa [List.append_nil] at ended

theorem writes (commits : Commits start fills books) (quiet : start.Quiet False) : Writes False start books := by
  induction commits with
  | none => exact .refl
  | next _ commit ih => exact ih.trans (commit.writes (ih.quiet quiet))

theorem calm (commits : Commits start fills books) (calm : start.Calm) : books.Calm :=
  (commits.writes (.inr calm.quiet)).calm calm

end Commits

theorem Filled.commits {ticket : Ticket} {start books : Books} {progress : Progress}
    (filled : Filled ticket start progress books) : Commits start progress.fills books := by
  induction filled with
  | none => exact .none
  | next _ _ _ ran ih => exact ih.next (.fill ran)

/-- Matching commits the fills that it reports, each in a scope of its own. -/
theorem Matched.commits {ticket : Ticket} {start : Books} {outcome : Except Interruption Progress × Books}
    (matched : Matched ticket start outcome) : Commits start (progressIn outcome.1).fills outcome.2 := by
  cases matched with
  | exhausted filled _ => exact filled.commits
  | completed filled _ _ => exact filled.commits
  | refused filled _ _ => exact filled.commits
  | stopped filled _ _ _ => exact filled.commits

/-- The fills that a call commits. -/
def Call.fills (desk : Desk) : Call → Books → List Fill
  | submit principal ticket, books =>
    match desk.vet principal ticket books with
    | .ok () => (progressIn (Bourse.matchTicket ticket desk.pageSize books).1).fills
    | .error _ => []
  | matchTicket ticket size, books => (progressIn (Bourse.matchTicket ticket size books).1).fills
  | _, _ => []

theorem Taken.commits {desk : Desk} {ticket : Ticket} {start : Books} {filing : Filing Receipt}
    (taken : Taken desk ticket start filing) :
    Commits start (progressIn (matchTicket ticket desk.pageSize start).1).fills filing.books := by
  have matched := (matchTicket_matched ticket desk.pageSize start).commits
  cases taken with
  | stored ran stored =>
    rw [ran] at matched ⊢
    exact matched.unfilled (.order stored)
  | interrupted ran _ stored =>
    rw [ran] at matched ⊢
    exact matched.unfilled (.order stored)
  | rejected ran _ =>
    rw [ran] at matched ⊢
    exact matched
  | unstored ran _ _ =>
    rw [ran] at matched ⊢
    exact matched

theorem Batch.commit_commits {operations : List Operation} (fair : ∀ operation ∈ operations, operation.Fair)
    (tolerant : Bool) (abort : Option String) (books : Books) :
    Commits books [] (commit tolerant abort operations books).books := by
  dsimp only [commit]
  cases ended : (run tolerant operations books).failure with
  | some failure => exact .none
  | none =>
    cases abort with
    | some text => exact .none
    | none => exact Commits.none.unfilled (.scope fair ended)

theorem Desk.cancel_commits (desk : Desk) (principal : Principal) (id : OrderId) (books : Books) :
    Commits books [] (desk.cancel principal id books).books := by
  unfold cancel
  split
  · exact .none
  next order _ =>
    split
    next canceled after ran =>
      have fair : (Operation.cancelOrder order.id).Fair := trivial
      have performed : (Operation.cancelOrder order.id).perform books = (.ok (.order canceled), after) :=
        map_eq_ok.mpr ⟨canceled, atomic_eq_ok.mp ran, rfl⟩
      exact Commits.none.unfilled (fair.commit performed)
    next failure after ran =>
      obtain ⟨_, rfl⟩ := atomic_eq_error.mp ran
      exact .none

/-- Whatever a call does to the books it does in scopes that are kept. -/
theorem Call.run_commits (desk : Desk) {call : Call} (fair : call.Each Operation.Fair) (books : Books) :
    Commits books (call.fills desk books) (call.run desk books).2 := by
  cases call with
  | submit principal ticket =>
    simp only [run, fills, Desk.submit]
    cases desk.vet principal ticket books with
    | error failure => exact .none
    | ok => exact (desk.take_taken ticket books).commits
  | cancel principal id => exact desk.cancel_commits principal id books
  | lookUp => exact .none
  | matchTicket ticket size => exact (matchTicket_matched ticket size books).commits
  | perform operation =>
    rcases run_perform desk operation books with ⟨answer, after, ran, replied⟩ | ⟨failure, replied⟩
    · rw [replied]
      exact Commits.none.unfilled (Operation.Fair.commit fair ran)
    · rw [replied]
      exact .none
  | batch operations tolerant abort => exact Batch.commit_commits fair tolerant abort books

/-- The fills that some calls at one desk commit. -/
def Desk.fills (desk : Desk) (calls : List Call) (books : Books) : List Fill :=
  (desk.visits calls books).flatMap fun visit => visit.call.fills visit.desk visit.books

theorem Desk.serve_commits (desk : Desk) {calls : List Call} (fair : ∀ call ∈ calls, call.Each Operation.Fair)
    (books : Books) : Commits books (desk.fills calls books) (desk.serve calls books) := by
  induction calls generalizing books with
  | nil => exact .none
  | cons call rest ih =>
    have first := call.run_commits desk (fair call List.mem_cons_self) books
    exact first.trans (ih (fun other member => fair other (List.mem_cons_of_mem _ member)) _)

/-- What calls lead to is reached by scopes that are kept. -/
theorem Reach.commits {allowed : Desk → Call → Prop} {start books : Books} (reach : Reach allowed start books)
    (fair : ∀ {desk call}, allowed desk call → call.Each Operation.Fair) : ∃ fills, Commits start fills books := by
  induction reach with
  | start => exact ⟨[], .none⟩
  | next _ made ih =>
    obtain ⟨fills, earlier⟩ := ih
    exact ⟨_, earlier.trans (Call.run_commits _ (fair made) _)⟩

section Rows

variable {books after : Books} {made later : List Fill}

/-- The row of every order is consistent, in all books that were committed and in every scope that is open on them. -/
theorem Commits.order_rows_consistent (commits : Commits .empty made books) {operations : List Operation}
    (fair : ∀ operation ∈ operations, operation.Fair) (tolerant : Bool) :
    ∀ order ∈ (Batch.run tolerant operations books).books.orders,
      0 < order.price ∧ 0 < order.initial ∧ (0 ≤ order.remaining ∧ order.remaining ≤ order.initial) ∧
        (order.status = .completed ↔ order.remaining = 0) ∧
        (order.status = .active ∨ order.status = .canceled → 0 < order.remaining) := by
  have calm := commits.calm Books.calm_empty
  have opened := (Batch.run_writes fair tolerant (.inr calm.quiet)).calm calm
  intro order member
  have sound := opened.orders order member
  exact ⟨sound.price, sound.initial, sound.remaining, sound.completed, sound.open_pos⟩

/-- The scope goes on after the price of an order and the rest of a fill were refused, both for being negative. -/
theorem order_rows_consistent_in_tolerant_scope :
    let calls := twoAsks ++ [.submit ⟨"bob"⟩ ⟨.bid, ⟨.btc, .usdt⟩, 30, 8, 4, 3⟩]
    let operations : List Operation := [.addOrder ⟨.bid, ⟨.btc, .usdt⟩, -3, 5, 4, 3⟩, .recordFill 3 3 (-1) .active,
      .recordFill 3 3 1 .active, .cancelOrder 2]
    let batch := Batch.run true operations (Desk.serve {} calls .empty)
    (∀ operation ∈ operations, operation.Fair) ∧ batch.failure = none ∧
      batch.steps.map (fun step => step.isOk) = [false, false, true, true] ∧
      batch.books.orders.map (fun order => (order.remaining, order.status)) =
        [(0, .completed), (5, .canceled), (1, .active)] ∧
      ∀ order ∈ batch.books.orders, 0 < order.price ∧ (order.status = .completed ↔ order.remaining = 0) := by
  intro calls operations batch
  have served : ∀ call ∈ calls, call.Each Operation.Fair := by
    simp [calls, twoAsks, Call.Each, Operation.Fair]
  have fair : ∀ operation ∈ operations, operation.Fair := by
    simp [operations, Operation.Fair]
  have commits := Desk.serve_commits {} served .empty
  refine ⟨fair, by decide +kernel, by decide +kernel, by decide +kernel, fun order member => ?_⟩
  obtain ⟨price, _, _, completed, _⟩ := commits.order_rows_consistent fair true order member
  exact ⟨price, completed⟩

/-- No fill that is committed later is made against an order that is closed. -/
theorem Commits.fills_spare_closed (since : Commits books later after) (calm : books.Calm) {order : Order}
    (member : order ∈ books.orders) (closed : order.status ≠ .active) :
    ∀ fill ∈ later, fill.resting.id ≠ order.id := by
  induction since with
  | none => exact List.forall_mem_nil _
  | @next fills middle made after earlier commit ih =>
    refine List.forall_mem_append.mpr ⟨ih, ?_⟩
    cases commit with
    | order | scope => exact List.forall_mem_nil _
    | fill settled =>
      have between := earlier.calm calm
      have kept := ((earlier.writes (.inr calm.quiet)).grown calm.formed).closed member closed
      have done := fill_of_ok between.steady settled
      obtain ⟨row, found, ⟨_, active⟩, _⟩ := done.row
      obtain ⟨present, own⟩ := between.formed.order?_eq_some.mp found
      refine List.forall_mem_singleton.mpr fun same => closed ?_
      rw [done.resting_id, ← own] at same
      rw [← between.formed.orderIds.unique present kept same]
      exact active

/-- Nothing that was committed is lost or changed later, but for balances and for what becomes of active orders. An
order that is closed is shown on no page of tradable orders, and no fill is made against it. -/
theorem Commits.history_monotone (earlier : Commits .empty made books) (since : Commits books later after) :
    (books.transfers <+: after.transfers ∧ books.entries <+: after.entries ∧ books.trades <+: after.trades) ∧
      (∀ account ∈ books.accounts, ∃ balance, { account with balance } ∈ after.accounts) ∧
      (∀ order ∈ books.orders, ∃ remaining status, { order with remaining, status } ∈ after.orders ∧
        remaining ≤ order.remaining ∧ (status = order.status ∨ order.status = .active)) ∧
      ∀ order ∈ books.orders, order.status = .completed ∨ order.status = .canceled →
        order ∈ after.orders ∧ (∀ fill ∈ later, fill.resting.id ≠ order.id) ∧
          ∀ tolerant operations, (∀ operation ∈ operations, operation.Fair) →
            ¬(Batch.run tolerant operations after).books.Shows order.id := by
  have calm := earlier.calm Books.calm_empty
  have written := since.writes (.inr calm.quiet)
  have grown := written.grown calm.formed
  refine ⟨⟨grown.transfers, grown.entries, grown.trades⟩, fun account member => ?_, fun order member => ?_,
    fun order member ended => ?_⟩
  · have found := calm.formed.account?_eq_some.mpr ⟨member, rfl⟩
    obtain ⟨balance, now⟩ := written.account? found
    exact ⟨balance, List.mem_of_find?_eq_some now⟩
  · obtain ⟨now, present, develops⟩ := grown.orders order member
    refine ⟨now.remaining, now.status, ?_, develops.less, ?_⟩
    · rw [← develops.terms]
      exact present
    · rcases develops.open_ with rfl | active
      · exact .inl rfl
      · exact .inr active
  · have closed : order.status ≠ .active := by
      rcases ended with same | same
      · rw [same]
        exact nofun
      · rw [same]
        exact nofun
    refine ⟨grown.closed member closed, since.fills_spare_closed calm member closed, ?_⟩
    intro tolerant operations fair
    have calmAfter := since.calm calm
    have opened := Batch.run_writes fair tolerant (.inr calmAfter.quiet)
    have kept := (opened.grown calmAfter.formed).closed (grown.closed member closed) closed
    exact (opened.wellFormed calmAfter.formed).not_shows kept closed

/-- One ask is filled by a bid that is then interrupted. When a second bidder comes, with more funds, only the other
ask is left. -/
theorem history_monotone_over_second_bid :
    let calls := twoAsks ++ [.submit ⟨"bob"⟩ ⟨.bid, ⟨.btc, .usdt⟩, 30, 8, 4, 3⟩]
    let later : List Call := [.perform (.deposit 4 60), .submit ⟨"bob"⟩ ⟨.bid, ⟨.btc, .usdt⟩, 30, 2, 4, 3⟩]
    let books := Desk.serve {} calls .empty
    let after := Desk.serve {} later books
    let ask : Order := ⟨1, .ask, ⟨.btc, .usdt⟩, 1, 2, 20, 5, 0, .completed⟩
    Commits .empty (Desk.fills {} calls .empty) books ∧ Commits books (Desk.fills {} later books) after ∧
      (Desk.fills {} calls .empty).map (·.resting.id) = [1] ∧ (Desk.fills {} later books).map (·.resting.id) = [2] ∧
      (books.trades.length, after.trades.length) = (1, 2) ∧ books.trades <+: after.trades ∧
      ask ∈ books.orders ∧ ask ∈ after.orders ∧ ¬after.Shows 1 := by
  intro calls later books after ask
  have served : ∀ call ∈ calls, call.Each Operation.Fair := by
    simp [calls, twoAsks, Call.Each, Operation.Fair]
  have servedLater : ∀ call ∈ later, call.Each Operation.Fair := by
    simp [later, Call.Each, Operation.Fair]
  have earlier := Desk.serve_commits {} served .empty
  have since := Desk.serve_commits {} servedLater books
  have filled : ask ∈ books.orders := by decide +kernel
  obtain ⟨⟨_, _, trades⟩, _, _, closed⟩ := earlier.history_monotone since
  obtain ⟨kept, _, hidden⟩ := closed ask filled (.inl rfl)
  exact ⟨earlier, since, by decide +kernel, by decide +kernel, by decide +kernel, trades, filled, kept,
    hidden false [] (List.forall_mem_nil _)⟩

end Rows

end Bourse
