import Bourse.Proofs.Floor
import Mathlib.Data.List.Perm.Subperm
import Mathlib.Data.Nat.Find
import Mathlib.Logic.Function.Iterate

namespace Bourse

namespace Matcher

/-- What a matcher asks of an order that it has listed: all that it still needs, or all that the order has. -/
abbrev quantity (matcher : Matcher) (resting : Order) : Int :=
  min (matcher.progress.openAmount matcher.ticket.amount) resting.remaining

abbrev attempt (matcher : Matcher) (resting : Order) : Scope Fill :=
  Scope.fill matcher.ticket resting (matcher.quantity resting)

abbrev nextPage (matcher : Matcher) (books : Books) : Except Failure (List Order) :=
  books.tradableBeyond matcher.ticket.pair matcher.ticket.price matcher.ticket.side.opposite matcher.cursor
    matcher.size

/-- A matcher that is alone, and the books, after its next scope. -/
def next (state : Matcher × Books) : Matcher × Books :=
  ((state.1.step state.2).1, (state.1.step state.2).2.2)

/-- All that one scope of a matcher can do. -/
inductive Round : Matcher × Books → Matcher × Books → Prop
  | idle {matcher books outcome} (ended : matcher.result = some outcome) : Round (matcher, books) (matcher, books)
  | refused {matcher books cause} (running : matcher.result = none) (done : matcher.page = [])
      (listed : matcher.nextPage books = .error cause) :
      Round (matcher, books) ({ matcher with result := some (.error ⟨matcher.progress, cause⟩) }, books)
  | exhausted {matcher books} (running : matcher.result = none) (done : matcher.page = [])
      (listed : matcher.nextPage books = .ok []) :
      Round (matcher, books) ({ matcher with result := some (.ok matcher.progress) }, books)
  | turned {matcher books first rest} (running : matcher.result = none) (done : matcher.page = [])
      (listed : matcher.nextPage books = .ok (first :: rest)) :
      Round (matcher, books) ({ matcher with page := first :: rest }, books)
  | failed {matcher books resting rest cause} (running : matcher.result = none)
      (trying : matcher.page = resting :: rest) (ran : matcher.attempt resting books = (.error cause, books)) :
      Round (matcher, books) ({ matcher with result := some (.error ⟨matcher.progress, cause⟩) }, books)
  | completed {matcher books resting rest fill after} (running : matcher.result = none)
      (trying : matcher.page = resting :: rest) (ran : matcher.attempt resting books = (.ok fill, after))
      (closed : (matcher.progress.add fill).openAmount matcher.ticket.amount = 0) :
      Round (matcher, books)
        ({ matcher with result := some (.ok { matcher.progress.add fill with status := .completed }) }, after)
  | filled {matcher books resting rest fill after} (running : matcher.result = none)
      (trying : matcher.page = resting :: rest) (ran : matcher.attempt resting books = (.ok fill, after))
      (open_ : (matcher.progress.add fill).openAmount matcher.ticket.amount ≠ 0) :
      Round (matcher, books)
        ({ matcher with cursor := some resting.id, page := rest, progress := matcher.progress.add fill }, after)

theorem round_next (state : Matcher × Books) : Round state (next state) := by
  obtain ⟨matcher, books⟩ := state
  unfold next
  cases running : matcher.result with
  | some outcome =>
    simp only [step, running]
    exact .idle running
  | none =>
    cases trying : matcher.page with
    | nil =>
      rw [step_turnPage running trying]
      unfold turnPage
      split
      next listed => exact .refused running trying listed
      next listed => exact .exhausted running trying listed
      next page some listed =>
        obtain ⟨first, rest, rfl⟩ := List.exists_cons_of_ne_nil some
        exact .turned running trying listed
    | cons resting rest =>
      rcases ran : matcher.attempt resting books with ⟨cause | fill, after⟩
      · rw [step_failed running trying ran]
        obtain rfl := Scope.fill_of_error ran
        exact .failed running trying ran
      · rw [step_filled running trying ran]
        by_cases closed : (matcher.progress.add fill).openAmount matcher.ticket.amount = 0
        · simp only [filled, if_pos closed]
          exact .completed running trying ran closed
        · simp only [filled, if_neg closed]
          exact .filled running trying ran closed

theorem next_of_ended {state : Matcher × Books} {outcome : Except Interruption Progress}
    (ended : state.1.result = some outcome) : next state = state := by
  unfold next step
  simp only [ended]

/-- The orders that are tried in a number of scopes, one after the other. -/
def tried : Nat → Matcher × Books → List Order
  | 0, _ => []
  | scopes + 1, state =>
    match state.1.result, state.1.page with
    | none, resting :: _ => resting :: tried scopes (next state)
    | _, _ => tried scopes (next state)

/-- How many of a number of scopes read a page. -/
def pagesRead : Nat → Matcher × Books → Nat
  | 0, _ => 0
  | scopes + 1, state =>
    match state.1.result, state.1.page with
    | none, [] => pagesRead scopes (next state) + 1
    | _, _ => pagesRead scopes (next state)

section Counts

variable {state : Matcher × Books}

theorem tried_trying {resting : Order} {rest : List Order} (running : state.1.result = none)
    (trying : state.1.page = resting :: rest) (scopes : Nat) :
    tried (scopes + 1) state = resting :: tried scopes (next state) ∧
      pagesRead (scopes + 1) state = pagesRead scopes (next state) := by
  simp only [tried, pagesRead, running, trying, and_self]

theorem tried_reading (running : state.1.result = none) (done : state.1.page = []) (scopes : Nat) :
    tried (scopes + 1) state = tried scopes (next state) ∧
      pagesRead (scopes + 1) state = pagesRead scopes (next state) + 1 := by
  simp only [tried, pagesRead, running, done, and_self]

theorem tried_ended {outcome : Except Interruption Progress} (ended : state.1.result = some outcome) (scopes : Nat) :
    tried scopes state = [] ∧ pagesRead scopes state = 0 := by
  induction scopes with
  | zero => exact ⟨rfl, rfl⟩
  | succ scopes ih =>
    rw [tried, pagesRead, ended, next_of_ended ended]
    exact ih

end Counts

section Order

variable {before after : Matcher × Books}

theorem attempt_orderIds {matcher : Matcher} {resting : Order} {books left : Books} {fill : Fill}
    (ran : matcher.attempt resting books = (.ok fill, left)) : left.orderIds = books.orderIds := by
  have kept : (matcher.attempt resting books).2.orderIds = books.orderIds := Scope.fill_keeps_orderIds ..
  rwa [ran] at kept

theorem Round.orderIds (round : Round before after) : after.2.orderIds = before.2.orderIds := by
  cases round with
  | completed _ _ ran => exact attempt_orderIds ran
  | filled _ _ ran => exact attempt_orderIds ran
  | _ => rfl

/-- Once a page is read it is tried from its first order on, if it has any. -/
theorem Round.of_reading (round : Round before after) (running : before.1.result = none) (done : before.1.page = []) :
    (∃ outcome, after.1.result = some outcome) ∨ after.1.cursor = before.1.cursor ∧ after.1.page ≠ [] := by
  cases round with
  | idle ended => cases running.symm.trans ended
  | refused => exact .inl ⟨_, rfl⟩
  | exhausted => exact .inl ⟨_, rfl⟩
  | turned => exact .inr ⟨rfl, List.cons_ne_nil _ _⟩
  | failed _ trying => cases done.symm.trans trying
  | completed _ trying => cases done.symm.trans trying
  | filled _ trying => cases done.symm.trans trying

/-- The cursor moves on to each order that is tried, unless that is the last. -/
theorem Round.of_trying (round : Round before after) {resting : Order} {rest : List Order}
    (running : before.1.result = none) (trying : before.1.page = resting :: rest) :
    (∃ outcome, after.1.result = some outcome) ∨ after.1.cursor = some resting.id := by
  cases round with
  | idle ended => cases running.symm.trans ended
  | refused _ done => cases done.symm.trans trying
  | exhausted _ done => cases done.symm.trans trying
  | turned _ done => cases done.symm.trans trying
  | failed => exact .inl ⟨_, rfl⟩
  | completed => exact .inl ⟨_, rfl⟩
  | filled _ listed =>
    cases trying.symm.trans listed
    exact .inr rfl

theorem Round.of_failed (round : Round before after) {resting : Order} {rest : List Order} {cause : Failure}
    (running : before.1.result = none) (trying : before.1.page = resting :: rest)
    (failed : (before.1.attempt resting before.2).1 = .error cause) :
    after.1.result = some (.error ⟨before.1.progress, cause⟩) := by
  cases round with
  | idle ended => cases running.symm.trans ended
  | refused _ done => cases done.symm.trans trying
  | exhausted _ done => cases done.symm.trans trying
  | turned _ done => cases done.symm.trans trying
  | failed _ listed ran =>
    cases trying.symm.trans listed
    rw [ran] at failed
    cases failed
    rfl
  | completed _ listed ran =>
    cases trying.symm.trans listed
    rw [ran] at failed
    cases failed
  | filled _ listed ran =>
    cases trying.symm.trans listed
    rw [ran] at failed
    cases failed

/-- The orders on the page ascend, and all of them are beyond the cursor. -/
structure InOrder (state : Matcher × Books) : Prop where
  ids : state.2.orderIds.Pairwise (· < ·)
  page : state.1.page.Pairwise (·.id < ·.id)
  beyond : ∀ order ∈ state.1.page, order.id ∈ state.2.idsBeyond state.1.cursor

theorem Round.inOrder (round : Round before after) (ordered : InOrder before) : InOrder after := by
  have ids := round.orderIds ▸ ordered.ids
  cases round with
  | @turned matcher books first rest running done listed =>
    have rows : books.orders.Pairwise (·.id < ·.id) := List.pairwise_map.mp ids
    refine ⟨ids, ?_, fun order => Books.mem_idsBeyond_of_tradableBeyond listed⟩
    show (first :: rest).Pairwise (·.id < ·.id)
    rw [(Books.tradableBeyond_ok listed).2]
    exact rows.sublist ((List.take_sublist _ _).trans (List.filter_sublist.trans List.filter_sublist))
  | @completed matcher books resting rest fill left running trying ran closed =>
    refine ⟨ids, ordered.page, fun order member => ?_⟩
    rw [Books.idsBeyond, attempt_orderIds ran]
    exact ordered.beyond order member
  | @filled matcher books resting rest fill left running trying ran open_ =>
    have page := ordered.page
    have beyond := ordered.beyond
    simp only [trying] at page beyond
    obtain ⟨later, rest⟩ := List.pairwise_cons.mp page
    refine ⟨ids, rest, fun order member => ?_⟩
    have present := (List.mem_filter.mp (beyond order (List.mem_cons_of_mem _ member))).1
    rw [Books.idsBeyond, attempt_orderIds ran]
    exact List.mem_filter.mpr ⟨present, decide_eq_true (later order member)⟩
  | _ => exact ⟨ids, ordered.page, ordered.beyond⟩

theorem mem_idsBeyond_of_later {books : Books} {cursor : Option OrderId} {id later : OrderId}
    (behind : id ∈ books.idsBeyond cursor) (member : later ∈ books.idsBeyond (some id)) :
    later ∈ books.idsBeyond cursor ∧ id < later := by
  have past : cursor.getD 0 < id := by simpa using (List.mem_filter.mp behind).2
  have further : id < later := by simpa using (List.mem_filter.mp member).2
  exact ⟨List.mem_filter.mpr ⟨(List.mem_filter.mp member).1, decide_eq_true (Int.lt_trans past further)⟩, further⟩

/-- Each order that is tried is beyond those that were tried before it. -/
theorem InOrder.tried {state : Matcher × Books} (ordered : InOrder state) (scopes : Nat) :
    (tried scopes state).Pairwise (·.id < ·.id) ∧
      ∀ order ∈ tried scopes state, order.id ∈ state.2.idsBeyond state.1.cursor := by
  induction scopes generalizing state with
  | zero => exact ⟨.nil, List.forall_mem_nil _⟩
  | succ scopes ih =>
    have round := round_next state
    obtain ⟨ascending, beyond⟩ := ih (round.inOrder ordered)
    have kept (cursor : Option OrderId) : (next state).2.idsBeyond cursor = state.2.idsBeyond cursor := by
      rw [Books.idsBeyond, round.orderIds, Books.idsBeyond]
    match running : state.1.result, listed : state.1.page with
    | some outcome, _ =>
      rw [(tried_ended running _).1]
      exact ⟨.nil, List.forall_mem_nil _⟩
    | none, [] =>
      rw [(tried_reading running listed scopes).1]
      rcases round.of_reading running listed with ⟨outcome, ended⟩ | ⟨cursor, _⟩
      · rw [(tried_ended ended _).1]
        exact ⟨.nil, List.forall_mem_nil _⟩
      · rw [kept, cursor] at beyond
        exact ⟨ascending, beyond⟩
    | none, resting :: rest =>
      have own : resting.id ∈ state.2.idsBeyond state.1.cursor :=
        ordered.beyond resting (listed ▸ List.mem_cons_self)
      rw [(tried_trying running listed scopes).1]
      rcases round.of_trying running listed with ⟨outcome, ended⟩ | cursor
      · rw [(tried_ended ended _).1]
        exact ⟨List.pairwise_singleton _ _, List.forall_mem_singleton.mpr own⟩
      · rw [kept, cursor] at beyond
        refine ⟨List.pairwise_cons.mpr ⟨fun order member => ?_, ascending⟩, List.forall_mem_cons.mpr ⟨own, ?_⟩⟩
        · exact (mem_idsBeyond_of_later own (beyond order member)).2
        · exact fun order member => (mem_idsBeyond_of_later own (beyond order member)).1

/-- A page that is not empty is tried before the next one is read. -/
theorem pagesRead_le (scopes : Nat) (state : Matcher × Books) :
    pagesRead scopes state ≤ (tried scopes state).length + 1 ∧
      (state.1.page ≠ [] → pagesRead scopes state ≤ (tried scopes state).length) := by
  induction scopes generalizing state with
  | zero => exact ⟨Nat.zero_le _, fun _ => Nat.le_refl 0⟩
  | succ scopes ih =>
    have round := round_next state
    obtain ⟨more, exact_⟩ := ih (next state)
    match running : state.1.result, listed : state.1.page with
    | some outcome, _ =>
      rw [(tried_ended running _).2]
      exact ⟨Nat.zero_le _, fun _ => Nat.zero_le _⟩
    | none, [] =>
      obtain ⟨same, read⟩ := tried_reading running listed scopes
      rw [same, read]
      refine ⟨Nat.succ_le_succ ?_, fun some => absurd rfl some⟩
      rcases round.of_reading running listed with ⟨outcome, ended⟩ | ⟨_, some⟩
      · rw [(tried_ended ended _).2]
        exact Nat.zero_le _
      · exact exact_ some
    | none, resting :: rest =>
      obtain ⟨longer, same⟩ := tried_trying running listed scopes
      rw [longer, same, List.length_cons]
      exact ⟨Nat.le_succ_of_le more, fun _ => more⟩

end Order

section Ending

variable {state last : Matcher × Books}

theorem Alone.iterate_next (alone : Alone state last) : ∃ scopes, next^[scopes] state = last := by
  induction alone with
  | refl => exact ⟨0, rfl⟩
  | @tail middle after _ stepped ih =>
    obtain ⟨scopes, rfl⟩ := ih
    exact ⟨scopes + 1, by rw [Function.iterate_succ_apply', stepped]; rfl⟩

/-- A matcher that has come to its end stays there. -/
theorem iterate_next_of_ended {scopes : Nat} {outcome : Except Interruption Progress}
    (ended : (next^[scopes] state).1.result = some outcome) {later : Nat} (after : scopes ≤ later) :
    next^[later] state = next^[scopes] state := by
  obtain ⟨more, rfl⟩ := Nat.exists_eq_add_of_le after
  rw [Nat.add_comm, Function.iterate_add_apply]
  exact Function.iterate_fixed (next_of_ended ended) more

/-- Until it ends, each scope of a matcher tries an order or reads a page. -/
theorem scopes_eq {scopes : Nat} (running : ∀ k < scopes, (next^[k] state).1.result = none) :
    scopes = (tried scopes state).length + pagesRead scopes state := by
  induction scopes generalizing state with
  | zero => rfl
  | succ scopes ih =>
    have rest := @ih (next state) fun k earlier => running (k + 1) (Nat.succ_lt_succ earlier)
    have first : state.1.result = none := running 0 (Nat.succ_pos scopes)
    match listed : state.1.page with
    | [] =>
      obtain ⟨same, read⟩ := tried_reading first listed scopes
      rw [same, read]
      omega
    | resting :: _ =>
      obtain ⟨longer, same⟩ := tried_trying first listed scopes
      rw [longer, same, List.length_cons]
      omega

/-- The scope in which matching ends is the first with a result, and it is reached. -/
theorem ends (ticket : Ticket) (size : Nat) (books : Books) :
    ∃ scopes, (∀ k < scopes, (next^[k] ({ ticket, size }, books)).1.result = none) ∧
      ∀ k ≥ scopes, (next^[k] ({ ticket, size }, books)).1.result = some (matchTicket ticket size books).1 ∧
        (next^[k] ({ ticket, size }, books)).2 = (matchTicket ticket size books).2 := by
  classical
  obtain ⟨last, alone, result⟩ := alone_matchTicket ticket size books
  obtain ⟨reached, same⟩ := alone.iterate_next
  have finished : (next^[reached] ({ ticket, size }, books)).1.result.isSome := by rw [same, result]; rfl
  have ever : ∃ k, (next^[k] ({ ticket, size }, books)).1.result.isSome := ⟨reached, finished⟩
  obtain ⟨outcome, ended⟩ := Option.isSome_iff_exists.mp (Nat.find_spec ever)
  have settled : next^[reached] ({ ticket, size }, books) = next^[Nat.find ever] ({ ticket, size }, books) :=
    iterate_next_of_ended ended (Nat.find_min' ever finished)
  refine ⟨Nat.find ever, fun k earlier => ?_, fun k later => ?_⟩
  · simpa using Nat.find_min ever earlier
  · rw [iterate_next_of_ended ended later, ← settled, same]
    exact ⟨result, rfl⟩

/-- While matching goes on, the cursor follows the order that is tried, and an attempt that fails is the last. -/
theorem attempt_at_iterate {scopes : Nat} {outcome : Except Interruption Progress}
    (running : ∀ k < scopes, (next^[k] state).1.result = none)
    (ended : ∀ k ≥ scopes, (next^[k] state).1.result = some outcome) {k : Nat} {resting : Order} {rest : List Order}
    (goesOn : (next^[k] state).1.result = none) (listed : (next^[k] state).1.page = resting :: rest) :
    (k + 1 < scopes → (next^[k + 1] state).1.cursor = some resting.id) ∧
      ∀ cause, ((next^[k] state).1.attempt resting (next^[k] state).2).1 = .error cause →
        k + 1 = scopes ∧ outcome = .error ⟨(next^[k] state).1.progress, cause⟩ := by
  have round := round_next (next^[k] state)
  rw [← Function.iterate_succ_apply' next] at round
  have within : k < scopes := by
    by_contra later
    cases goesOn.symm.trans (ended k (Nat.le_of_not_lt later))
  refine ⟨fun further => ?cursor, fun cause failed => ?last⟩
  case cursor =>
    refine (round.of_trying goesOn listed).resolve_left ?_
    rintro ⟨outcome, early⟩
    cases (running _ further).symm.trans early
  case last =>
    have stopped := round.of_failed goesOn listed failed
    have last : scopes ≤ k + 1 := by
      by_contra further
      cases (running _ (Nat.lt_of_not_le further)).symm.trans stopped
    exact ⟨Nat.le_antisymm within last, Option.some.inj ((ended _ last).symm.trans stopped)⟩

end Ending

/-- Rows with different ids are no more than the rows of the table. -/
theorem length_le_orders {books : Books} {rows : List Order} (ascending : rows.Pairwise (·.id < ·.id))
    (known : ∀ order ∈ rows, order.id ∈ books.orderIds) : rows.length ≤ books.orders.length := by
  have distinct : (rows.map (·.id)).Nodup := (List.pairwise_map.mpr ascending).imp Int.ne_of_lt
  have among : rows.map (·.id) ⊆ books.orderIds := by
    intro id member
    obtain ⟨order, present, rfl⟩ := List.mem_map.mp member
    exact known order present
  have bound := (List.subperm_of_subset distinct among).length_le
  unfold Books.orderIds at bound
  rwa [List.length_map, List.length_map] at bound

theorem inOrder_iterate {state : Matcher × Books} (ordered : InOrder state) (scopes : Nat) :
    InOrder (next^[scopes] state) := by
  induction scopes generalizing state with
  | zero => exact ordered
  | succ scopes ih => exact ih ((round_next state).inOrder ordered)

end Matcher

open Matcher in
/-- Matching comes to an end, whatever competing writers make of the orders meanwhile. Each order that it tries has a
greater id than the one before, to which the cursor was set, so that no order is tried twice. In each scope it tries an
order or reads a page, and only the last page may have no order to try. The first fill that fails ends it. -/
theorem matchTicket_ends_in_order (ticket : Ticket) (size : Nat) {books : Books}
    (ascending : books.orders.Pairwise (·.id < ·.id)) :
    let start : Matcher × Books := ({ ticket, size }, books)
    ∃ scopes,
      (∀ k < scopes, (next^[k] start).1.result = none) ∧
      (∀ k ≥ scopes, (next^[k] start).1.result = some (matchTicket ticket size books).1 ∧
        (next^[k] start).2 = (matchTicket ticket size books).2) ∧
      scopes = (tried scopes start).length + pagesRead scopes start ∧
      (tried scopes start).Pairwise (·.id < ·.id) ∧
      (∀ order ∈ tried scopes start, order.id ∈ books.orderIds) ∧
      (tried scopes start).length ≤ books.orders.length ∧
      pagesRead scopes start ≤ (tried scopes start).length + 1 ∧
      pagesRead scopes start ≤ books.orders.length + 1 ∧
      ∀ k resting rest, (next^[k] start).1.result = none → (next^[k] start).1.page = resting :: rest →
        (next^[k] start).1.cursor.getD 0 < resting.id ∧
        (k + 1 < scopes → (next^[k + 1] start).1.cursor = some resting.id) ∧
        ∀ cause, ((next^[k] start).1.attempt resting (next^[k] start).2).1 = .error cause →
          k + 1 = scopes ∧ (matchTicket ticket size books).1 = .error ⟨(next^[k] start).1.progress, cause⟩ := by
  intro start
  have ordered : InOrder start := ⟨List.pairwise_map.mpr ascending, .nil, List.forall_mem_nil _⟩
  obtain ⟨scopes, running, ended⟩ := Matcher.ends ticket size books
  obtain ⟨distinct, beyond⟩ := ordered.tried scopes
  have known : ∀ order ∈ tried scopes start, order.id ∈ books.orderIds :=
    fun order member => (List.mem_filter.mp (beyond order member)).1
  have bound := length_le_orders distinct known
  have pages := (pagesRead_le scopes start).1
  refine ⟨scopes, running, ended, scopes_eq running, distinct, known, bound, pages,
    Nat.le_trans pages (Nat.succ_le_succ bound), fun k resting rest goesOn listed => ?_⟩
  have member := (inOrder_iterate ordered k).beyond resting (listed ▸ List.mem_cons_self)
  have ahead : (next^[k] start).1.cursor.getD 0 < resting.id := by simpa using (List.mem_filter.mp member).2
  exact ⟨ahead, attempt_at_iterate running (fun k later => (ended k later).1) goesOn listed⟩

open Matcher in
/-- As soon as the first ask is filled, a competing writer revives the third, and as soon as the second is filled,
another revives the first. The third is still ahead and is tried, the first is not tried again. -/
theorem matchTicket_ends_despite_revival :
    let order (id price remaining : Int) (status : Status) : Order :=
      ⟨id, .ask, ⟨.btc, .usdt⟩, 1, 2, price, 5, remaining, status⟩
    let books : Books :=
      { accounts := [⟨1, "ann", 15, .btc⟩, ⟨2, "ann", 0, .usdt⟩, ⟨3, "bob", 0, .btc⟩, ⟨4, "bob", 1000, .usdt⟩]
        orders := [order 1 20 5 .active, order 2 30 5 .active, order 3 25 0 .completed]
        faults := { races := [⟨2, 1, 5, .active⟩, ⟨1, 3, 5, .active⟩] } }
    let ticket : Ticket := ⟨.bid, ⟨.btc, .usdt⟩, 30, 100, 4, 3⟩
    let start : Matcher × Books := ({ ticket, size := 1 }, books)
    books.orders.Pairwise (·.id < ·.id) ∧
      (next^[7] start).1.result = some (matchTicket ticket 1 books).1 ∧
      (next^[7] start).2 = (matchTicket ticket 1 books).2 ∧
      (tried 7 start).map (·.id) = [1, 2, 3] ∧ pagesRead 7 start = 4 ∧
      (matchTicket ticket 1 books).2.orders =
        [order 1 20 5 .active, order 2 30 0 .completed, order 3 25 0 .completed] := by
  intro order books ticket start
  have ascending : books.orders.Pairwise (·.id < ·.id) := by decide
  obtain ⟨scopes, early, late, _⟩ := matchTicket_ends_in_order ticket 1 ascending
  have running : ∀ k < scopes, (next^[k] start).1.result = none := early
  have ended : ∀ k ≥ scopes, (next^[k] start).1.result = some (matchTicket ticket 1 books).1 ∧
      (next^[k] start).2 = (matchTicket ticket 1 books).2 := late
  have last : (next^[7] start).1.result.isSome := by decide +kernel
  have reached : scopes ≤ 7 := by
    by_contra further
    exact Option.isSome_iff_ne_none.mp last (running 7 (Nat.lt_of_not_le further))
  obtain ⟨result, same⟩ := ended 7 reached
  refine ⟨ascending, result, same, by decide +kernel, by decide +kernel, ?_⟩
  rw [← same]
  decide +kernel

end Bourse
