import Bourse.Proofs.Matched
import Bourse.Proofs.WellFormed

namespace Bourse

open Scope

/-- An operation that calls up no competing writer. -/
def Operation.Fair : Operation → Prop
  | race _ => False
  | _ => True

namespace Call

/-- A call all of whose operations on the tables are of a kind. What desks do of their own accord counts
as none. -/
def Each (kind : Operation → Prop) : Call → Prop
  | perform operation => kind operation
  | batch operations _ _ => ∀ operation ∈ operations, kind operation
  | _ => True

theorem Each.imp {kind other : Operation → Prop} {call : Call} (each : call.Each kind)
    (wider : ∀ {operation}, kind operation → other operation) : call.Each other := by
  cases call with
  | perform operation => exact wider each
  | batch operations _ _ => exact fun operation member => wider (each operation member)
  | _ => trivial

/-- A call that does not go on in a scope in which an operation failed. -/
def Strict : Call → Prop
  | batch _ tolerant _ => tolerant = false
  | _ => True

end Call

/-- The books that calls of an allowed kind, in any number and at any desks, can lead to. -/
inductive Reach (allowed : Desk → Call → Prop) (start : Books) : Books → Prop
  | start : Reach allowed start start
  | next {books} (earlier : Reach allowed start books) {desk : Desk} {call : Call} (made : allowed desk call) :
      Reach allowed start (call.run desk books).2

/-- The books after some calls at one desk. -/
def Desk.serve (desk : Desk) (calls : List Call) (books : Books) : Books :=
  calls.foldl (fun books call => (call.run desk books).2) books

theorem Reach.serve {allowed : Desk → Call → Prop} {start books : Books} (reach : Reach allowed start books)
    {desk : Desk} {calls : List Call} (made : ∀ call ∈ calls, allowed desk call) :
    Reach allowed start (desk.serve calls books) := by
  induction calls generalizing books with
  | nil => exact reach
  | cons call rest ih =>
    exact ih (reach.next (made call List.mem_cons_self)) fun other member =>
      made other (List.mem_cons_of_mem _ member)

/-- Two traders with an account in either currency each, and two asks of the first that the second could take. -/
def twoAsks : List Call :=
  [.perform (.openAccount "ann" .btc), .perform (.openAccount "ann" .usdt),
    .perform (.openAccount "bob" .btc), .perform (.openAccount "bob" .usdt),
    .perform (.deposit 1 10), .perform (.deposit 4 100),
    .submit ⟨"ann"⟩ ⟨.ask, ⟨.btc, .usdt⟩, 20, 5, 1, 2⟩, .submit ⟨"ann"⟩ ⟨.ask, ⟨.btc, .usdt⟩, 30, 5, 1, 2⟩]

section Preservation

variable {holds : Books → Prop}

/-- What a settlement keeps if its parts do. -/
theorem Scope.settle_secures {first second : Leg} (trades : Secures holds (postTrade first second))
    (transfers : ∀ payer payee amount, Secures holds (transfer payer payee amount)) :
    Secures holds (settle first second) := by
  have checks (amount : Int) : Secures holds (positive amount) := by
    have kept : Keeps (fun books => books) (positive amount) := positive_keeps amount
    exact kept.secures fun same held => same ▸ held
  exact (checks _).bind fun _ => (checks _).bind fun _ => trades.bind fun _ => (transfers _ _ _).bind fun _ =>
    (transfers _ _ _).bind fun _ => secures_pure _

/-- What a fill keeps if its settlement and its entry in the order do. -/
theorem Scope.fill_secures (settles : ∀ first second, Secures holds (settle first second))
    (records : ∀ id expected remaining status, Secures holds (recordFill id expected remaining status))
    (ticket : Ticket) (resting : Order) (quantity : Int) : Secures holds (fill ticket resting quantity) := by
  unfold fill
  split
  · exact secures_fail _
  · intro books filled after held ran
    exact ((settles _ _).bind fun _ => (secures_ofExcept _).bind fun _ => (records _ _ _ _).bind fun _ =>
      secures_pure _) held (atomic_eq_ok.mp ran)

theorem Filled.preserves {ticket : Ticket} {start books : Books} {progress : Progress}
    (fills : ∀ resting quantity, Secures holds (fill ticket resting quantity))
    (filled : Filled ticket start progress books) (held : holds start) : holds books := by
  induction filled with
  | none => exact held
  | next _ _ _ ran ih => exact fills _ _ ih ran

/-- What no fill undoes holds after matching, wherever it ends. -/
theorem Matched.preserves {ticket : Ticket} {start : Books} {outcome : Except Interruption Progress × Books}
    (fills : ∀ resting quantity, Secures holds (fill ticket resting quantity))
    (matched : Matched ticket start outcome) (held : holds start) : holds outcome.2 := by
  cases matched with
  | exhausted filled _ => exact filled.preserves fills held
  | completed filled _ _ => exact filled.preserves fills held
  | refused filled _ _ => exact filled.preserves fills held
  | stopped filled _ _ _ => exact filled.preserves fills held

theorem Scope.placeOrder_maintains {ticket : Ticket} {filled : Int}
    (stores : Secures holds (storeOrder ticket filled)) : Maintains holds (placeOrder ticket filled) := by
  intro books held
  unfold placeOrder
  split
  next ran => exact stores held ran
  next ran =>
    obtain ⟨_, rfl⟩ := atomic_eq_error.mp ran
    exact held

namespace Desk

theorem take_preserves (desk : Desk) {ticket : Ticket}
    (fills : ∀ resting quantity, Secures holds (fill ticket resting quantity))
    (stores : ∀ filled, Secures holds (storeOrder ticket filled)) {books : Books} (held : holds books) :
    holds (desk.take ticket books).books := by
  have matched := (matchTicket_matched ticket desk.pageSize books).preserves fills held
  unfold take
  split
  next progress middle ran =>
    rw [ran] at matched
    have placed := placeOrder_maintains (stores progress.traded) matched
    split
    next put => rwa [put] at placed
    next put => rwa [put] at placed
  next progress cause middle ran =>
    rw [ran] at matched
    have placed := placeOrder_maintains (stores progress.traded) matched
    split
    · exact matched
    · split
      next put => rwa [put] at placed
      next put => rwa [put] at placed

theorem submit_preserves (desk : Desk) (principal : Principal) {ticket : Ticket}
    (fills : ∀ resting quantity, Secures holds (fill ticket resting quantity))
    (stores : ∀ filled, Secures holds (storeOrder ticket filled)) {books : Books} (held : holds books) :
    holds (desk.submit principal ticket books).books := by
  unfold submit
  split
  · exact held
  · exact desk.take_preserves fills stores held

theorem cancel_preserves (desk : Desk) (principal : Principal) (id : OrderId)
    (cancels : ∀ id, Secures holds (cancelOrder id)) {books : Books} (held : holds books) :
    holds (desk.cancel principal id books).books := by
  unfold cancel
  split
  · exact held
  next order _ =>
    have canceled := (cancels order.id).atomic held
    split
    next ran => rwa [ran] at canceled
    next ran => rwa [ran] at canceled

end Desk

namespace Batch

/-- A scope that comes to its end keeps what its operations keep; those that may fail in it without ending it
have to keep it also then. -/
theorem run_preserves {tolerant : Bool} {operations : List Operation} {books : Books}
    (each : ∀ operation ∈ operations, Secures holds operation.perform)
    (tolerated : tolerant = true → ∀ operation ∈ operations, Maintains holds operation.perform)
    (ended : (run tolerant operations books).failure = none) (held : holds books) :
    holds (run tolerant operations books).books := by
  induction operations generalizing books with
  | nil => exact held
  | cons operation rest ih =>
    have later {middle : Books} (ended : (run tolerant rest middle).failure = none) (held : holds middle) :=
      ih (fun other member => each other (List.mem_cons_of_mem _ member))
        (fun goesOn other member => tolerated goesOn other (List.mem_cons_of_mem _ member)) ended held
    unfold run at ended ⊢
    split at ended
    next ran => exact later ended (each operation List.mem_cons_self held ran)
    next ran =>
      split at ended
      next goesOn =>
        have kept := tolerated goesOn operation List.mem_cons_self held
        rw [ran] at kept
        simpa only [if_pos goesOn] using later ended kept
      next => cases ended

/-- What every operation keeps however it ends holds at any point of a scope, also where a failure ends it. -/
theorem run_maintains {tolerant : Bool} {operations : List Operation} {books : Books}
    (each : ∀ operation ∈ operations, Maintains holds operation.perform) (held : holds books) :
    holds (run tolerant operations books).books := by
  induction operations generalizing books with
  | nil => exact held
  | cons operation rest ih =>
    have kept := each operation List.mem_cons_self held
    have later {middle : Books} (held : holds middle) : holds (run tolerant rest middle).books :=
      ih (fun other member => each other (List.mem_cons_of_mem _ member)) held
    unfold run
    split
    next ran =>
      rw [ran] at kept
      exact later kept
    next ran =>
      rw [ran] at kept
      split
      · exact later kept
      · exact kept

theorem commit_preserves {tolerant : Bool} {abort : Option String} {operations : List Operation} {books : Books}
    (each : ∀ operation ∈ operations, Secures holds operation.perform)
    (tolerated : tolerant = true → ∀ operation ∈ operations, Maintains holds operation.perform)
    (held : holds books) : holds (commit tolerant abort operations books).books := by
  dsimp only [commit]
  cases ended : (run tolerant operations books).failure with
  | some failure => exact held
  | none =>
    cases abort with
    | some text => exact held
    | none => exact run_preserves each tolerated ended held

theorem commit_keeps {γ : Type} {part : Books → γ} {operations : List Operation}
    (each : ∀ operation ∈ operations, Keeps part operation.perform) (tolerant : Bool) (abort : Option String)
    (books : Books) : part (commit tolerant abort operations books).books = part books := by
  have same {operation : Operation} (member : operation ∈ operations) :
      Maintains (fun after => part after = part books) operation.perform :=
    fun middle held => (each operation member middle).trans held
  exact commit_preserves (fun _ member => (same member).secures) (fun _ _ member => same member) rfl

end Batch

/-- An operation that is asked for alone succeeds with what it has written, or fails and leaves nothing behind. -/
theorem Call.run_perform (desk : Desk) (operation : Operation) (books : Books) :
    (∃ answer after, operation.perform books = (.ok answer, after) ∧
      (perform operation).run desk books = (.answer (.ok answer), after)) ∨
    ∃ failure, (perform operation).run desk books = (.answer (.error failure), books) := by
  match ran : operation.perform.atomic books with
  | (.ok answer, after) =>
    refine .inl ⟨answer, after, atomic_eq_ok.mp ran, ?_⟩
    simp only [run, ran]
  | (.error failure, after) =>
    obtain ⟨_, rfl⟩ := atomic_eq_error.mp ran
    refine .inr ⟨failure, ?_⟩
    simp only [run, ran]

/-- What single scopes keep, calls keep. -/
theorem Call.run_preserves (desk : Desk) {call : Call}
    (fills : ∀ ticket resting quantity, Secures holds (fill ticket resting quantity))
    (stores : ∀ ticket filled, Secures holds (storeOrder ticket filled))
    (cancels : ∀ id, Secures holds (cancelOrder id))
    (each : call.Each fun operation => Secures holds operation.perform)
    (tolerated : call.Strict ∨ call.Each fun operation => Maintains holds operation.perform) {books : Books}
    (held : holds books) : holds (call.run desk books).2 := by
  cases call with
  | submit principal ticket => exact desk.submit_preserves principal (fills ticket) (stores ticket) held
  | cancel principal id => exact desk.cancel_preserves principal id cancels held
  | lookUp => exact held
  | matchTicket ticket size => exact (matchTicket_matched ticket size books).preserves (fills ticket) held
  | perform operation => exact Secures.atomic each held
  | batch operations tolerant abort =>
    refine Batch.commit_preserves each (fun goesOn => ?_) held
    rcases tolerated with strict | maintained
    · exact absurd (goesOn.symm.trans strict) nofun
    · exact maintained

end Preservation

variable {raced : Prop}

theorem Scope.changeFaults_makes {change : Faults → Faults}
    (tame : ∀ faults, raced ∨ faults.races = [] → raced ∨ (change faults).races = []) :
    Makes raced (changeFaults change) :=
  fun _ quiet => .single (.faults (tame _ quiet))

theorem Operation.perform_makes (operation : Operation) (fair : raced ∨ operation.Fair) :
    Makes raced operation.perform := by
  cases operation with
  | openAccount => exact (openAccount_makes _ _).map _
  | credit => exact (credit_makes _ _).map _
  | debit => exact (debit_makes _ _).map _
  | deposit => exact (deposit_makes _ _).map _
  | transfer => exact (transfer_makes _ _ _).map _
  | settle => exact (settle_makes _ _).map _
  | addOrder => exact (addOrder_makes _).map _
  | cancelOrder => exact (cancelOrder_makes _).map _
  | recordFill => exact (recordFill_makes _ _ _ _).map _
  | postTransfer => exact (postTransfer_makes _).map _
  | postEntry => exact (postEntry_makes _ _).map _
  | postTrade => exact (postTrade_makes _ _).map _
  | race => exact (changeFaults_makes fun _ _ => .inl (fair.resolve_right id)).map _
  | refuseOrders =>
    refine Makes.map (changeFaults_makes fun _ quiet => ?_) _
    exact quiet
  | ignoreUpdates =>
    refine Makes.map (changeFaults_makes fun _ quiet => ?_) _
    exact quiet
  | clearFaults => exact (changeFaults_makes fun _ _ => .inr rfl).map _
  | account => exact Makes.map (keeps_read _).makes _
  | order => exact Makes.map (keeps_read _).makes _
  | reconcile =>
    exact Makes.map ((keeps_read _).makes.bind fun _ => (keeps_read _).makes.bind fun _ =>
      (keeps_pure _).makes) _
  | _ => exact (keeps_read _).makes

/-- All that is done in a scope is done in writes, also where failures do not end it. -/
theorem Batch.run_makes {operations : List Operation} (fair : raced ∨ ∀ operation ∈ operations, operation.Fair)
    (tolerant : Bool) {books : Books} (quiet : books.Quiet raced) :
    Writes raced books (run tolerant operations books).books := by
  have each : ∀ operation ∈ operations, Maintains (Writes raced books) operation.perform :=
    fun operation member _ begun =>
      begun.trans (operation.perform_makes (fair.imp_right fun all => all operation member) (begun.quiet quiet))
  exact run_maintains each .refl

/-- All that a call does to the books is done in writes. -/
theorem Call.run_writes (desk : Desk) {call : Call} (fair : raced ∨ call.Each Operation.Fair) {books : Books}
    (quiet : books.Quiet raced) : Writes raced books (call.run desk books).2 := by
  have maintained {α : Type} {work : Scope α} (made : Makes raced work) : Maintains (Writes raced books) work :=
    fun _ begun => begun.trans (made (begun.quiet quiet))
  have performed : call.Each fun operation => Maintains (Writes raced books) operation.perform := by
    cases call with
    | perform operation => exact maintained (operation.perform_makes fair)
    | batch operations _ _ =>
      intro operation member
      exact maintained (operation.perform_makes (fair.imp_right fun all => all operation member))
    | _ => trivial
  refine run_preserves desk (fun _ _ _ => (maintained (fill_makes _ _ _)).secures)
    (fun _ _ => (maintained (storeOrder_makes _ _)).secures)
    (fun _ => (maintained (cancelOrder_makes _)).secures) ?_ (.inr performed) .refl
  cases call with
  | perform => exact performed.secures
  | batch => exact fun operation member => (performed operation member).secures
  | _ => trivial

theorem Reach.writes {allowed : Desk → Call → Prop} {start books : Books} (reach : Reach allowed start books)
    (fair : ∀ {desk call}, allowed desk call → raced ∨ call.Each Operation.Fair) (quiet : start.Quiet raced) :
    Writes raced start books := by
  induction reach with
  | start => exact .refl
  | next _ made ih => exact ih.trans (Call.run_writes _ (fair made) (ih.quiet quiet))

/-- The tables are well-formed in all books that any calls lead to, with or without competing writers. -/
theorem Reach.wellFormed {allowed : Desk → Call → Prop} {books : Books} (reach : Reach allowed .empty books) :
    books.WellFormed := by
  have writes : Writes True .empty books := reach.writes (fun _ => .inl trivial) (.inl trivial)
  exact writes.wellFormed Books.wellFormed_empty

/-- Books as the work in a scope finds them: what calls have led to, and what was written in the scope before, also by
operations that failed in it and did not end it. -/
inductive Books.Visible : Books → Prop
  | inScope {books} (reach : Reach (fun _ _ => True) .empty books) (tolerant : Bool) (operations : List Operation) :
      Visible (Batch.run tolerant operations books).books

/-- A scope that has just been opened shows the books as they are between the calls. -/
theorem Reach.visible {books : Books} (reach : Reach (fun _ _ => True) .empty books) : books.Visible :=
  .inScope reach true []

theorem Books.Visible.wellFormed {books : Books} (visible : books.Visible) : books.WellFormed := by
  cases visible with
  | @inScope committed reach tolerant operations =>
    have written : Writes True committed (Batch.run tolerant operations committed).books :=
      Batch.run_makes (.inl trivial) tolerant (.inl trivial)
    exact written.wellFormed reach.wellFormed

/-- Calls that call up no competing writer lead to calm books. -/
theorem Reach.calm {allowed : Desk → Call → Prop} {books : Books} (reach : Reach allowed .empty books)
    (fair : ∀ {desk call}, allowed desk call → call.Each Operation.Fair) : books.Calm := by
  have writes : Writes False .empty books := reach.writes (fun made => .inr (fair made)) (.inr rfl)
  exact writes.calm Books.calm_empty

end Bourse
