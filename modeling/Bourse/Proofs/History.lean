import Bourse.Proofs.Runs

namespace Bourse

open Scope

/-- A call as it was made: at which desk, and in which books. -/
structure Visit where
  desk : Desk
  call : Call
  books : Books

namespace Visit

def reply (visit : Visit) : Reply := (visit.call.run visit.desk visit.books).1

def after (visit : Visit) : Books := (visit.call.run visit.desk visit.books).2

end Visit

/-- The calls of an allowed kind that were made since the books were opened, oldest first, and the books that
they have led to. -/
inductive History (allowed : Desk → Call → Prop) : List Visit → Books → Prop
  | start : History allowed [] .empty
  | next {past books} (earlier : History allowed past books) {desk : Desk} {call : Call}
      (made : allowed desk call) :
      History allowed (past ++ [⟨desk, call, books⟩]) (call.run desk books).2

theorem History.reach {allowed : Desk → Call → Prop} {past : List Visit} {books : Books}
    (history : History allowed past books) : Reach allowed .empty books := by
  induction history with
  | start => exact .start
  | next _ made ih => exact ih.next made

theorem History.mono {allowed wider : Desk → Call → Prop} {past : List Visit} {books : Books}
    (history : History allowed past books) (imp : ∀ {desk call}, allowed desk call → wider desk call) :
    History wider past books := by
  induction history with
  | start => exact .start
  | next _ made ih => exact ih.next (imp made)

/-- What some calls at one desk find when each comes after the one before. -/
def Desk.visits (desk : Desk) : List Call → Books → List Visit
  | [], _ => []
  | call :: rest, books => ⟨desk, call, books⟩ :: desk.visits rest (call.run desk books).2

theorem History.serve {allowed : Desk → Call → Prop} {past : List Visit} {books : Books}
    (history : History allowed past books) {desk : Desk} {calls : List Call}
    (made : ∀ call ∈ calls, allowed desk call) :
    History allowed (past ++ desk.visits calls books) (desk.serve calls books) := by
  induction calls generalizing past books with
  | nil => rwa [Desk.visits, List.append_nil]
  | cons call rest ih =>
    have later := ih (history.next (made call List.mem_cons_self)) fun other member =>
      made other (List.mem_cons_of_mem _ member)
    rwa [List.append_assoc] at later

/-- The history of books that were served at one desk only. -/
theorem History.of_calls {allowed : Desk → Call → Prop} {desk : Desk} {calls : List Call}
    (made : ∀ call ∈ calls, allowed desk call) :
    History allowed (desk.visits calls .empty) (desk.serve calls .empty) :=
  History.start.serve made

/-- Money that came into an account from outside. -/
structure Deposit where
  account : AccountId
  amount : Int
  deriving DecidableEq, Repr

/-- What an operation that was answered like this has brought in. -/
def Operation.deposited : Operation → Except Failure Answer → List Deposit
  | deposit id amount, .ok _ => [⟨id, amount⟩]
  | _, _ => []

/-- What a call has brought in, provided that its scope was kept. -/
def Call.deposited : Call → Reply → List Deposit
  | perform operation, .answer result => operation.deposited result
  | batch operations _ _, .batch none steps => (List.zipWith Operation.deposited operations steps).flatten
  | _, _ => []

/-- All that was brought in so far. -/
def deposits (past : List Visit) : List Deposit := past.flatMap fun visit => visit.call.deposited visit.reply

theorem deposits_next (past : List Visit) (desk : Desk) (call : Call) (books : Books) :
    deposits (past ++ [⟨desk, call, books⟩]) = deposits past ++ call.deposited (call.run desk books).1 := by
  simp [deposits, Visit.reply]

/-- What replies to operations tell, gathered over a call, provided that its scope was kept. -/
def Call.gathered {β : Type} (told : Operation → Except Failure Answer → List β) : Call → Reply → List β
  | perform operation, .answer result => told operation result
  | batch operations _ _, .batch none steps => (List.zipWith told operations steps).flatten
  | _, _ => []

theorem Call.deposited_eq_gathered (call : Call) (reply : Reply) :
    call.deposited reply = call.gathered Operation.deposited reply := by
  unfold deposited gathered
  rfl

section Gathering

variable {β : Type} {told : Operation → Except Failure Answer → List β} {holds : List β → Books → Prop}
  {made : List β} {books : Books}

/-- An operation that takes what holds of the books, and of what was told before, along when it succeeds. -/
def Operation.Gathers (told : Operation → Except Failure Answer → List β) (holds : List β → Books → Prop)
    (operation : Operation) : Prop :=
  ∀ ⦃made books answer after⦄, holds made books → operation.perform books = (.ok answer, after) →
    holds (made ++ told operation (.ok answer)) after

theorem Operation.gathers_of_silent {operation : Operation} (silent : ∀ result, told operation result = [])
    (secured : ∀ made, Secures (holds made) operation.perform) : operation.Gathers told holds := by
  intro made books answer after held ran
  rw [silent, List.append_nil]
  exact secured made held ran

/-- An operation in a scope of its own: if it fails, nothing is told and the books do not change. -/
theorem Operation.Gathers.run {operation : Operation} (gathers : operation.Gathers told holds)
    (silent : ∀ failure, told operation (.error failure) = []) (desk : Desk) (held : holds made books) :
    holds (made ++ (Call.perform operation).gathered told ((Call.perform operation).run desk books).1)
      ((Call.perform operation).run desk books).2 := by
  rcases Call.run_perform desk operation books with ⟨answer, after, ran, replied⟩ | ⟨failure, replied⟩
  · rw [replied]
    exact gathers held ran
  · rw [replied]
    simp only [Call.gathered, silent, List.append_nil]
    exact held

namespace Batch

theorem run_gathers {operations : List Operation}
    (each : ∀ operation ∈ operations, operation.Gathers told holds)
    (ended : (run false operations books).failure = none) (held : holds made books) :
    holds (made ++ (List.zipWith told operations (run false operations books).steps).flatten)
      (run false operations books).books := by
  induction operations generalizing made books with
  | nil => simpa [run] using held
  | cons operation rest ih =>
    match ran : operation.perform books with
    | (.ok answer, after) =>
      simp only [run, ran] at ended ⊢
      have later := ih (fun other member => each other (List.mem_cons_of_mem _ member)) ended
        (each operation List.mem_cons_self held ran)
      rwa [List.append_assoc] at later
    | (.error failure, after) =>
      simp [run, ran] at ended

/-- A scope with several operations: only if it is kept, something was told. -/
theorem gathers {operations : List Operation} (each : ∀ operation ∈ operations, operation.Gathers told holds)
    (abort : Option String) (desk : Desk) (held : holds made books) :
    holds (made ++ (Call.batch operations false abort).gathered told
        ((Call.batch operations false abort).run desk books).1)
      ((Call.batch operations false abort).run desk books).2 := by
  simp only [Call.run, commit]
  cases ended : (run false operations books).failure with
  | some failure => simpa [Call.gathered] using held
  | none =>
    cases abort with
    | some text => simpa [Call.gathered] using held
    | none =>
      simp only [ended, Call.gathered]
      exact run_gathers each ended held

end Batch

/-- What single scopes take along, calls take along. -/
theorem Call.run_gathers (silent : ∀ operation failure, told operation (.error failure) = []) (desk : Desk)
    {call : Call} (strict : call.Strict) (each : call.Each (Operation.Gathers told holds))
    (fills : ∀ made ticket resting quantity, Secures (holds made) (fill ticket resting quantity))
    (stores : ∀ made ticket filled, Secures (holds made) (storeOrder ticket filled))
    (cancels : ∀ made id, Secures (holds made) (cancelOrder id)) (held : holds made books) :
    holds (made ++ call.gathered told (call.run desk books).1) (call.run desk books).2 := by
  have apart (own : call.Each fun operation => Secures (holds made) operation.perform) :
      holds made (call.run desk books).2 :=
    run_preserves desk (fills made) (stores made) (cancels made) own (.inl strict) held
  cases call with
  | perform operation => exact Operation.Gathers.run each (silent operation) desk held
  | batch operations tolerant abort =>
    obtain rfl : tolerant = false := strict
    exact Batch.gathers each abort desk held
  | submit | cancel | lookUp | matchTicket =>
    change holds (made ++ []) _
    rw [List.append_nil]
    exact apart trivial

end Gathering

section Recording

variable {holds : List Deposit → Books → Prop} {made : List Deposit} {books : Books}

/-- An operation that takes what holds of the deposits and the books along when it succeeds. -/
def Operation.Records (holds : List Deposit → Books → Prop) (operation : Operation) : Prop :=
  ∀ ⦃made books answer after⦄, holds made books → operation.perform books = (.ok answer, after) →
    holds (made ++ operation.deposited (.ok answer)) after

/-- An operation that brings nothing in. -/
def Operation.Internal : Operation → Prop
  | deposit .. => False
  | _ => True

theorem Operation.Internal.deposited {operation : Operation} (internal : operation.Internal)
    (result : Except Failure Answer) : operation.deposited result = [] := by
  cases operation with
  | deposit => exact internal.elim
  | _ => rfl

theorem Operation.Internal.records {operation : Operation} (internal : operation.Internal)
    (secured : ∀ made, Secures (holds made) operation.perform) : operation.Records holds :=
  gathers_of_silent internal.deposited secured

/-- What single scopes take along of the deposits, calls take along. -/
theorem Call.run_records (desk : Desk) {call : Call} (strict : call.Strict)
    (each : call.Each (Operation.Records holds))
    (fills : ∀ made ticket resting quantity, Secures (holds made) (fill ticket resting quantity))
    (stores : ∀ made ticket filled, Secures (holds made) (storeOrder ticket filled))
    (cancels : ∀ made id, Secures (holds made) (cancelOrder id)) (held : holds made books) :
    holds (made ++ call.deposited (call.run desk books).1) (call.run desk books).2 := by
  have silent (operation : Operation) (failure : Failure) : operation.deposited (.error failure) = [] := by
    cases operation <;> rfl
  rw [deposited_eq_gathered]
  exact run_gathers silent desk strict each fills stores cancels held

end Recording

end Bourse
