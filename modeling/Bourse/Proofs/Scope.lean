import Bourse.Books

namespace Bourse

namespace Scope

variable {α β : Type} {books after : Books}

/-- Work in two parts succeeds exactly if both parts do, the second on the books that the first left. -/
theorem bind_eq_ok {work : Scope α} {next : α → Scope β} {value : β} :
    (work >>= next) books = (.ok value, after) ↔
      ∃ first middle, work books = (.ok first, middle) ∧ next first middle = (.ok value, after) := by
  rw [bind_apply]
  constructor
  · intro ran
    split at ran
    next first middle start => exact ⟨first, middle, start, ran⟩
    next => exact absurd (congrArg Prod.fst ran) nofun
  · rintro ⟨first, middle, start, rest⟩
    rw [start]
    exact rest

theorem bind_of_ok {work : Scope α} {next : α → Scope β} {first : α} {middle : Books}
    (ran : work books = (.ok first, middle)) : (work >>= next) books = next first middle := by
  rw [bind_apply, ran]

theorem bind_of_error {work : Scope α} {next : α → Scope β} {failure : Failure}
    (failed : work books = (.error failure, after)) : (work >>= next) books = (.error failure, after) := by
  rw [bind_apply, failed]

theorem map_eq_ok {view : α → β} {work : Scope α} {value : β} :
    (view <$> work) books = (.ok value, after) ↔
      ∃ first, work books = (.ok first, after) ∧ view first = value := by
  refine bind_eq_ok.trans ⟨?_, ?_⟩
  · rintro ⟨first, middle, start, rest⟩
    cases rest
    exact ⟨first, start, rfl⟩
  · rintro ⟨first, start, rfl⟩
    exact ⟨first, after, start, rfl⟩

theorem pure_eq_ok {given value : α} :
    (pure given : Scope α) books = (.ok value, after) ↔ given = value ∧ books = after := by
  rw [pure_apply, Prod.mk.injEq, Except.ok.injEq]

theorem read_eq_ok {view : Books → Except Failure α} {value : α} :
    read view books = (.ok value, after) ↔ view books = .ok value ∧ books = after := by
  rw [read, Prod.mk.injEq]

theorem ofExcept_eq_ok {result : Except Failure α} {value : α} :
    ofExcept result books = (.ok value, after) ↔ result = .ok value ∧ books = after := by
  rw [ofExcept, Prod.mk.injEq]

theorem fail_ne_ok {failure : Failure} {value : α} : (fail failure : Scope α) books ≠ (.ok value, after) :=
  fun ran => nomatch congrArg Prod.fst ran

theorem atomic_eq_ok {work : Scope α} {value : α} :
    work.atomic books = (.ok value, after) ↔ work books = (.ok value, after) := by
  unfold atomic
  split
  next ran => rw [ran]
  next ran => rw [ran]; exact ⟨fun same => absurd (congrArg Prod.fst same) nofun,
    fun same => absurd (congrArg Prod.fst same) nofun⟩

theorem atomic_eq_error {work : Scope α} {failure : Failure} :
    work.atomic books = (.error failure, after) ↔ (∃ left, work books = (.error failure, left)) ∧ after = books := by
  unfold atomic
  split
  next ran =>
    rw [ran]
    exact ⟨fun same => absurd (congrArg Prod.fst same) nofun, fun ⟨⟨_, same⟩, _⟩ =>
      absurd (congrArg Prod.fst same) nofun⟩
  next cause left ran =>
    rw [ran]
    constructor
    · intro same
      cases same
      exact ⟨⟨left, rfl⟩, rfl⟩
    · rintro ⟨⟨_, same⟩, rfl⟩
      cases same
      rfl

/-- Work that leaves the books in a state that satisfies `holds` if it began in one and succeeds. Nothing is
said of books that a failure leaves behind. -/
def Secures (holds : Books → Prop) (work : Scope α) : Prop :=
  ∀ ⦃books value after⦄, holds books → work books = (.ok value, after) → holds after

section Secures

variable {holds : Books → Prop}

theorem secures_pure (value : α) : Secures holds (pure value : Scope α) := by
  intro books _ _ held ran
  rwa [← (pure_eq_ok.mp ran).2]

theorem secures_ofExcept (result : Except Failure α) : Secures holds (ofExcept result) := by
  intro books _ _ held ran
  rwa [← (ofExcept_eq_ok.mp ran).2]

theorem secures_fail (failure : Failure) : Secures holds (fail failure : Scope α) :=
  fun _ _ _ _ ran => absurd ran fail_ne_ok

theorem Secures.bind {work : Scope α} {next : α → Scope β} (first : Secures holds work)
    (rest : ∀ value, Secures holds (next value)) : Secures holds (work >>= next) := by
  intro books value after held ran
  obtain ⟨_, _, start, finish⟩ := bind_eq_ok.mp ran
  exact rest _ (first held start) finish

theorem Secures.map {work : Scope α} (secured : Secures holds work) (view : α → β) :
    Secures holds (view <$> work) := by
  intro books value after held ran
  obtain ⟨_, start, _⟩ := map_eq_ok.mp ran
  exact secured held start

/-- In a scope of its own a failure leaves no trace, so that what success secures holds either way. -/
theorem Secures.atomic {work : Scope α} (secured : Secures holds work) (held : holds books) :
    holds (work.atomic books).2 := by
  unfold Scope.atomic
  split
  next ran => exact secured held ran
  next => exact held

/-- Work that leaves the books in a state that satisfies `holds` if it began in one, however it ends. -/
def Maintains (holds : Books → Prop) (work : Scope α) : Prop := ∀ ⦃books⦄, holds books → holds (work books).2

theorem Maintains.secures {work : Scope α} (maintained : Maintains holds work) : Secures holds work := by
  intro books value after held ran
  simpa only [ran] using maintained held

theorem Keeps.secures {γ : Type} {part : Books → γ} {work : Scope α} (kept : Keeps part work)
    (told : ∀ {books after}, part after = part books → holds books → holds after) : Secures holds work := by
  intro books value after held ran
  exact told (by simpa only [ran] using kept books) held

end Secures

section FailsOnly

variable {allowed : Failure → Prop}

/-- Work that fails on these books only in ways that are allowed. -/
def FailsOnly (allowed : Failure → Prop) (work : Scope α) (books : Books) : Prop :=
  ∀ ⦃failure after⦄, work books = (.error failure, after) → allowed failure

theorem failsOnly_of_ok {work : Scope α} {value : α} {after : Books} (ran : work books = (.ok value, after)) :
    FailsOnly allowed work books := fun _ _ failed => nomatch ran.symm.trans failed

theorem FailsOnly.mono {other : Failure → Prop} {work : Scope α} (fails : FailsOnly allowed work books)
    (wider : ∀ {failure}, allowed failure → other failure) : FailsOnly other work books :=
  fun _ _ failed => wider (fails failed)

/-- The second part of work is begun on the books that the first has left. -/
theorem FailsOnly.bind {work : Scope α} {next : α → Scope β} (first : FailsOnly allowed work books)
    (rest : ∀ value middle, work books = (.ok value, middle) → FailsOnly allowed (next value) middle) :
    FailsOnly allowed (work >>= next) books := by
  intro failure after failed
  rw [bind_apply] at failed
  match ran : work books with
  | (.ok value, middle) =>
    rw [ran] at failed
    exact rest value middle ran failed
  | (.error cause, middle) =>
    rw [ran] at failed
    cases failed
    exact first ran

theorem FailsOnly.atomic {work : Scope α} (fails : FailsOnly allowed work books) :
    FailsOnly allowed work.atomic books := by
  intro failure after failed
  obtain ⟨⟨_, ran⟩, _⟩ := atomic_eq_error.mp failed
  exact fails ran

end FailsOnly

/-- Work that fails only with failures that name no fills. -/
def Unfilled (work : Scope α) : Prop :=
  ∀ ⦃books failure after⦄, work books = (.error failure, after) → failure.filled? = none

section Unfilled

theorem unfilled_pure (value : α) : Unfilled (pure value : Scope α) :=
  fun _ _ _ ran => nomatch congrArg Prod.fst ran

theorem unfilled_fail {failure : Failure} (plain : failure.filled? = none) :
    Unfilled (fail failure : Scope α) := by
  intro books cause after ran
  cases ran
  exact plain

theorem unfilled_read {view : Books → Except Failure α}
    (plain : ∀ books failure, view books = .error failure → failure.filled? = none) : Unfilled (read view) := by
  intro books cause after ran
  exact plain books cause (congrArg Prod.fst ran)

theorem unfilled_ofExcept {result : Except Failure α}
    (plain : ∀ failure, result = .error failure → failure.filled? = none) : Unfilled (ofExcept result) := by
  intro books cause after ran
  exact plain cause (congrArg Prod.fst ran)

theorem Unfilled.failsOnly {work : Scope α} (unfilled : Unfilled work) (books : Books) :
    FailsOnly (·.filled? = none) work books := fun _ _ failed => unfilled failed

theorem Unfilled.bind {work : Scope α} {next : α → Scope β} (first : Unfilled work)
    (rest : ∀ value, Unfilled (next value)) : Unfilled (work >>= next) := by
  intro books
  exact (first.failsOnly books).bind fun value middle _ => (rest value).failsOnly middle

theorem Unfilled.atomic {work : Scope α} (unfilled : Unfilled work) : Unfilled work.atomic := by
  intro books
  exact (unfilled.failsOnly books).atomic

end Unfilled

end Scope

end Bourse
