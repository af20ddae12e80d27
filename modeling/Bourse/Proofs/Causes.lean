import Bourse.Failure
import Mathlib.Logic.Relation

namespace Bourse.Failure

/-- The first failure wraps the second: it tells besides what was filled before the second was met. -/
inductive Wraps : Failure → Failure → Prop where
  | interrupted (order : OrderId) (filled : Int) (cause : Failure) : Wraps (.interrupted order filled cause) cause
  | unstored (filled : Int) (cause : Failure) : Wraps (.unstored filled cause) cause

/-- The failure at the bottom of all wrappers. -/
def innermost : Failure → Failure
  | interrupted _ _ cause | unstored _ cause => cause.innermost
  | failure => failure

def IsConflict (failure : Failure) : Prop :=
  ∃ order expected actual status, failure = .conflict order expected actual status

def IsWrongStatus (failure : Failure) : Prop :=
  ∃ order status change, failure = .wrongStatus order status change

/-- A failure that wraps no other. -/
def Bare (failure : Failure) : Prop := ∀ cause, ¬ failure.Wraps cause

variable {failure cause : Failure}

namespace Wraps

theorem kind (wraps : failure.Wraps cause) : failure.kind = cause.kind := by
  cases wraps <;> rfl

/-- Of a wrapped failure the kind alone is looked at. -/
theorem mayRetry (wraps : failure.Wraps cause) : failure.mayRetry ↔ cause.kind = .conflict := by
  cases wraps <;> exact decide_eq_true_iff

end Wraps

@[simp]
theorem not_bare_interrupted {order : OrderId} {filled : Int} : ¬ (interrupted order filled cause).Bare :=
  fun bare => bare cause (.interrupted order filled cause)

@[simp]
theorem not_bare_unstored {filled : Int} : ¬ (unstored filled cause).Bare :=
  fun bare => bare cause (.unstored filled cause)

namespace Bare

theorem innermost (bare : failure.Bare) : failure.innermost = failure := by
  cases failure with
  | interrupted => simp at bare
  | unstored => simp at bare
  | _ => rfl

theorem kind (bare : failure.Bare) : failure.kind = .conflict ↔ failure.IsConflict ∨ failure.IsWrongStatus := by
  cases failure with
  | interrupted => simp at bare
  | unstored => simp at bare
  | _ => simp [Failure.kind, IsConflict, IsWrongStatus]

theorem mayRetry (bare : failure.Bare) : failure.mayRetry ↔ failure.IsConflict := by
  cases failure with
  | interrupted => simp at bare
  | unstored => simp at bare
  | _ => simp [Failure.mayRetry, Failure.kind, IsConflict]

end Bare

theorem innermost_bare (failure : Failure) : failure.innermost.Bare := by
  induction failure with
  | interrupted _ _ cause ih => exact ih
  | unstored _ cause ih => exact ih
  | _ => exact nofun

theorem wraps_innermost (failure : Failure) : Relation.ReflTransGen Wraps failure failure.innermost := by
  induction failure with
  | interrupted order filled cause ih => exact .head (.interrupted order filled cause) ih
  | unstored filled cause ih => exact .head (.unstored filled cause) ih
  | _ => exact .refl

theorem kind_innermost (failure : Failure) : failure.kind = failure.innermost.kind := by
  induction failure with
  | interrupted _ _ cause ih => exact ih
  | unstored _ cause ih => exact ih
  | _ => rfl

/-- The kind of a failure is that of its innermost cause, and so is whether a retry may succeed, except that under a
wrapper a change that the status does not allow is taken for a conflict. -/
theorem classified_by_innermost (failure : Failure) :
    Relation.ReflTransGen Wraps failure failure.innermost ∧
    failure.innermost.Bare ∧
    failure.kind = failure.innermost.kind ∧
    (failure.innermost.mayRetry ↔ failure.innermost.IsConflict) ∧
    (failure.mayRetry ↔ failure.innermost.IsConflict ∨
      (∃ cause, failure.Wraps cause) ∧ failure.innermost.IsWrongStatus) ∧
    (failure.mayRetry = failure.innermost.mayRetry ↔
      ¬ ((∃ cause, failure.Wraps cause) ∧ failure.innermost.IsWrongStatus)) := by
  have bare := failure.innermost_bare
  refine ⟨failure.wraps_innermost, bare, failure.kind_innermost, bare.mayRetry, ?_⟩
  by_cases wrapped : ∃ cause, failure.Wraps cause
  case neg =>
    have plain : failure.Bare := not_exists.mp wrapped
    rw [plain.innermost]
    simp [wrapped, plain.mayRetry]
  case pos =>
    have ⟨cause, wraps⟩ := wrapped
    have retried : failure.mayRetry ↔ failure.innermost.IsConflict ∨ failure.innermost.IsWrongStatus := by
      rw [wraps.mayRetry, ← wraps.kind, kind_innermost, bare.kind]
    -- No failure is of both sorts, so that the second tells the two verdicts apart.
    have either : failure.innermost.IsWrongStatus → ¬ failure.innermost.IsConflict := by
      rintro ⟨_, _, _, wrong⟩ ⟨_, _, _, _, conflict⟩
      cases wrong.symm.trans conflict
    refine ⟨by simp [retried, wrapped], ?_⟩
    rw [Bool.eq_iff_iff, retried, bare.mayRetry, or_iff_left_iff_imp]
    constructor
    · rintro implied ⟨_, wrong⟩
      exact either wrong (implied wrong)
    · intro right wrong
      exact (right ⟨wrapped, wrong⟩).elim

/-- An interrupted matching is said to be worth a retry although its cause is not. -/
theorem wrongStatus_mayRetry_when_interrupted :
    let cause : Failure := .wrongStatus 1 .canceled .fill
    let failure : Failure := .interrupted 3 5 cause
    failure.innermost = cause ∧ failure.kind = cause.kind ∧ cause.mayRetry = false ∧ failure.mayRetry = true := by
  decide

end Bourse.Failure
