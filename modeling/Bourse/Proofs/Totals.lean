import Bourse.Proofs.Numbering
import Mathlib.Algebra.BigOperators.Group.List.Lemmas
import Mathlib.Algebra.Order.Ring.Int

namespace Bourse

variable {α : Type} {kind : α → Prop} [DecidablePred kind] {value : α → Int}

/-- The total of a value over the rows of a kind. -/
def sumWhere (kind : α → Prop) [DecidablePred kind] (value : α → Int) (rows : List α) : Int :=
  ((rows.filter fun row => kind row).map value).sum

theorem sumWhere_nil : sumWhere kind value [] = 0 := rfl

theorem sumWhere_cons (row : α) (rows : List α) :
    sumWhere kind value (row :: rows) = (if kind row then value row else 0) + sumWhere kind value rows := by
  unfold sumWhere
  rw [List.filter_cons]
  by_cases counts : kind row
  · simp [counts]
  · simp [counts]

theorem sumWhere_append (rows more : List α) :
    sumWhere kind value (rows ++ more) = sumWhere kind value rows + sumWhere kind value more := by
  simp only [sumWhere, List.filter_append, List.map_append, List.sum_append]

theorem sumWhere_concat (rows : List α) (row : α) :
    sumWhere kind value (rows ++ [row]) = sumWhere kind value rows + if kind row then value row else 0 := by
  rw [sumWhere_append, sumWhere_cons, sumWhere_nil, Int.add_zero]

theorem sumWhere_of_none {rows : List α} (none : ∀ row ∈ rows, ¬kind row) : sumWhere kind value rows = 0 := by
  have nothing : (rows.filter fun row => kind row) = [] :=
    List.filter_eq_nil_iff.mpr fun row member => by simpa using none row member
  rw [sumWhere, nothing, List.map_nil, List.sum_nil]

theorem sumWhere_congr {other : α → Prop} [DecidablePred other] {rows : List α}
    (same : ∀ row ∈ rows, kind row ↔ other row) : sumWhere kind value rows = sumWhere other value rows := by
  have kept : (rows.filter fun row => kind row) = rows.filter fun row => other row :=
    List.filter_congr fun row member => decide_eq_decide.mpr (same row member)
  rw [sumWhere, kept, sumWhere]

/-- A total is the sum of the totals for each of the keys that its rows have. -/
theorem sumWhere_partition {β : Type} [DecidableEq β] {key : α → β} {keys : List β} (distinct : keys.Nodup)
    {rows : List α} (known : ∀ row ∈ rows, key row ∈ keys) :
    (keys.map fun one => sumWhere (fun row => kind row ∧ key row = one) value rows).sum =
      sumWhere kind value rows := by
  induction rows with
  | nil =>
    refine List.sum_eq_zero fun total member => ?_
    obtain ⟨_, _, rfl⟩ := List.mem_map.mp member
    exact sumWhere_nil
  | cons row rest ih =>
    have later := ih fun other member => known other (List.mem_cons_of_mem _ member)
    have once : keys.count (key row) = 1 := List.count_eq_one_of_mem distinct (known row List.mem_cons_self)
    simp only [sumWhere_cons, List.sum_map_add, later]
    by_cases counts : kind row
    · have single := List.sum_map_ite_eq keys (fun _ => value row) (fun _ => 0) (key row)
      rw [once] at single
      simpa [counts, eq_comm] using single
    · simp [counts]

/-- Where one row of a table changes, a total changes by what that row counts now and counted before. -/
theorem Numbered.sumWhere_change {id : α → Int} {rows : List α} (numbered : Numbered id rows) {row : α}
    (member : row ∈ rows) (change : α → α) (kind : α → Prop) [DecidablePred kind] (value : α → Int) :
    sumWhere kind value (rows.map fun other => if id other = id row then change other else other) +
        (if kind row then value row else 0) =
      sumWhere kind value rows + if kind (change row) then value (change row) else 0 := by
  have ascending : rows.Pairwise (fun earlier later => id earlier < id later) :=
    List.pairwise_map.mp numbered.ids_ascending
  -- Ids ascend, so that no row after the changed one has its id.
  clear numbered
  induction rows with
  | nil => cases member
  | cons first rest ih =>
    obtain ⟨before, following⟩ := List.pairwise_cons.mp ascending
    rw [List.map_cons, sumWhere_cons, sumWhere_cons]
    rcases List.mem_cons.mp member with rfl | later
    · have same : (rest.map fun other => if id other = id row then change other else other) = rest :=
        (List.map_congr_left fun other present => if_neg (Int.ne_of_gt (before other present))).trans
          (List.map_id' _)
      rw [same, if_pos rfl]
      omega
    · have changed := ih later following
      rw [if_neg (Int.ne_of_lt (before row later))]
      omega

end Bourse
