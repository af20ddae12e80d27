import Bourse.Books
import Mathlib.Data.List.Nodup

namespace Bourse

/-- The ids of the first `count` rows of a table. -/
def firstIds (count : Nat) : List Int := (List.range count).map fun index : Nat => (index : Int) + 1

/-- The rows of a table bear the ids 1, 2, 3, … in the order in which they stand. -/
def Numbered {α : Type} (id : α → Int) (rows : List α) : Prop := rows.map id = firstIds rows.length

theorem mem_firstIds {count : Nat} {id : Int} : id ∈ firstIds count ↔ 1 ≤ id ∧ id ≤ count := by
  simp only [firstIds, List.mem_map, List.mem_range]
  constructor
  · rintro ⟨index, below, rfl⟩
    omega
  · intro range
    exact ⟨(id - 1).toNat, by omega, by omega⟩

theorem firstIds_succ (count : Nat) : firstIds (count + 1) = firstIds count ++ [(count : Int) + 1] := by
  simp only [firstIds, List.range_succ, List.map_append, List.map_cons, List.map_nil]

theorem firstIds_add (count more : Nat) :
    firstIds (count + more) = firstIds count ++ (List.range more).map fun index : Nat => (count : Int) + 1 + index := by
  unfold firstIds
  rw [List.range_add, List.map_append, List.map_map]
  refine congrArg (_ ++ ·) (List.map_congr_left fun index _ => ?_)
  simp only [Function.comp_apply]
  omega

theorem firstIds_ascending (count : Nat) : (firstIds count).Pairwise (· < ·) := by
  refine List.pairwise_map.mpr (List.pairwise_lt_range.imp fun before => ?_)
  omega

theorem nextId_append {α : Type} (rows : List α) (row : α) : nextId (rows ++ [row]) = nextId rows + 1 := by
  unfold nextId
  rw [List.length_append, List.length_singleton]
  omega

/-- No two rows share an id where the ids ascend. -/
theorem eq_of_ids_ascending {α : Type} {id : α → Int} {rows : List α} (ascending : (rows.map id).Pairwise (· < ·))
    {row other : α} (member : row ∈ rows) (present : other ∈ rows) (same : id row = id other) : row = other := by
  have distinct : (rows.map id).Nodup := ascending.imp fun before => Int.ne_of_lt before
  exact List.inj_on_of_nodup_map distinct member present same

namespace Numbered

variable {α : Type} {id : α → Int} {rows : List α}

theorem nil : Numbered id ([] : List α) := rfl

theorem append (numbered : Numbered id rows) {row : α} (next : id row = nextId rows) :
    Numbered id (rows ++ [row]) := by
  unfold Numbered at numbered ⊢
  rw [List.map_append, numbered, List.length_append, List.map_singleton, next]
  exact (firstIds_succ rows.length).symm

/-- Rows that were added bear the next ids. -/
theorem added {more : List α} (before : Numbered id rows) (numbered : Numbered id (rows ++ more)) :
    more.map id = (List.range more.length).map fun index : Nat => nextId rows + index := by
  unfold Numbered at before numbered
  rw [List.map_append, before, List.length_append, firstIds_add] at numbered
  exact List.append_cancel_left numbered

/-- A change of rows that leaves their ids alone leaves them numbered. -/
theorem map (numbered : Numbered id rows) {change : α → α} (same : ∀ row, id (change row) = id row) :
    Numbered id (rows.map change) := by
  unfold Numbered at numbered ⊢
  rw [List.length_map, List.map_map, ← numbered]
  exact List.map_congr_left fun row _ => same row

theorem ids_ascending (numbered : Numbered id rows) : (rows.map id).Pairwise (· < ·) := by
  rw [numbered]
  exact firstIds_ascending _

theorem range (numbered : Numbered id rows) {row : α} (member : row ∈ rows) :
    1 ≤ id row ∧ id row < nextId rows := by
  have listed : id row ∈ firstIds rows.length := numbered ▸ List.mem_map_of_mem member
  have bounds := mem_firstIds.mp listed
  unfold nextId
  omega

theorem unique (numbered : Numbered id rows) {row other : α} (member : row ∈ rows) (present : other ∈ rows)
    (same : id row = id other) : row = other :=
  eq_of_ids_ascending numbered.ids_ascending member present same

/-- A look-up by id finds the one row that has it. -/
theorem find?_eq_some (numbered : Numbered id rows) {key : Int} {row : α} :
    rows.find? (fun other => id other = key) = some row ↔ row ∈ rows ∧ id row = key := by
  constructor
  · intro found
    exact ⟨List.mem_of_find?_eq_some found, by simpa using List.find?_some found⟩
  · rintro ⟨member, rfl⟩
    match found : rows.find? (fun other => id other = id row) with
    | none => simpa using List.find?_eq_none.mp found row member
    | some other =>
      have same : id other = id row := by simpa using List.find?_some found
      rw [numbered.unique (List.mem_of_find?_eq_some found) member same]

end Numbered

end Bourse
