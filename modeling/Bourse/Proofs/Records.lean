import Bourse.Form
import Bourse.Proofs.Notation
import Mathlib.Data.List.Nodup

namespace Bourse

/-- The values that are kept are read back from what is written for them. -/
def Form.Faithful {α : Type} (form : Form α) (kept : α → Prop) : Prop :=
  ∀ value, kept value → form.read (form.write value) = some value

/-- The fields of the values that are kept are read back, and each name has its value. -/
structure Fields.Faithful {α : Type} (fields : Fields α) (kept : α → Prop) : Prop where
  length_write : ∀ value, (fields.write value).length = fields.names.length
  read_write : ∀ value, kept value → fields.read ((fields.write value).map some) = some value

namespace Form

variable {α : Type}

/-- The text in which a value is sent. -/
def text (form : Form α) (value : α) : String := (form.write value).render

def parse (form : Form α) (text : String) : Option α := (Json.parse text).bind form.read

theorem Faithful.parse_text {form : Form α} {kept : α → Prop} (faithful : form.Faithful kept) {value : α}
    (keeps : kept value) : form.parse (form.text value) = some value := by
  rw [parse, text, Json.parse_render, Option.bind_some, faithful value keeps]

theorem word_faithful : word.Faithful FitsWord := fun _ fits => if_pos fits

theorem upTo_faithful (bound : Nat) : (upTo bound).Faithful (· ≤ bound) := by
  intro n small
  have range : 0 ≤ (n : Int) ∧ (n : Int) ≤ bound := by omega
  exact if_pos range

theorem string_faithful : string.Faithful fun _ => True := fun _ _ => rfl

/-- It is enough that each value is the first with its name. -/
theorem named_faithful {all : List α} {name : α → String}
    (first : ∀ value, all.find? (fun other => name other == name value) = some value) :
    (named all name).Faithful fun _ => True := fun value _ => first value

end Form

namespace Fields

variable {α β : Type} {keptA : α → Prop} {keptB : β → Prop}

theorem one_faithful {form : Form α} (name : String) (faithful : form.Faithful keptA) :
    (one name form).Faithful keptA where
  length_write _ := rfl
  read_write := faithful

/-- An absent value is told from one that is present, for which null is never written. -/
theorem optional_faithful {form : Form α} (name : String) (faithful : form.Faithful keptA)
    (solid : ∀ value, form.write value ≠ .null) :
    (optional name form).Faithful fun value => ∀ content ∈ value, keptA content where
  length_write value := by cases value <;> rfl
  read_write value keeps := by
    cases value with
    | none => rfl
    | some content =>
      have back := faithful content (keeps content rfl)
      unfold optional
      simp only [List.map_cons, List.map_nil]
      split
      next none => cases none
      next null => exact absurd (by simpa using null) (solid content)
      next given =>
        obtain rfl : form.write content = _ := by simpa using given
        rw [back, Option.map_some]
      next other => exact absurd rfl (other _)

theorem Faithful.and {first : Fields α} {second : Fields β} (faithful : first.Faithful keptA)
    (other : second.Faithful keptB) :
    (first.and second).Faithful fun value => keptA value.1 ∧ keptB value.2 where
  length_write value := by
    unfold Fields.and
    rw [List.length_append, List.length_append, faithful.length_write, other.length_write]
  read_write value keeps := by
    have length : first.names.length = ((first.write value.1).map some).length := by
      rw [List.length_map, faithful.length_write]
    unfold Fields.and
    simp only [List.map_append]
    rw [length, List.take_left, List.drop_left, faithful.read_write _ keeps.1, other.read_write _ keeps.2]
    rfl

theorem Faithful.map {fields : Fields α} (faithful : fields.Faithful keptA) {pack : α → β} {unpack : β → α}
    (same : ∀ value, pack (unpack value) = value) (keeps : ∀ value, keptB value → keptA (unpack value)) :
    (fields.map pack unpack).Faithful keptB where
  length_write value := faithful.length_write (unpack value)
  read_write value kept := by
    unfold Fields.map
    simp only [faithful.read_write _ (keeps value kept), Option.map_some, same]

/-- Under names that are all different each value is found under its own. -/
theorem map_lookup_zip {names : List String} (distinct : names.Nodup) {values : List Json}
    (length : values.length = names.length) :
    names.map (fun name => List.lookup name (names.zip values)) = values.map some := by
  induction names generalizing values with
  | nil => rw [List.eq_nil_of_length_eq_zero length]; rfl
  | cons name names ih =>
    cases values with
    | nil => cases length
    | cons value values =>
      obtain ⟨new, distinct⟩ := List.nodup_cons.mp distinct
      have rest : names.map (fun other => List.lookup other ((name, value) :: names.zip values)) =
          names.map fun other => List.lookup other (names.zip values) := by
        refine List.map_congr_left fun other member => ?_
        have different : (other == name) = false := by
          rw [beq_eq_false_iff_ne]
          rintro rfl
          exact new member
        rw [List.lookup_cons, different]
      rw [List.zip_cons_cons, List.map_cons, List.map_cons, rest, ih distinct (Nat.succ.inj length),
        List.lookup_cons, beq_self_eq_true]

theorem Faithful.readObject {fields : Fields α} (faithful : fields.Faithful keptA) (distinct : fields.names.Nodup)
    {value : α} (keeps : keptA value) :
    fields.readObject (fields.names.zip (fields.write value)) = some value := by
  rw [Fields.readObject, map_lookup_zip distinct (faithful.length_write value), faithful.read_write value keeps]

theorem Faithful.record {fields : Fields α} (faithful : fields.Faithful keptA) (distinct : fields.names.Nodup) :
    fields.record.Faithful keptA := fun _ keeps => faithful.readObject distinct keeps

theorem Faithful.closedRecord {fields : Fields α} (faithful : fields.Faithful keptA)
    (distinct : fields.names.Nodup) : fields.closedRecord.Faithful keptA := by
  intro value keeps
  have own : (fields.names.zip (fields.write value)).all fun field => field.1 ∈ fields.names := by
    rw [List.all_eq_true]
    exact fun field member => decide_eq_true (List.of_mem_zip member).1
  exact (if_pos own).trans (faithful.readObject distinct keeps)

end Fields

end Bourse
