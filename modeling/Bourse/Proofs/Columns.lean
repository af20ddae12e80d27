import Bourse.Column
import Bourse.Proofs.Names

namespace Bourse

/-- Of all columns, whatever their storage class, a form reads those that show a value that is kept, and writes each
of them back as it was. -/
structure ColumnForm.Exact {α : Type} (form : ColumnForm α) (kept : α → Prop) (shown : α → Column) : Prop where
  read_iff : ∀ column, (∃ value, form.read column = .ok value) ↔ ∃ value, kept value ∧ column = shown value
  write_of_read : ∀ {column value}, form.read column = .ok value → kept value ∧ form.write value = column
  read_write : ∀ {value}, kept value → form.read (form.write value) = .ok value

namespace ColumnForm

variable {α : Type}

/-- It is enough to say what the columns are that each value is read from. -/
theorem exact_of_read_eq_ok {form : ColumnForm α} {kept : α → Prop} {shown : α → Column}
    (written : ∀ value, form.write value = shown value)
    (reads : ∀ column value, form.read column = .ok value ↔ kept value ∧ column = shown value) :
    form.Exact kept shown where
  read_iff column := exists_congr (reads column)
  write_of_read read := by
    obtain ⟨known, rfl⟩ := (reads _ _).mp read
    exact ⟨known, written _⟩
  read_write known := by
    rw [written]
    exact (reads _ _).mpr ⟨known, rfl⟩

theorem named_read_eq_ok {text : α → String} {parse : String → Except UnknownName α} {column : Column} {value : α} :
    (named text parse).read column = .ok value ↔ ∃ found, column = .text found ∧ parse found = .ok value := by
  cases column with
  | text found =>
    simp only [named, Column.text.injEq, exists_eq_left']
    cases parse found <;> simp
  | null => simp [named]
  | integer => simp [named]
  | real => simp [named]
  | blob => simp [named]

/-- A form that keeps names is exact when each name is read as the value it names. -/
theorem named_exact {text : α → String} {parse : String → Except UnknownName α} {kept : α → Prop}
    (reads : ∀ found value, parse found = .ok value ↔ kept value ∧ found = text value) :
    (named text parse).Exact kept fun value => .text (text value) :=
  exact_of_read_eq_ok (fun _ => rfl) fun column value => by
    rw [named_read_eq_ok]
    constructor
    · rintro ⟨found, rfl, read⟩
      obtain ⟨known, rfl⟩ := (reads found value).mp read
      exact ⟨known, rfl⟩
    · rintro ⟨known, rfl⟩
      exact ⟨text value, rfl, (reads _ _).mpr ⟨known, rfl⟩⟩

theorem id_exact : id.Exact (fun _ => True) .integer :=
  exact_of_read_eq_ok (fun _ => rfl) fun column value => by
    cases column <;> simp [id]

/-- A text that names nothing is reported together with what it was to name. -/
theorem named_read_eq_error {text : α → String} {parse : String → Except UnknownName α} {found : String}
    {name : UnknownName} (failed : parse found = .error name) :
    (named text parse).read (.text found) = .error (.columnText 0 name) := by
  simp [named, failed]

end ColumnForm

/-- There is one slash in the text of a pair, since there is none in a code. -/
theorem Pair.count_slash_text (pair : Pair) : pair.text.toList.count '/' = 1 := by
  have base := List.count_eq_zero.mpr pair.base.slash_notMem_code
  have quote := List.count_eq_zero.mpr pair.quote.slash_notMem_code
  simp [text, base, quote]

/-- Every column form accepts exactly what it writes: sides, statuses and currencies the texts that name them, pairs
the texts of the listed ones, two codes around the only slash, and ids the integers. A text that is no pair is
reported as it is. -/
theorem columnForms_exact :
    ColumnForm.side.Exact (fun _ => True) (fun side => .text side.text) ∧
    ColumnForm.status.Exact (fun _ => True) (fun status => .text status.text) ∧
    ColumnForm.currency.Exact (fun _ => True) (fun currency => .text currency.code) ∧
    ColumnForm.pair.Exact (· ∈ Pair.listed) (fun pair => .text (pair.base.code ++ "/" ++ pair.quote.code)) ∧
    ColumnForm.id.Exact (fun _ => True) .integer ∧
    (∀ pair : Pair, (pair.base.code ++ "/" ++ pair.quote.code).toList.count '/' = 1) ∧
    ∀ found, (∃ pair, Pair.parse found = .ok pair) ∨
      Pair.parse found = .error (.pair found) ∧
        ColumnForm.pair.read (.text found) = .error (.columnText 0 (.pair found)) := by
  refine ⟨ColumnForm.named_exact ?side, ColumnForm.named_exact ?status, ColumnForm.named_exact ?currency,
    ColumnForm.named_exact ?pair, ColumnForm.id_exact, Pair.count_slash_text, ?unlisted⟩
  case side => simp [Side.parse_eq_ok]
  case status => simp [Status.parse_eq_ok]
  case currency => simp [Currency.parse_eq_ok]
  case pair => exact fun _ _ => Pair.parse_eq_ok
  case unlisted =>
    intro found
    cases parsed : Pair.parse found with
    | ok pair => exact .inl ⟨pair, rfl⟩
    | error name =>
      obtain rfl := Pair.parse_eq_error parsed
      exact .inr ⟨rfl, ColumnForm.named_read_eq_error parsed⟩

end Bourse
