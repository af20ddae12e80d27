import Bourse.Proofs.Numerals
import Bourse.Timestamp
import Mathlib.Algebra.Group.Nat.Defs

namespace Bourse

theorem daysInMonth_le (year : Int) (month : Nat) : daysInMonth year month ≤ 31 := by
  unfold daysInMonth
  split_ifs <;> decide

theorem Date.ofParts?_self (date : Date) : ofParts? date.year date.month date.day = some date :=
  dif_pos ⟨date.inYears, date.inMonths, date.inDays⟩

namespace Timestamp

section Digits

variable {width n : Nat} {rest : List Char}

theorem length_digits (width n : Nat) : (digits width n).length = width := by
  induction width generalizing n with
  | zero => rfl
  | succ width ih => rw [digits, List.length_append, ih, List.length_singleton]

theorem isDigit_of_mem_digits {c : Char} (member : c ∈ digits width n) : c.isDigit = true := by
  induction width generalizing n with
  | zero => cases member
  | succ width ih =>
    rw [digits] at member
    rcases List.mem_append.mp member with front | last
    · exact ih front
    · rw [List.mem_singleton.mp last, Nat.isDigit_digitChar]
      exact decide_eq_true (Nat.mod_lt n (by decide))

theorem ofDigitChars_digits (small : n < 10 ^ width) : Nat.ofDigitChars 10 (digits width n) 0 = n := by
  induction width generalizing n with
  | zero =>
    rw [Nat.lt_one_iff.mp small]
    rfl
  | succ width ih =>
    have tenth : n / 10 < 10 ^ width := by
      rw [Nat.pow_succ] at small
      omega
    rw [digits, Nat.ofDigitChars_append, ih tenth, Nat.ofDigitChars_cons_digitChar_of_lt_ten (by omega),
      Nat.ofDigitChars_nil]
    omega

/-- Digits are no white space. -/
theorem isWhiteSpace_of_isDigit {c : Char} (digit : c.isDigit = true) : isWhiteSpace c = false := by
  have range : 48 ≤ c.toNat ∧ c.toNat ≤ 57 := Char.isDigit_iff_toNat.mp digit
  have apart : ∀ blanks ∈ whiteSpaceRanges, blanks.2 < 48 ∨ 57 < blanks.1 := by decide
  unfold isWhiteSpace
  rw [List.any_eq_false]
  intro blanks member
  have outside := apart blanks member
  simp only [Bool.and_eq_true, decide_eq_true_eq]
  omega

theorem skipWhiteSpace_cons {c : Char} (solid : isWhiteSpace c = false) (rest : List Char) :
    skipWhiteSpace (c :: rest) = c :: rest :=
  List.dropWhile_cons_of_neg (by simpa using solid)

/-- A number is read from its digits if they are not too many and the numeral ends with them. -/
theorem readNumber?_append {numeral : List Char} (some : numeral ≠ []) (all : ∀ c ∈ numeral, c.isDigit = true)
    (short : numeral.length ≤ width) (ends : EndsNumeral rest) :
    readNumber? width (numeral ++ rest) = .some (Nat.ofDigitChars 10 numeral 0, rest) := by
  have found : ((numeral ++ rest).take width).takeWhile Char.isDigit = numeral := by
    rw [List.take_append, List.take_of_length_le short, takeWhile_digits all (ends.take _)]
  unfold readNumber?
  rw [found]
  split
  next none => exact absurd rfl some
  next => rw [List.drop_left]

theorem skipWhiteSpace_append {numeral : List Char} (some : numeral ≠ [])
    (all : ∀ c ∈ numeral, c.isDigit = true) : skipWhiteSpace (numeral ++ rest) = numeral ++ rest := by
  cases numeral with
  | nil => exact absurd rfl some
  | cons c numeral => exact skipWhiteSpace_cons (isWhiteSpace_of_isDigit (all c List.mem_cons_self)) _

theorem digits_ne_nil (width n : Nat) : digits (width + 1) n ≠ [] :=
  List.append_ne_nil_of_right_ne_nil _ (List.cons_ne_nil _ _)

/-- A part of a date or of a clock is read from its two digits. -/
theorem readPart?_digits (small : n < 100) (ends : EndsNumeral rest) :
    readPart? (digits 2 n ++ rest) = some (n, rest) := by
  have all : ∀ c ∈ digits 2 n, c.isDigit = true := fun _ member => isDigit_of_mem_digits member
  have read := readNumber?_append (digits_ne_nil 1 n) all (Nat.le_of_eq (length_digits 2 n)) ends
  rw [ofDigitChars_digits small] at read
  rw [readPart?, skipWhiteSpace_append (digits_ne_nil 1 n) all, read]

theorem readMark?_cons {c : Char} {marks : List Char} (known : c ∈ marks) (rest : List Char) :
    readMark? marks (c :: rest) = some rest := if_pos known

theorem readMark?_skip {c : Char} {marks : List Char} (solid : isWhiteSpace c = false) (known : c ∈ marks)
    (rest : List Char) : readMark? marks (skipWhiteSpace (c :: rest)) = some rest := by
  rw [skipWhiteSpace_cons solid, readMark?_cons known]

/-- Digits of a fraction that are left out are zeros. -/
theorem readFraction?_digits (places : width + 1 ≤ 9) (small : n < 10 ^ (width + 1)) :
    readFraction? ('.' :: (digits (width + 1) n ++ ['Z'])) = some (10 ^ (9 - (width + 1)) * n, ['Z']) := by
  have all : ∀ c ∈ digits (width + 1) n, c.isDigit = true := fun _ member => isDigit_of_mem_digits member
  have ends : EndsNumeral ['Z'] := .cons (by decide) []
  have padded : ((digits (width + 1) n).take 9).rightpad 9 '0' =
      digits (width + 1) n ++ List.replicate (9 - (width + 1)) '0' := by
    rw [List.take_of_length_le (Nat.le_trans (Nat.le_of_eq (length_digits _ n)) places), List.rightpad, length_digits]
  unfold readFraction?
  simp only [takeWhile_digits all ends, dropWhile_digits all ends]
  split
  next none => exact absurd none (digits_ne_nil width n)
  next => rw [padded, Nat.ofDigitChars_append, ofDigitChars_digits small, Nat.ofDigitChars_replicate_zero]

theorem readFraction?_fraction (small : n < 1000000000) :
    readFraction? (fraction n ++ ['Z']) = some (n, ['Z']) := by
  unfold fraction
  split_ifs with none thousandths millionths
  case pos => rw [none]; rfl
  case pos =>
    have whole : 10 ^ (9 - 3) * (n / 1000000) = n := by omega
    rw [List.cons_append, readFraction?_digits (by decide) (by omega), whole]
  case pos =>
    have whole : 10 ^ (9 - 6) * (n / 1000) = n := by omega
    rw [List.cons_append, readFraction?_digits (by decide) (by omega), whole]
  case neg =>
    have whole : 10 ^ (9 - 9) * n = n := by omega
    rw [List.cons_append, readFraction?_digits (by decide) (by omega), whole]

/-- A fraction or the letter after it ends the numeral of the seconds. -/
theorem endsNumeral_fraction (n : Nat) : EndsNumeral (fraction n ++ ['Z']) := by
  unfold Timestamp.fraction
  split_ifs <;> exact .cons (by decide) _

/-- The letter of universal time stands for no difference to it. -/
theorem readAhead?_universal : readAhead? ['Z'] = some (0, []) := rfl

/-- The numeral of a year with a sign, which has at least four digits. -/
theorem readNumber?_leftpad (year : Int) (ends : EndsNumeral rest) :
    let numeral := (Nat.toDigits 10 year.natAbs).leftpad 4 '0' ++ rest
    readNumber? numeral.length numeral = some (year.natAbs, rest) := by
  intro numeral
  have some : (Nat.toDigits 10 year.natAbs).leftpad 4 '0' ≠ [] :=
    List.append_ne_nil_of_right_ne_nil _ Nat.toDigits_ne_nil
  have all : ∀ c ∈ (Nat.toDigits 10 year.natAbs).leftpad 4 '0', c.isDigit = true := by
    intro c member
    rcases List.mem_append.mp member with zero | digit
    · rw [List.eq_of_mem_replicate zero]
      rfl
    · exact isDigit_of_mem_toDigits digit
  have short : ((Nat.toDigits 10 year.natAbs).leftpad 4 '0').length ≤ numeral.length := by
    rw [List.length_append]
    exact Nat.le_add_right _ _
  rw [readNumber?_append some all short ends, List.leftpad, Nat.ofDigitChars_append,
    Nat.ofDigitChars_replicate_zero, Nat.mul_zero, Nat.ofDigitChars_ten_toDigits]

/-- A year of four digits is read as such: digits are not taken for a sign. -/
theorem readYear?_digits (small : n < 10000) (ends : EndsNumeral rest) :
    readYear? (digits 4 n ++ rest) = some ((n : Int), rest) := by
  have all : ∀ c ∈ digits 4 n, c.isDigit = true := fun _ member => isDigit_of_mem_digits member
  have read := readNumber?_append (digits_ne_nil 3 n) all (Nat.le_of_eq (length_digits 4 n)) ends
  rw [ofDigitChars_digits small] at read
  have unsigned {c : Char} {more : List Char} (other : c.isDigit = false) : digits 4 n ++ rest ≠ c :: more := by
    intro same
    obtain ⟨first, others, parts⟩ := List.exists_cons_of_ne_nil (digits_ne_nil 3 n)
    rw [parts, List.cons_append] at same
    exact ne_of_isDigit (all first (parts ▸ List.mem_cons_self)) other (List.head_eq_of_cons_eq same)
  unfold readYear?
  rw [skipWhiteSpace_append (digits_ne_nil 3 n) all]
  split
  next same => exact absurd same (unsigned (by decide))
  next same => exact absurd same (unsigned (by decide))
  next => rw [read, Option.map_some]

theorem readYear?_yearChars (year : Int) (ends : EndsNumeral rest) :
    readYear? (yearChars year ++ rest) = some (year, rest) := by
  have read := readNumber?_leftpad year ends
  unfold yearChars
  split_ifs with range negative
  case pos =>
    rw [readYear?_digits (by omega) ends, Int.toNat_of_nonneg range.1]
  case pos =>
    have value : -(year.natAbs : Int) = year := by omega
    rw [List.cons_append, readYear?, skipWhiteSpace_cons (by decide)]
    simp only [read, Option.map_some, value]
  case neg =>
    have value : (year.natAbs : Int) = year := by omega
    rw [List.cons_append, readYear?, skipWhiteSpace_cons (by decide)]
    simp only [read, Option.map_some, value]

end Digits

theorem ofParts?_self (t : Timestamp) : ofParts? t.date t.hour t.minute t.second t.nanosecond = some t :=
  dif_pos ⟨t.inHours, t.inMinutes, t.inSeconds, t.inNanoseconds⟩

/-- A clock that is not ahead shows universal time. -/
theorem fromClock?_zero (t : Timestamp) : t.fromClock? 0 = some t := by
  have hours := t.inHours
  have minutes := t.inMinutes
  have early : ¬ 60 * (t.hour : Int) + t.minute - 0 < 0 := by omega
  have late : 60 * (t.hour : Int) + t.minute - 0 < 1440 := by omega
  have hour : ((60 * (t.hour : Int) + t.minute - 0) % 1440 / 60).toNat = t.hour := by omega
  have minute : ((60 * (t.hour : Int) + t.minute - 0) % 60).toNat = t.minute := by omega
  unfold fromClock?
  simp only [if_neg early, if_pos late, hour, minute, Option.bind_eq_bind, Option.bind_some]
  exact t.ofParts?_self

/-- An instant is read back from its text. -/
theorem parse?_text (t : Timestamp) : parse? t.text = some t := by
  have month : t.date.month < 100 := Nat.lt_of_le_of_lt t.date.inMonths.2 (by decide)
  have day : t.date.day < 100 :=
    Nat.lt_of_le_of_lt (Nat.le_trans t.date.inDays.2 (daysInMonth_le _ _)) (by decide)
  have hour : t.hour < 100 := Nat.lt_trans t.inHours (by decide)
  have minute : t.minute < 100 := Nat.lt_trans t.inMinutes (by decide)
  have second : t.second < 100 := Nat.lt_of_le_of_lt t.inSeconds (by decide)
  have nothing : skipWhiteSpace [] = [] := rfl
  rw [text, parse?, String.toList_ofList]
  simp only [List.append_assoc, List.cons_append]
  -- one step for each part and one for each mark between two parts
  refine Option.bind_eq_some_iff.mpr ⟨_, readYear?_yearChars _ (.cons (by decide) _), ?_⟩
  refine Option.bind_eq_some_iff.mpr ⟨_, readMark?_skip (by decide) (by decide) _, ?_⟩
  refine Option.bind_eq_some_iff.mpr ⟨_, readPart?_digits month (.cons (by decide) _), ?_⟩
  refine Option.bind_eq_some_iff.mpr ⟨_, readMark?_skip (by decide) (by decide) _, ?_⟩
  refine Option.bind_eq_some_iff.mpr ⟨_, readPart?_digits day (.cons (by decide) _), ?_⟩
  refine Option.bind_eq_some_iff.mpr ⟨_, readMark?_cons (by decide) _, ?_⟩
  refine Option.bind_eq_some_iff.mpr ⟨_, readPart?_digits hour (.cons (by decide) _), ?_⟩
  refine Option.bind_eq_some_iff.mpr ⟨_, readMark?_skip (by decide) (by decide) _, ?_⟩
  refine Option.bind_eq_some_iff.mpr ⟨_, readPart?_digits minute (.cons (by decide) _), ?_⟩
  refine Option.bind_eq_some_iff.mpr ⟨_, readMark?_skip (by decide) (by decide) _, ?_⟩
  refine Option.bind_eq_some_iff.mpr ⟨_, readPart?_digits second (endsNumeral_fraction _), ?_⟩
  refine Option.bind_eq_some_iff.mpr ⟨_, readFraction?_fraction t.inNanoseconds, ?_⟩
  refine Option.bind_eq_some_iff.mpr ⟨_, readAhead?_universal, ?_⟩
  refine (if_pos nothing).trans (Option.bind_eq_some_iff.mpr ⟨_, t.date.ofParts?_self, ?_⟩)
  exact Option.bind_eq_some_iff.mpr ⟨_, t.ofParts?_self, t.fromClock?_zero⟩

end Timestamp

end Bourse
