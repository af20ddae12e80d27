import Bourse.JsonReader
import Bourse.Proofs.Numerals

namespace Bourse

/-- The numeral of a whole number: a minus sign if it is negative, and the digits of its magnitude. -/
theorem toList_toString_int (n : Int) :
    (toString n).toList = if n < 0 then '-' :: Nat.toDigits 10 n.natAbs else Nat.toDigits 10 n.natAbs := by
  have shown : toString n = n.repr := rfl
  rw [shown, Int.repr_eq_if]
  by_cases negative : n < 0
  · have magnitude : (-n).toNat = n.natAbs := by omega
    have minus : "-".toList = ['-'] := rfl
    rw [if_pos negative, if_neg (Int.not_le.mpr negative), magnitude, String.toList_append, minus,
      Nat.repr_eq_ofList_toDigits, String.toList_ofList, List.singleton_append]
  · have magnitude : n.toNat = n.natAbs := by omega
    rw [if_neg negative, if_pos (Int.not_lt.mp negative), magnitude, Nat.repr_eq_ofList_toDigits,
      String.toList_ofList]

namespace Json

section Numbers

/-- The rest of a text where a number has come to its end. -/
structure EndsNumber (rest : List Char) : Prop where
  numeral : EndsNumeral rest
  point : ∀ after, rest ≠ '.' :: after
  power : ∀ c after, rest = c :: after → ¬(c = 'e' ∨ c = 'E')

variable {rest : List Char}

theorem EndsNumber.nil : EndsNumber [] := ⟨.nil, nofun, nofun⟩

theorem EndsNumber.cons {c : Char} (mark : c ∈ [',', ']', '\x7d']) (rest : List Char) : EndsNumber (c :: rest) := by
  have plain : c.isDigit = false ∧ c ≠ '.' ∧ ¬(c = 'e' ∨ c = 'E') := by
    simp only [List.mem_cons, List.not_mem_nil, or_false] at mark
    rcases mark with rfl | rfl | rfl <;> decide
  obtain ⟨digit, point, power⟩ := plain
  refine ⟨.cons digit rest, fun after same => point (List.cons.inj same).1, fun first after same => ?_⟩
  exact (List.cons.inj same).1 ▸ power

theorem readFraction_none (point : ∀ after, rest ≠ '.' :: after) : readFraction rest = some (none, rest) := by
  cases rest with
  | nil => rfl
  | cons c rest =>
    unfold readFraction
    split
    next after same => exact absurd same (point after)
    next => rfl

theorem readExponent_none (power : ∀ c after, rest = c :: after → ¬(c = 'e' ∨ c = 'E')) :
    readExponent rest = some (none, rest) := by
  cases rest with
  | nil => rfl
  | cons c rest => exact if_neg (power c rest rfl)

theorem readSign_toDigits (n : Nat) (rest : List Char) :
    readSign (Nat.toDigits 10 n ++ rest) = (false, Nat.toDigits 10 n ++ rest) := by
  obtain ⟨c, digits, same, digit⟩ := toDigits_eq_cons n
  have minus := ne_of_isDigit digit (by decide : '-'.isDigit = false)
  have plus := ne_of_isDigit digit (by decide : '+'.isDigit = false)
  rw [same, List.cons_append]
  simp [readSign, minus, plus]

theorem readSign_int (n : Int) (rest : List Char) :
    readSign ((toString n).toList ++ rest) = (decide (n < 0), Nat.toDigits 10 n.natAbs ++ rest) := by
  rw [toList_toString_int]
  by_cases negative : n < 0
  · rw [if_pos negative, decide_eq_true negative]
    rfl
  · rw [if_neg negative, decide_eq_false negative, readSign_toDigits]

theorem signed_natAbs (n : Int) : signed (decide (n < 0)) n.natAbs = n := by
  unfold signed
  by_cases negative : n < 0
  · rw [decide_eq_true negative, if_pos rfl]
    omega
  · rw [decide_eq_false negative, if_neg (by decide)]
    omega

/-- A power of ten is read as it is written after its letter. -/
theorem readExponent_int (n : Int) (ends : EndsNumeral rest) :
    readExponent ('e' :: ((toString n).toList ++ rest)) = some (some n, rest) := by
  obtain ⟨c, digits, same, digit⟩ := toDigits_eq_cons n.natAbs
  have cut : (readSign ((toString n).toList ++ rest)).2.span Char.isDigit = (c :: digits, rest) := by
    rw [readSign_int, ← same]
    exact span_digits (fun _ member => isDigit_of_mem_toDigits member) ends
  rw [readExponent, if_pos (Or.inl rfl), cut]
  simp only
  rw [← same, Nat.ofDigitChars_ten_toDigits, readSign_int, signed_natAbs]

/-- The digits of a number are read to their end, and what follows them says which number it is. -/
theorem readMagnitude_toDigits (negative : Bool) (n : Nat) (ends : EndsNumeral rest) :
    readMagnitude negative (Nat.toDigits 10 n ++ rest) = do
      let (fraction, rest) ← readFraction rest
      let (exponent, rest) ← readExponent rest
      let whole := Nat.ofDigitChars 10 (Nat.toDigits 10 n ++ fraction.getD []) 0
      if fraction = none ∧ exponent = none ∧ (negative = false ∨ whole ≠ 0) then
        return (integer (signed negative whole), rest)
      else return (decimal (signed negative whole) (exponent.getD 0 - (fraction.getD []).length), rest) := by
  have cut : (Nat.toDigits 10 n ++ rest).span Char.isDigit = (Nat.toDigits 10 n, rest) :=
    span_digits (fun _ member => isDigit_of_mem_toDigits member) ends
  unfold readMagnitude
  rw [cut]
  split
  next none => exact absurd (congrArg Prod.fst none) Nat.toDigits_ne_nil
  next zero => exact absurd (congrArg Prod.fst zero) (toDigits_ne_zero_cons n _ _)
  next same =>
    cases same
    rfl

theorem readNumber_int (n : Int) (rest : List Char) :
    readNumber ((toString n).toList ++ rest) =
      readMagnitude (decide (n < 0)) (Nat.toDigits 10 n.natAbs ++ rest) := by
  rw [toList_toString_int]
  by_cases negative : n < 0
  · rw [if_pos negative, decide_eq_true negative]
    rfl
  · obtain ⟨c, digits, same, digit⟩ := toDigits_eq_cons n.natAbs
    have minus := ne_of_isDigit digit (by decide : '-'.isDigit = false)
    rw [if_neg negative, decide_eq_false negative, same, List.cons_append]
    simp [readNumber, minus]

theorem readNumber_integer (n : Int) (ends : EndsNumber rest) :
    readNumber ((toString n).toList ++ rest) = some (integer n, rest) := by
  have shown : decide (n < 0) = false ∨ n.natAbs ≠ 0 := by
    by_cases negative : n < 0
    · exact .inr (by omega)
    · exact .inl (decide_eq_false negative)
  rw [readNumber_int, readMagnitude_toDigits _ _ ends.numeral, readFraction_none ends.point]
  simp only [Option.bind_eq_bind, Option.bind_some, readExponent_none ends.power, Option.getD_none, List.append_nil,
    Nat.ofDigitChars_ten_toDigits, signed_natAbs]
  exact if_pos ⟨trivial, trivial, shown⟩

theorem readNumber_decimal (mantissa exponent : Int) (ends : EndsNumber rest) :
    readNumber ((toString mantissa).toList ++ 'e' :: ((toString exponent).toList ++ rest)) =
      some (decimal mantissa exponent, rest) := by
  rw [readNumber_int, readMagnitude_toDigits _ _ (.cons (by decide) _), readFraction_none (by simp)]
  simp only [Option.bind_eq_bind, Option.bind_some, readExponent_int exponent ends.numeral, Option.getD_none,
    List.append_nil, Nat.ofDigitChars_ten_toDigits, signed_natAbs]
  simp

end Numbers

section Texts

theorem hexDigit?_digitChar : ∀ n < 16, hexDigit? (Nat.digitChar n) = some n := by decide

/-- A control character has two digits in the notation with sixteen of them. -/
theorem hexUnit?_of_lt {n : Nat} (small : n < 256) :
    hexUnit? '0' '0' (Nat.digitChar (n / 16)) (Nat.digitChar (n % 16)) = some n := by
  have zero : hexDigit? '0' = some 0 := rfl
  have whole : n / 16 * 16 + n % 16 = n := by omega
  simp only [hexUnit?, zero, hexDigit?_digitChar (n / 16) (by omega), hexDigit?_digitChar (n % 16) (by omega)]
  simp [whole]

/-- A backslash and a letter are read as the character that they stand for. -/
theorem readString_unescape {letter c : Char} (known : unescape? letter = some c) (cs : List Char) :
    readString ('\\' :: letter :: cs) = (readString cs).map fun found => (c :: found.1, found.2) := by
  have other : letter ≠ 'u' := by
    rintro rfl
    cases known
  rw [readString, known, Option.map_eq_bind]
  · rfl
  · exact fun _ _ _ _ _ same => absurd same other

theorem readString_control {c : Char} (control : c.toNat < 32) (cs : List Char) :
    readString ('\\' :: 'u' :: '0' :: '0' :: Nat.digitChar (c.toNat / 16) :: Nat.digitChar (c.toNat % 16) :: cs) =
      (readString cs).map fun found => (c :: found.1, found.2) := by
  have high : ¬(isHighSurrogate c.toNat = true) := by simp [isHighSurrogate]; omega
  have low : ¬(isLowSurrogate c.toNat = true) := by simp [isLowSurrogate]; omega
  rw [readString, hexUnit?_of_lt (by omega), Option.bind_eq_bind, Option.bind_some, if_neg high, if_neg low,
    Char.ofNat_toNat, Option.map_eq_bind]
  rfl

theorem readString_plain {c : Char} (quote : c ≠ '"') (backslash : c ≠ '\\') (printable : ¬ c.toNat < 32)
    (cs : List Char) : readString (c :: cs) = (readString cs).map fun found => (c :: found.1, found.2) := by
  rw [readString, if_neg printable, Option.map_eq_bind]
  · rfl
  · exact quote
  · exact fun _ _ _ _ _ same => absurd same backslash
  · exact fun _ _ same => absurd same backslash

/-- Whatever a character is written as is read as that character. -/
theorem readString_escape (c : Char) (cs : List Char) :
    readString (escape c ++ cs) = (readString cs).map fun found => (c :: found.1, found.2) := by
  unfold escape
  split_ifs with quote backslash backspace feed newline back tab control
  case pos => subst quote; exact readString_unescape rfl cs
  case pos => subst backslash; exact readString_unescape rfl cs
  case pos => subst backspace; exact readString_unescape rfl cs
  case pos => subst feed; exact readString_unescape rfl cs
  case pos => subst newline; exact readString_unescape rfl cs
  case pos => subst back; exact readString_unescape rfl cs
  case pos => subst tab; exact readString_unescape rfl cs
  case pos => exact readString_control control cs
  case neg => exact readString_plain quote backslash control cs

/-- A text is read up to the quote that closes it. -/
theorem readString_quoted (text rest : List Char) :
    readString (text.flatMap escape ++ '"' :: rest) = some (text, rest) := by
  induction text with
  | nil => rw [List.flatMap_nil, List.nil_append, readString]
  | cons c text ih =>
    rw [List.flatMap_cons, List.append_assoc, readString_escape, ih]
    rfl

end Texts

section Values

theorem skipBlanks_cons {c : Char} (solid : isBlank c = false) (rest : List Char) :
    skipBlanks (c :: rest) = c :: rest :=
  List.dropWhile_cons_of_neg (by simpa using solid)

theorem toString_int_eq_cons (n : Int) :
    ∃ c rest, (toString n).toList = c :: rest ∧ (c.isDigit = true ∨ c = '-') := by
  rw [toList_toString_int]
  split
  · exact ⟨_, _, rfl, .inr rfl⟩
  · obtain ⟨c, digits, same, digit⟩ := toDigits_eq_cons n.natAbs
    exact ⟨c, digits, same, .inl digit⟩

theorem solid_of_numeral {c : Char} (numeral : c.isDigit = true ∨ c = '-') : isBlank c = false ∧ c ≠ ']' := by
  rcases numeral with digit | rfl
  · have other {mark : Char} (none : mark.isDigit = false) : c ≠ mark := ne_of_isDigit digit none
    refine ⟨?_, other (by decide)⟩
    simp [isBlank, other (by decide : ' '.isDigit = false), other (by decide : '\n'.isDigit = false),
      other (by decide : '\r'.isDigit = false), other (by decide : '\t'.isDigit = false)]
  · decide

/-- Every value starts with a character that is no blank and closes no array. -/
theorem chars_eq_cons (value : Json) : ∃ c rest, value.chars = c :: rest ∧ isBlank c = false ∧ c ≠ ']' := by
  cases value with
  | null => exact ⟨_, _, rfl, by decide⟩
  | bool value => cases value <;> exact ⟨_, _, rfl, by decide⟩
  | integer value =>
    obtain ⟨c, rest, same, numeral⟩ := toString_int_eq_cons value
    exact ⟨c, rest, by rw [chars, same], solid_of_numeral numeral⟩
  | decimal mantissa exponent =>
    obtain ⟨c, rest, same, numeral⟩ := toString_int_eq_cons mantissa
    exact ⟨c, _, by rw [chars, same, List.cons_append], solid_of_numeral numeral⟩
  | string text => exact ⟨_, _, by rw [chars, quoted], by decide⟩
  | array items => cases items <;> exact ⟨_, _, by rw [chars], by decide⟩
  | object fields => rcases fields with _ | ⟨⟨name, value⟩, rest⟩ <;> exact ⟨_, _, by rw [chars], by decide⟩

/-- What starts like a number is read as one. -/
theorem readValue_number {c : Char} (numeral : c.isDigit = true ∨ c = '-') (bound : Nat) (rest : List Char) :
    readValue (bound + 1) (c :: rest) = readNumber (c :: rest) := by
  have differs {mark : Char} {found : List Char} (apart : mark.isDigit = false ∧ '-' ≠ mark)
      (same : c :: rest = mark :: found) : False := by
    have first : c = mark := (List.cons.inj same).1
    rcases numeral with digit | rfl
    · exact ne_of_isDigit digit apart.1 first
    · exact apart.2 first
  rw [readValue, skipBlanks_cons (solid_of_numeral numeral).1]
  split
  case h_7 => rfl
  all_goals next same => exact (differs (by decide) same).elim

theorem readValue_array {bound : Nat} {c : Char} {cs rest : List Char} {items : List Json}
    (solid : isBlank c = false) (more : c ≠ ']') (read : readItems bound (c :: cs) = some (items, rest)) :
    readValue (bound + 1) ('[' :: c :: cs) = some (array items, rest) := by
  rw [readValue, skipBlanks_cons (by decide)]
  simp only [skipBlanks_cons solid]
  split
  next same => exact absurd (List.cons.inj same).1 more
  next => rw [read]; rfl

theorem readValue_object {bound : Nat} {cs rest : List Char} {fields : List (String × Json)}
    (read : readFields bound ('"' :: cs) = some (fields, rest)) :
    readValue (bound + 1) ('\x7b' :: '"' :: cs) = some (object fields, rest) := by
  rw [readValue, skipBlanks_cons (by decide)]
  simp only [skipBlanks_cons (by decide : isBlank '"' = false)]
  split
  next same => exact absurd (List.cons.inj same).1 (by decide)
  next => rw [read]; rfl

theorem length_chars_pos (value : Json) : 0 < value.chars.length := by
  obtain ⟨c, rest, same, _⟩ := chars_eq_cons value
  rw [same]
  exact Nat.succ_pos _

theorem endsNumber_moreItems (items : List Json) (rest : List Char) : EndsNumber (moreItems items ++ rest) := by
  cases items with
  | nil => exact .cons (by decide) _
  | cons item items => exact .cons (by decide) _

theorem endsNumber_moreFields (fields : List (String × Json)) (rest : List Char) :
    EndsNumber (moreFields fields ++ rest) := by
  cases fields with
  | nil => exact .cons (by decide) _
  | cons field fields => exact .cons (by decide) _

/-- With this bound, what is no longer than the bound is read as it was written, and what follows it is left over. -/
structure Reads (bound : Nat) : Prop where
  value : ∀ (value : Json) {rest : List Char}, value.chars.length ≤ bound → EndsNumber rest →
    readValue bound (value.chars ++ rest) = some (value, rest)
  items : ∀ (item : Json) (items : List Json) (rest : List Char),
    item.chars.length + (moreItems items).length ≤ bound →
      readItems bound (item.chars ++ (moreItems items ++ rest)) = some (item :: items, rest)
  fields : ∀ (name : String) (value : Json) (fields : List (String × Json)) (rest : List Char),
    (quoted name).length + 1 + value.chars.length + (moreFields fields).length ≤ bound →
      readFields bound (quoted name ++ ':' :: (value.chars ++ (moreFields fields ++ rest))) =
        some ((name, value) :: fields, rest)

variable {bound : Nat}

theorem Reads.value_succ (reads : Reads bound) (value : Json) {rest : List Char}
    (enough : value.chars.length ≤ bound + 1) (ends : EndsNumber rest) :
    readValue (bound + 1) (value.chars ++ rest) = some (value, rest) := by
  match value with
  | null => rw [chars, List.cons_append, readValue, skipBlanks_cons (by decide)]; rfl
  | bool true => rw [chars, List.cons_append, readValue, skipBlanks_cons (by decide)]; rfl
  | bool false => rw [chars, List.cons_append, readValue, skipBlanks_cons (by decide)]; rfl
  | integer n =>
    obtain ⟨c, digits, same, numeral⟩ := toString_int_eq_cons n
    have read := readNumber_integer n ends
    rw [same, List.cons_append] at read
    rw [chars, same, List.cons_append, readValue_number numeral, read]
  | decimal mantissa exponent =>
    obtain ⟨c, digits, same, numeral⟩ := toString_int_eq_cons mantissa
    have read := readNumber_decimal mantissa exponent ends
    rw [same, List.cons_append] at read
    rw [chars, same, List.append_assoc, List.cons_append, List.cons_append, readValue_number numeral, read]
  | string text =>
    rw [chars, quoted, List.cons_append, List.append_assoc, List.singleton_append, readValue,
      skipBlanks_cons (by decide)]
    simp only [readString_quoted, Option.bind_eq_bind, Option.bind_some, String.ofList_toList]
    rfl
  | array [] => rw [chars, List.cons_append, readValue, skipBlanks_cons (by decide)]; rfl
  | array (item :: items) =>
    rw [chars, List.length_cons, List.length_append] at enough
    obtain ⟨c, cs, same, solid, more⟩ := chars_eq_cons item
    have read := reads.items item items rest (by omega)
    rw [chars, List.cons_append, List.append_assoc]
    rw [same, List.cons_append] at read ⊢
    exact readValue_array solid more read
  | object [] => rw [chars, List.cons_append, readValue, skipBlanks_cons (by decide)]; rfl
  | object ((name, value) :: fields) =>
    simp only [chars, List.length_cons, List.length_append] at enough
    have read := reads.fields name value fields rest (by omega)
    rw [quoted, List.cons_append] at read
    rw [chars, quoted]
    simp only [List.cons_append, List.append_assoc] at read ⊢
    exact readValue_object read

theorem Reads.items_succ (reads : Reads bound) (item : Json) (items : List Json) (rest : List Char)
    (enough : item.chars.length + (moreItems items).length ≤ bound + 1) :
    readItems (bound + 1) (item.chars ++ (moreItems items ++ rest)) = some (item :: items, rest) := by
  have first : item.chars.length ≤ bound := by
    have more : 0 < (moreItems items).length := by cases items <;> exact Nat.succ_pos _
    omega
  rw [readItems, reads.value item first (endsNumber_moreItems items rest)]
  match items with
  | [] => rfl
  | next :: items =>
    rw [moreItems, List.length_cons, List.length_append] at enough
    have some : 0 < item.chars.length := item.length_chars_pos
    have later := reads.items next items rest (by omega)
    rw [moreItems, List.cons_append, List.append_assoc]
    simp only [Option.bind_eq_bind, Option.bind_some, skipBlanks_cons (by decide : isBlank ',' = false), later]
    rfl

theorem Reads.fields_succ (reads : Reads bound) (name : String) (value : Json) (fields : List (String × Json))
    (rest : List Char)
    (enough : (quoted name).length + 1 + value.chars.length + (moreFields fields).length ≤ bound + 1) :
    readFields (bound + 1) (quoted name ++ ':' :: (value.chars ++ (moreFields fields ++ rest))) =
      some ((name, value) :: fields, rest) := by
  have read := reads.value value (by omega) (endsNumber_moreFields fields rest)
  rw [readFields, quoted, List.cons_append, List.append_assoc, List.singleton_append, skipBlanks_cons (by decide)]
  simp only [readString_quoted, Option.bind_eq_bind, Option.bind_some, String.ofList_toList,
    skipBlanks_cons (by decide : isBlank ':' = false), read]
  match fields with
  | [] => rfl
  | (other, next) :: fields =>
    simp only [moreFields, List.length_cons, List.length_append] at enough
    have later := reads.fields other next fields rest (by omega)
    rw [moreFields]
    simp only [List.cons_append, List.append_assoc, skipBlanks_cons (by decide : isBlank ',' = false), later,
      Option.bind_some]
    rfl

/-- Each part of a value is shorter than the value by what stands around it, so that the bound suffices for it. -/
theorem reads_chars (bound : Nat) : Reads bound := by
  induction bound with
  | zero =>
    refine ⟨fun value _ enough => ?_, fun item _ _ enough => ?_, fun _ _ _ _ enough => ?_⟩
    · exact absurd enough (Nat.not_le.mpr value.length_chars_pos)
    · have some := item.length_chars_pos
      omega
    · omega
  | succ bound ih => exact ⟨ih.value_succ, ih.items_succ, ih.fields_succ⟩

/-- Every value is read from the text that it is written as. -/
theorem parse_render (value : Json) : parse value.render = some value := by
  have read := (reads_chars (2 * value.chars.length + 2)).value value (by omega) .nil
  rw [List.append_nil] at read
  rw [parse, render, String.toList_ofList, read]
  rfl

end Values

end Json

end Bourse
