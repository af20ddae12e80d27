import Bourse.Side
import Bourse.Status
import Mathlib.Data.List.TakeDrop

namespace Bourse

/-- What is looked up in a table of names is read from its own name and from no other text. -/
theorem parse_by_name {α : Type} (parse : String → Except UnknownName α) (all : List α) (text : α → String)
    (looked : ∀ {found value}, parse found = .ok value → all.find? (fun value => text value == found) = some value)
    (named : ∀ value, parse (text value) = .ok value) {found : String} {value : α} :
    parse found = .ok value ↔ found = text value := by
  constructor
  · intro read
    have same : text value = found := by simpa using List.find?_some (looked read)
    exact same.symm
  · rintro rfl
    exact named value

theorem Side.parse_eq_ok {found : String} {side : Side} : parse found = .ok side ↔ found = side.text :=
  parse_by_name parse all text (by unfold parse; grind) fun side => by cases side <;> rfl

theorem Status.parse_eq_ok {found : String} {status : Status} : parse found = .ok status ↔ found = status.text :=
  parse_by_name parse all text (by unfold parse; grind) fun status => by cases status <;> rfl

theorem Currency.parse_eq_ok {found : String} {currency : Currency} :
    parse found = .ok currency ↔ found = currency.code :=
  parse_by_name parse all code (by unfold parse; grind) fun currency => by cases currency <;> rfl

theorem Currency.slash_notMem_code (currency : Currency) : '/' ∉ currency.code.toList := by
  cases currency <;> decide

namespace Pair

theorem find_eq_ok {base quote : Currency} {pair : Pair} :
    find base quote = .ok pair ↔ pair ∈ listed ∧ pair = ⟨base, quote⟩ := by
  unfold find
  constructor
  · intro found
    split at found
    next member =>
      cases found
      exact ⟨member, rfl⟩
    next => cases found
  · rintro ⟨member, rfl⟩
    exact if_pos member

theorem find_eq_error {base quote : Currency} {name : UnknownName} (failed : find base quote = .error name) :
    name = .pair (text ⟨base, quote⟩) := by
  unfold find at failed
  split at failed
  · cases failed
  · cases failed
    rfl

/-- Neither code has a slash in it, so that the one between them is the first. -/
theorem text_span (pair : Pair) :
    pair.text.toList.span (· != '/') = (pair.base.code.toList, '/' :: pair.quote.code.toList) := by
  have before : ∀ char ∈ pair.base.code.toList, (char != '/') = true := by
    intro char member
    have other : char ≠ '/' := fun same => pair.base.slash_notMem_code (same ▸ member)
    simpa using other
  have parts : pair.text.toList = pair.base.code.toList ++ '/' :: pair.quote.code.toList := by
    simp [text]
  rw [List.span_eq_takeWhile_dropWhile, parts, List.takeWhile_append_of_pos before,
    List.dropWhile_append_of_pos before]
  simp

/-- A text that is cut at its first slash is what stands before it and what stands after it. -/
theorem text_of_span {found : String} {base quote : List Char} {slash : Char}
    (cut : found.toList.span (· != '/') = (base, slash :: quote)) :
    found = String.ofList base ++ "/" ++ String.ofList quote := by
  rw [List.span_eq_takeWhile_dropWhile, Prod.mk.injEq] at cut
  obtain ⟨rfl, rest⟩ := cut
  have first := List.head?_dropWhile_not (· != '/') found.toList
  rw [rest] at first
  obtain rfl : slash = '/' := by simpa using first
  rw [← String.toList_inj, String.toList_append, String.toList_append, String.toList_ofList, String.toList_ofList]
  have whole := List.takeWhile_append_dropWhile (p := (· != '/')) (l := found.toList)
  rw [rest] at whole
  simpa using whole.symm

/-- The listed pairs, and no others, are read, each from the text of its two codes. -/
theorem parse_eq_ok {found : String} {pair : Pair} : parse found = .ok pair ↔ pair ∈ listed ∧ found = pair.text := by
  constructor
  · intro read
    unfold parse at read
    split at read
    next base slash quote cut =>
      split at read
      next baseRead quoteRead =>
        obtain ⟨member, rfl⟩ := find_eq_ok.mp read
        refine ⟨member, ?_⟩
        rw [text_of_span cut, Currency.parse_eq_ok.mp baseRead, Currency.parse_eq_ok.mp quoteRead]
        rfl
      next => cases read
    next => cases read
  · rintro ⟨member, rfl⟩
    have base : Currency.parse (String.ofList pair.base.code.toList) = .ok pair.base := by
      rw [String.ofList_toList]
      exact Currency.parse_eq_ok.mpr rfl
    have quote : Currency.parse (String.ofList pair.quote.code.toList) = .ok pair.quote := by
      rw [String.ofList_toList]
      exact Currency.parse_eq_ok.mpr rfl
    unfold parse
    simp only [text_span, base, quote]
    exact find_eq_ok.mpr ⟨member, rfl⟩

theorem mem_listed_of_parse {found : String} {pair : Pair} (read : parse found = .ok pair) : pair ∈ listed :=
  (parse_eq_ok.mp read).1

/-- A text that names no listed pair is reported as it is. -/
theorem parse_eq_error {found : String} {name : UnknownName} (failed : parse found = .error name) :
    name = .pair found := by
  unfold parse at failed
  split at failed
  next base slash quote cut =>
    split at failed
    next baseRead quoteRead =>
      -- Both codes are known, and the text is put together again from them.
      rw [find_eq_error failed, text_of_span cut, Currency.parse_eq_ok.mp baseRead,
        Currency.parse_eq_ok.mp quoteRead]
      rfl
    next =>
      cases failed
      rfl
  next =>
    cases failed
    rfl

end Pair

end Bourse
