import StreetConsole.Filter.Builtin
import StreetConsole.Proofs.Comparison

/-!
# Integers that are too long to read

Integers of more than `maxDigits` digits are not read. Two places of a line may hold one: the right
side of a comparison and the argument of `head` and `tail`. `Condition.Overlong` and
`Filter.OverlongCount` say how such a text is spelled, and these spellings are exactly what keeps a
condition or a count from being read (`Condition.parse_eq_error_iff`,
`Filter.leadingInt_eq_error_iff`).

Both are seen by the parts of the spelling, which are found again in the text: those of a
`Condition.Comparison`, and those of a `Filter.LeadingNumeral`.
-/

namespace StreetConsole

open Text

theorem Text.length_filterMap_digit? {cs : List Char} (h : ∀ c ∈ cs, isDigit c = true) :
    (cs.filterMap digit?).length = cs.length := by
  rw [List.length_filterMap_eq_countP, List.countP_eq_length]
  exact h

/-! ## Comparisons -/

namespace Condition

/-- The text compares a field with an integer of `n` digits, and that is too many. -/
inductive Overlong (text : String) : (n : Nat) → Prop
  | mk {field gap gap' sign digits : List Char} {comparator : Comparator}
      (hfield : field ≠ [] ∧ ∀ c ∈ field, isWordChar c = true)
      (hgaps : (∀ c ∈ gap, isBlank c = true) ∧ ∀ c ∈ gap', isBlank c = true)
      (hsign : sign = [] ∨ sign = ['-'])
      (hdigits : (∀ c ∈ digits, isDigit c = true) ∧ maxDigits < digits.length)
      (htext : (trim text).toList =
        field ++ (gap ++ (comparator.symbol.toList ++ (gap' ++ (sign ++ digits))))) :
      Overlong text digits.length

/-- Such a text is a comparison whose integer has too many digits. -/
theorem overlong_iff {text : String} {n : Nat} :
    Overlong text n ↔ ∃ s : Comparison, s.Spells text ∧ s.numeral.digits.length = n ∧
      maxDigits < n := by
  constructor
  · rintro ⟨⟨hne, hfield⟩, ⟨hgap, hgap'⟩, hsign, ⟨hdigits, hlong⟩, htext⟩
    next field gap gap' sign digits comparator =>
    have hpos : digits ≠ [] := List.ne_nil_of_length_pos (Nat.zero_lt_of_lt hlong)
    let m : Numeral := ⟨sign == ['-'], digits, hpos, hdigits⟩
    have hm : m.spelling = sign ++ digits := by rcases hsign with rfl | rfl <;> rfl
    refine ⟨⟨field, gap, comparator, gap', m, hne, hfield, hgap, hgap'⟩, ?_, rfl, hlong⟩
    rw [Comparison.spells_iff, htext, ← hm]
    rfl
  · rintro ⟨s, hs, rfl, hlong⟩
    have hsign : s.numeral.spelling =
        (if s.numeral.negative then ['-'] else []) ++ s.numeral.digits := by
      rw [Numeral.spelling]
      split <;> rfl
    have htext := Comparison.spells_iff.1 hs
    rw [Comparison.spelling, hsign] at htext
    refine .mk ⟨s.field_ne_nil, s.isWordChar_of_mem⟩ ⟨s.isBlank_of_mem, s.isBlank_of_mem'⟩ ?_
      ⟨s.numeral.isDigit_of_mem, hlong⟩ htext
    split <;> simp

theorem Comparison.read_eq_error_iff {s : Comparison} {f : Fault} :
    s.read = .error f ↔ maxDigits < s.numeral.digits.length ∧
      f = .numeralTooLong s.numeral.digits.length := by
  unfold Comparison.read Numeral.read
  split
  · next hlong => simp [Except.map, hlong, eq_comm]
  · next hshort => simp [Except.map, hshort]

/-- **A condition is given up exactly on an integer with too many digits.** -/
theorem parse_eq_error_iff {text : String} {f : Fault} :
    parse text = .error f ↔ ∃ n, Overlong text n ∧ f = .numeralTooLong n := by
  constructor
  · intro h
    obtain ⟨b, hparse⟩ | hparse | ⟨s, hs, hparse⟩ := parse_cases text
    · rw [hparse] at h
      cases h
    · rw [hparse] at h
      cases h
    · rw [hparse] at h
      cases hread : s.read with
      | ok c =>
        rw [hread] at h
        cases h
      | error g =>
        rw [hread] at h
        cases h
        obtain ⟨hlong, rfl⟩ := Comparison.read_eq_error_iff.1 hread
        exact ⟨_, overlong_iff.2 ⟨s, hs, rfl, hlong⟩, rfl⟩
  · rintro ⟨n, h, rfl⟩
    obtain ⟨s, hs, rfl, hlong⟩ := overlong_iff.1 h
    rw [parse_of_spells hs, Comparison.read_eq_error_iff.2 ⟨hlong, rfl⟩]
    rfl

end Condition

/-! ## Counts -/

namespace Filter

/-- The text begins with an integer of `n` digits, and that is too many. -/
inductive OverlongCount (arg : String) : (n : Nat) → Prop
  | mk {gap sign digits rest : List Char} (hgap : ∀ c ∈ gap, isBlank c = true)
      (hsign : sign = [] ∨ sign = ['-'] ∨ sign = ['+'])
      (hdigits : (∀ c ∈ digits, isDigit c = true) ∧ maxDigits < digits.length)
      (hrest : ∀ c ∈ rest.head?, isDigit c = false)
      (harg : arg.toList = gap ++ (sign ++ (digits ++ rest))) : OverlongCount arg digits.length

theorem eq_append_of_takeSign (cs : List Char) :
    ∃ sign, cs = sign ++ (takeSign cs).2 ∧ (sign = [] ∨ sign = ['-'] ∨ sign = ['+']) := by
  unfold takeSign
  split
  · exact ⟨['-'], rfl, Or.inr (Or.inl rfl)⟩
  · exact ⟨['+'], rfl, Or.inr (Or.inr rfl)⟩
  · exact ⟨[], rfl, Or.inl rfl⟩

theorem takeSign_append {sign digits : List Char} (hsign : sign = [] ∨ sign = ['-'] ∨ sign = ['+'])
    (hdigits : ∀ c ∈ digits.head?, isDigit c = true) :
    takeSign (sign ++ digits) = (sign == ['-'], digits) := by
  rcases hsign with rfl | rfl | rfl
  · unfold takeSign
    split
    · next h => exact absurd (hdigits '-' (by simp_all)) (by decide +kernel)
    · next h => exact absurd (hdigits '+' (by simp_all)) (by decide +kernel)
    · rfl
  · rfl
  · rfl

/-- The digits that a count begins with, after blanks and a sign. -/
def leadingDigits (arg : String) : List Char :=
  (takeSign (dropBlanks arg.toList)).2.takeWhile isDigit

/-- A text that begins with an integer, by its parts: blanks, a sign, digits, and a rest that does
not go on with a digit. -/
structure LeadingNumeral where
  gap : List Char
  sign : List Char
  digits : List Char
  rest : List Char
  isBlank_of_mem : ∀ c ∈ gap, isBlank c = true
  isSign : sign = [] ∨ sign = ['-'] ∨ sign = ['+']
  digits_ne_nil : digits ≠ []
  isDigit_of_mem : ∀ c ∈ digits, isDigit c = true
  isDigit_head_rest : ∀ c ∈ rest.head?, isDigit c = false

namespace LeadingNumeral

def spelling (m : LeadingNumeral) : List Char := m.gap ++ (m.sign ++ (m.digits ++ m.rest))

theorem isBlank_head {m : LeadingNumeral} {c : Char}
    (h : c ∈ (m.sign ++ (m.digits ++ m.rest)).head?) : isBlank c = false := by
  rcases mem_of_mem_head?_append h with h | h
  · rcases m.isSign with hsign | hsign | hsign <;> rw [hsign] at h
    · cases h
    · rw [List.mem_singleton.1 h]
      decide
    · rw [List.mem_singleton.1 h]
      decide
  · rw [List.head?_append_of_ne_nil _ m.digits_ne_nil] at h
    exact isBlank_of_isDigit (m.isDigit_of_mem c (List.mem_of_mem_head? h))

theorem takeSign_spelling (m : LeadingNumeral) :
    takeSign (dropBlanks m.spelling) = (m.sign == ['-'], m.digits ++ m.rest) := by
  rw [spelling, dropBlanks_append m.isBlank_of_mem fun c => isBlank_head]
  refine takeSign_append m.isSign fun c hc => ?_
  rw [List.head?_append_of_ne_nil _ m.digits_ne_nil] at hc
  exact m.isDigit_of_mem c (List.mem_of_mem_head? hc)

theorem leadingDigits_eq {m : LeadingNumeral} {arg : String} (harg : arg.toList = m.spelling) :
    leadingDigits arg = m.digits := by
  rw [leadingDigits, harg, m.takeSign_spelling]
  exact (takeWhile_append_of_head m.isDigit_of_mem m.isDigit_head_rest).1

/-- A text begins with an integer if there are digits after the blanks and the sign. -/
theorem exists_spelling_iff {arg : String} :
    (∃ m : LeadingNumeral, arg.toList = m.spelling) ↔ leadingDigits arg ≠ [] := by
  constructor
  · rintro ⟨m, harg⟩
    rw [m.leadingDigits_eq harg]
    exact m.digits_ne_nil
  · intro h
    obtain ⟨sign, hcs, hsign⟩ := eq_append_of_takeSign (dropBlanks arg.toList)
    refine ⟨{ gap := arg.toList.takeWhile isBlank
              sign := sign
              digits := leadingDigits arg
              rest := (takeSign (dropBlanks arg.toList)).2.dropWhile isDigit
              isBlank_of_mem := fun c hc => List.mem_takeWhile_imp hc
              isSign := hsign
              digits_ne_nil := h
              isDigit_of_mem := fun c hc => List.mem_takeWhile_imp hc
              isDigit_head_rest := fun c hc => ?_ }, ?_⟩
    · have := List.head?_dropWhile_not isDigit (takeSign (dropBlanks arg.toList)).2
      rwa [Option.mem_def.1 hc] at this
    · show arg.toList = arg.toList.takeWhile isBlank ++ (sign ++
        ((takeSign (dropBlanks arg.toList)).2.takeWhile isDigit ++ _))
      rw [List.takeWhile_append_dropWhile, ← hcs, takeWhile_append_dropBlanks]

end LeadingNumeral

theorem leadingInt_eq_error {arg : String} {f : Fault} :
    leadingInt arg = .error f ↔
      maxDigits < (leadingDigits arg).length ∧ f = .numeralTooLong (leadingDigits arg).length := by
  have hlength : ((leadingDigits arg).filterMap digit?).length = (leadingDigits arg).length :=
    length_filterMap_digit? fun c hc => List.mem_takeWhile_imp hc
  unfold leadingInt
  split
  next negative rest hrest =>
  have hdigits : rest.takeWhile isDigit = leadingDigits arg := by rw [leadingDigits, hrest]
  rw [hdigits]
  dsimp only
  rw [hlength]
  split
  · next h => simp [h, eq_comm]
  · next h => simp [h]

/-- Such a text begins with an integer that has too many digits. -/
theorem overlongCount_iff {arg : String} {n : Nat} :
    OverlongCount arg n ↔ ∃ m : LeadingNumeral, arg.toList = m.spelling ∧ m.digits.length = n ∧
      maxDigits < n := by
  constructor
  · rintro ⟨hgap, hsign, ⟨hdigits, hlong⟩, hrest, harg⟩
    next gap sign digits rest =>
    have hne : digits ≠ [] := List.ne_nil_of_length_pos (Nat.zero_lt_of_lt hlong)
    exact ⟨⟨gap, sign, digits, rest, hgap, hsign, hne, hdigits, hrest⟩, harg, rfl, hlong⟩
  · rintro ⟨m, harg, rfl, hlong⟩
    exact .mk m.isBlank_of_mem m.isSign ⟨m.isDigit_of_mem, hlong⟩ m.isDigit_head_rest harg

/-- **A count is given up exactly on an integer with too many digits.** -/
theorem leadingInt_eq_error_iff {arg : String} {f : Fault} :
    leadingInt arg = .error f ↔ ∃ n, OverlongCount arg n ∧ f = .numeralTooLong n := by
  rw [leadingInt_eq_error]
  constructor
  · rintro ⟨hlong, rfl⟩
    have hne : leadingDigits arg ≠ [] := List.ne_nil_of_length_pos (Nat.zero_lt_of_lt hlong)
    obtain ⟨m, harg⟩ := LeadingNumeral.exists_spelling_iff.2 hne
    rw [m.leadingDigits_eq harg] at hlong ⊢
    exact ⟨_, overlongCount_iff.2 ⟨m, harg, rfl, hlong⟩, rfl⟩
  · rintro ⟨n, h, rfl⟩
    obtain ⟨m, harg, rfl, hlong⟩ := overlongCount_iff.1 h
    rw [m.leadingDigits_eq harg]
    exact ⟨hlong, rfl⟩

end Filter

end StreetConsole
