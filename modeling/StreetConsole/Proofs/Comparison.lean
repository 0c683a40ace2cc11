import StreetConsole.Condition
import StreetConsole.Proofs.Trim

/-!
# Comparisons as they are spelled

A condition that asks for a field is the field's name, a comparator and an integer, with blanks
around the comparator if wanted. `Condition.Comparison` is such a spelling with its parts, and
`Comparison.read` is what it stands for.

**Theorem (`parse_of_spells`, `parse_cases`).** Reading a text that spells a comparison gives what
the comparison stands for, and every other text is a literal or no condition.

The parts of a comparison are found one after the other, each up to the first character that does
not belong to it. So the way back from a spelling to its parts needs that blanks are neither word
characters nor digits, and that no digit is taken for a part of a comparator. A spelling is no
literal, because its comparator is still there in lower case.
-/

namespace StreetConsole

/-! ## Kinds of characters -/

namespace Text

/-- A run of characters is found if what follows it does not go on with one. -/
theorem takeWhile_append_of_head {p : Char → Bool} {cs ds : List Char} (hcs : ∀ c ∈ cs, p c = true)
    (hds : ∀ c ∈ ds.head?, p c = false) :
    (cs ++ ds).takeWhile p = cs ∧ (cs ++ ds).dropWhile p = ds := by
  rw [List.takeWhile_append_of_pos hcs, List.dropWhile_append_of_pos hcs]
  cases ds with
  | nil => simp
  | cons d ds => simp [hds d rfl]

/-- Where a run of characters ends is determined by what follows it. -/
theorem append_inj_of_head {p : Char → Bool} {cs cs' ds ds' : List Char}
    (hcs : ∀ c ∈ cs, p c = true) (hcs' : ∀ c ∈ cs', p c = true)
    (hds : ∀ c ∈ ds.head?, p c = false) (hds' : ∀ c ∈ ds'.head?, p c = false)
    (h : cs ++ ds = cs' ++ ds') : cs = cs' ∧ ds = ds' := by
  obtain ⟨htake, hdrop⟩ := takeWhile_append_of_head hcs hds
  obtain ⟨htake', hdrop'⟩ := takeWhile_append_of_head hcs' hds'
  rw [h] at htake hdrop
  exact ⟨htake.symm.trans htake', hdrop.symm.trans hdrop'⟩

theorem mem_of_mem_head?_append {cs ds : List Char} {c : Char} (h : c ∈ (cs ++ ds).head?) :
    c ∈ cs ∨ c ∈ ds.head? := by
  cases cs with
  | nil => exact Or.inr h
  | cons d cs =>
    cases h
    exact Or.inl List.mem_cons_self

theorem takeWhile_append_dropBlanks (cs : List Char) : cs.takeWhile isBlank ++ dropBlanks cs = cs :=
  List.takeWhile_append_dropWhile

theorem dropBlanks_append {gap cs : List Char} (hgap : ∀ c ∈ gap, isBlank c = true)
    (hcs : ∀ c ∈ cs.head?, isBlank c = false) : dropBlanks (gap ++ cs) = cs :=
  (takeWhile_append_of_head hgap hcs).2

/-- The code points of the blanks. -/
def blankCodes : List Nat := [
  0x09, 0x0a, 0x0b, 0x0c, 0x0d, 0x1c, 0x1d, 0x1e, 0x1f, 0x20, 0x85, 0xa0, 0x1680, 0x2000, 0x2001,
  0x2002, 0x2003, 0x2004, 0x2005, 0x2006, 0x2007, 0x2008, 0x2009, 0x200a, 0x2028, 0x2029, 0x202f,
  0x205f, 0x3000]

theorem mem_blankCodes {c : Char} (h : isBlank c = true) : c.toNat ∈ blankCodes := by
  simp only [isBlank, Bool.or_eq_true, Bool.and_eq_true, decide_eq_true_eq, beq_iff_eq] at h
  simp only [blankCodes, List.mem_cons, List.not_mem_nil, or_false]
  omega

theorem isWordChar_of_isBlank {c : Char} (h : isBlank c = true) : isWordChar c = false := by
  have hcodes : ∀ n ∈ blankCodes,
      isLetterCode n = false ∧ isNumeralCode n = false ∧ n ≠ '_'.toNat := by
    decide +kernel
  obtain ⟨hletter, hnumeral, hunderscore⟩ := hcodes _ (mem_blankCodes h)
  have hc : c ≠ '_' := fun hc => hunderscore (congrArg Char.toNat hc)
  simp [isWordChar, isLetter, hc, hletter, hnumeral]

theorem isBlank_of_isWordChar {c : Char} (h : isWordChar c = true) : isBlank c = false := by
  rw [Bool.eq_false_iff]
  intro hblank
  rw [isWordChar_of_isBlank hblank] at h
  cases h

theorem isBlank_of_isDigit {c : Char} (h : isDigit c = true) : isBlank c = false := by
  have hcodes : ∀ n ∈ blankCodes, decimalValue? n = none := by decide +kernel
  rw [Bool.eq_false_iff]
  intro hblank
  rw [isDigit, digit?, hcodes _ (mem_blankCodes hblank)] at h
  cases h

/-- A character without a lower case form of its own is still there in lower case. -/
theorem mem_lowerAfter {c : Char} (hsigma : c ≠ 'Σ') (himage : lowerImage c.toNat = [c.toNat])
    (before : List Char) {cs : List Char} (hc : c ∈ cs) : c ∈ lowerAfter before cs := by
  induction cs generalizing before with
  | nil => cases hc
  | cons d cs ih =>
    rw [lowerAfter, List.mem_append]
    rcases List.mem_cons.1 hc with rfl | hc
    · exact Or.inl (by simp [hsigma, himage])
    · exact Or.inr (ih (d :: before) hc)

end Text

open Text

/-! ## Comparators -/

namespace Comparator

theorem eq_append_of_take? {cs rest : List Char} {comparator : Comparator}
    (h : take? cs = some (comparator, rest)) : cs = comparator.symbol.toList ++ rest := by
  unfold take? at h
  split at h <;> cases h <;> rfl

theorem take?_append (comparator : Comparator) {rest : List Char}
    (h : ∀ c ∈ rest.head?, c ≠ '=') :
    take? (comparator.symbol.toList ++ rest) = some (comparator, rest) := by
  cases comparator with
  | gt | lt =>
    -- The longer spellings are tried first.
    cases rest with
    | nil => rfl
    | cons c cs =>
      have hc : c ≠ '=' := h c rfl
      simp [symbol, take?, hc]
  | ge | le | eq | ne => rfl

theorem head_symbol {comparator : Comparator} {rest : List Char} {c : Char}
    (h : c ∈ (comparator.symbol.toList ++ rest).head?) :
    isWordChar c = false ∧ isBlank c = false := by
  cases comparator <;> cases h <;> decide +kernel

/-- A text with a comparator in it is neither literal. -/
theorem lower_ne_literal {comparator : Comparator} {text : String}
    (h : ∀ c ∈ comparator.symbol.toList, c ∈ text.toList) :
    lower text ≠ "true" ∧ lower text ≠ "false" := by
  obtain ⟨c, hc, hsigma, himage, htrue, hfalse⟩ : ∃ c ∈ comparator.symbol.toList,
      c ≠ 'Σ' ∧ lowerImage c.toNat = [c.toNat] ∧ c ∉ "true".toList ∧ c ∉ "false".toList := by
    cases comparator <;> exact ⟨_, List.mem_cons_self, by decide +kernel⟩
  have hlower : c ∈ (lower text).toList := by
    rw [lower, String.toList_ofList]
    exact mem_lowerAfter hsigma himage [] (h c hc)
  constructor <;> intro hword <;> rw [hword] at hlower
  · exact htrue hlower
  · exact hfalse hlower

end Comparator

namespace Condition

/-! ## Integers -/

/-- An integer as it is spelled in a comparison: digits, perhaps after a minus. -/
structure Numeral where
  negative : Bool
  digits : List Char
  digits_ne_nil : digits ≠ []
  isDigit_of_mem : ∀ c ∈ digits, isDigit c = true

namespace Numeral

def spelling (m : Numeral) : List Char := if m.negative then '-' :: m.digits else m.digits

/-- The integer that the digits and the sign stand for. -/
def value (m : Numeral) : Int :=
  let n := natOfDigits (m.digits.filterMap digit?)
  if m.negative then -(n : Int) else n

/-- The integer, unless it is too long to read. -/
def read (m : Numeral) : Except Fault Int :=
  if maxDigits < m.digits.length then .error (.numeralTooLong m.digits.length) else .ok m.value

theorem head_spelling {m : Numeral} {c : Char} (h : c ∈ m.spelling.head?) :
    c = '-' ∨ isDigit c = true := by
  unfold spelling at h
  split at h
  · cases h
    exact Or.inl rfl
  · exact Or.inr (m.isDigit_of_mem c (List.mem_of_mem_head? h))

theorem isBlank_head_spelling {m : Numeral} {c : Char} (h : c ∈ m.spelling.head?) :
    isBlank c = false := by
  rcases head_spelling h with rfl | hdigit
  · decide
  · exact isBlank_of_isDigit hdigit

theorem spelling_ne_nil (m : Numeral) : m.spelling ≠ [] := by
  unfold spelling
  split
  · exact List.cons_ne_nil _ _
  · exact m.digits_ne_nil

theorem isBlank_getLast_spelling {m : Numeral} {c : Char} (h : c ∈ m.spelling.getLast?) :
    isBlank c = false := by
  have hlast : m.spelling.getLast? = m.digits.getLast? := by
    unfold spelling
    split
    · rw [List.getLast?_cons_of_ne_nil m.digits_ne_nil]
    · rfl
  rw [hlast] at h
  exact isBlank_of_isDigit (m.isDigit_of_mem c (List.mem_of_getLast? h))

/-- An integer is found again in its spelling. -/
theorem clauseValue?_spelling (m : Numeral) : clauseValue? m.spelling = some m.read := by
  have hall : m.digits.all isDigit = true := List.all_eq_true.2 m.isDigit_of_mem
  have hempty : m.digits.isEmpty = false := by simpa using m.digits_ne_nil
  unfold clauseValue?
  split
  next negative ds hds =>
  obtain ⟨rfl, rfl⟩ : m.negative = negative ∧ m.digits = ds := by
    cases hnegative : m.negative with
    | true => simpa [spelling, hnegative] using hds
    | false =>
      rw [spelling, if_neg (by simp [hnegative])] at hds
      split at hds
      · next rest hrest =>
        have hminus : isDigit '-' = true := m.isDigit_of_mem '-' (by simp [hrest])
        exact absurd hminus (by decide +kernel)
      · exact Prod.mk.inj hds
  rw [hall, hempty, read]
  split
  · next h => cases h
  · split <;> rfl

theorem exists_of_clauseValue? {cs : List Char} {r : Except Fault Int}
    (h : clauseValue? cs = some r) : ∃ m : Numeral, cs = m.spelling ∧ r = m.read := by
  unfold clauseValue? at h
  split at h
  next negative ds hds =>
  split at h
  · cases h
  · next hdigits =>
    simp only [Bool.or_eq_true, Bool.not_eq_true', not_or, Bool.not_eq_true, Bool.not_eq_false,
      List.isEmpty_eq_false_iff, List.all_eq_true] at hdigits
    refine ⟨⟨negative, ds, hdigits.1, hdigits.2⟩, ?_, ?_⟩
    · split at hds <;> cases hds <;> rfl
    · unfold read
      split at h <;> cases h
      · next hlong => rw [if_pos hlong]
      · next hshort =>
        rw [if_neg hshort]
        rfl

end Numeral

/-! ## Comparisons -/

/-- A comparison as it is spelled: the name of a field, a comparator and an integer, with blanks
around the comparator. -/
structure Comparison where
  field : List Char
  gap : List Char
  comparator : Comparator
  gap' : List Char
  numeral : Numeral
  field_ne_nil : field ≠ []
  isWordChar_of_mem : ∀ c ∈ field, isWordChar c = true
  isBlank_of_mem : ∀ c ∈ gap, isBlank c = true
  isBlank_of_mem' : ∀ c ∈ gap', isBlank c = true

namespace Comparison

def spelling (s : Comparison) : List Char :=
  s.field ++ (s.gap ++ (s.comparator.symbol.toList ++ (s.gap' ++ s.numeral.spelling)))

/-- The name of the field, as it is spelled. -/
def name (s : Comparison) : String := String.ofList s.field

/-- What the comparison stands for, unless its integer is too long to read. -/
def read (s : Comparison) : Except Fault Clause :=
  s.numeral.read.map fun n => ⟨lower s.name, s.comparator, n⟩

/-- The text is the comparison, perhaps with blanks at its ends. -/
def Spells (s : Comparison) (text : String) : Prop :=
  ∃ before after, text.toList = before ++ (s.spelling ++ after) ∧
    (∀ c ∈ before, isBlank c = true) ∧ ∀ c ∈ after, isBlank c = true

theorem trimmed_spelling (s : Comparison) : Trimmed s.spelling := by
  constructor
  · intro c hc
    rw [spelling, List.head?_append_of_ne_nil _ s.field_ne_nil] at hc
    exact isBlank_of_isWordChar (s.isWordChar_of_mem c (List.mem_of_mem_head? hc))
  · intro c hc
    have hlast : s.spelling.getLast? = s.numeral.spelling.getLast? := by
      simp [spelling, List.getLast?_append, List.getLast?_eq_some_getLast s.numeral.spelling_ne_nil]
    rw [hlast] at hc
    exact Numeral.isBlank_getLast_spelling hc

theorem spells_iff {s : Comparison} {text : String} :
    s.Spells text ↔ (trim text).toList = s.spelling := by
  rw [toList_trim]
  constructor
  · rintro ⟨before, after, htext, hbefore, hafter⟩
    rw [htext, trimChars_blanks_append hbefore, trimChars_append_blanks _ hafter,
      trimChars_eq_self s.trimmed_spelling]
  · intro htext
    obtain ⟨before, after, hsplit, hblanks⟩ := exists_eq_blanks_trimChars text.toList
    rw [htext] at hsplit
    exact ⟨before, after, hsplit, hblanks⟩

/-- The name of the field does not go on in what follows it. -/
theorem isWordChar_after_field (s : Comparison) : ∀ c ∈ (s.gap ++ (s.comparator.symbol.toList ++
    (s.gap' ++ s.numeral.spelling))).head?, isWordChar c = false := by
  intro c hc
  rcases mem_of_mem_head?_append hc with hc | hc
  · exact isWordChar_of_isBlank (s.isBlank_of_mem c hc)
  · exact (Comparator.head_symbol hc).1

/-- The comparator does not go on in what follows it. -/
theorem ne_equals_after_symbol (s : Comparison) :
    ∀ c ∈ (s.gap' ++ s.numeral.spelling).head?, c ≠ '=' := by
  rintro c hc rfl
  rcases mem_of_mem_head?_append hc with hc | hc
  · exact absurd (s.isBlank_of_mem' _ hc) (by decide +kernel)
  · exact absurd (Numeral.head_spelling hc) (by decide +kernel)

/-- A comparison is found again in its spelling. -/
theorem clause?_spelling (s : Comparison) : clause? s.spelling = some s.read := by
  obtain ⟨htake, hdrop⟩ := takeWhile_append_of_head s.isWordChar_of_mem s.isWordChar_after_field
  unfold clause? spelling
  dsimp only
  rw [htake, hdrop, dropBlanks_append s.isBlank_of_mem fun c hc => (Comparator.head_symbol hc).2,
    Comparator.take?_append s.comparator s.ne_equals_after_symbol,
    if_neg (by simpa using s.field_ne_nil)]
  show (clauseValue? (dropBlanks (s.gap' ++ s.numeral.spelling)) >>= fun value => _) = _
  rw [dropBlanks_append s.isBlank_of_mem' fun c => Numeral.isBlank_head_spelling,
    s.numeral.clauseValue?_spelling]
  rfl

/-- Every text that a clause is found in is spelled that way. -/
theorem exists_of_clause? {cs : List Char} {r : Except Fault Clause} (h : clause? cs = some r) :
    ∃ s : Comparison, cs = s.spelling ∧ r = s.read := by
  unfold clause? at h
  dsimp only at h
  split at h
  · cases h
  · next hfield =>
    rw [Option.bind_eq_bind, Option.bind_eq_some_iff] at h
    obtain ⟨⟨comparator, rest⟩, hcomparator, h⟩ := h
    rw [Option.bind_eq_bind, Option.bind_eq_some_iff] at h
    obtain ⟨value, hvalue, hclause⟩ := h
    obtain ⟨m, hrest, rfl⟩ := Numeral.exists_of_clauseValue? hvalue
    have hafter := Comparator.eq_append_of_take? hcomparator
    refine ⟨{ field := cs.takeWhile isWordChar
              gap := (cs.dropWhile isWordChar).takeWhile isBlank
              comparator := comparator
              gap' := rest.takeWhile isBlank
              numeral := m
              field_ne_nil := fun hnil => hfield (List.isEmpty_iff.2 hnil)
              isWordChar_of_mem := fun c hc => List.mem_takeWhile_imp hc
              isBlank_of_mem := fun c hc => List.mem_takeWhile_imp hc
              isBlank_of_mem' := fun c hc => List.mem_takeWhile_imp hc }, ?_, ?_⟩
    · dsimp only [spelling]
      rw [← hrest, takeWhile_append_dropBlanks, ← hafter, takeWhile_append_dropBlanks,
        List.takeWhile_append_dropWhile]
    · exact (Option.some.inj hclause).symm

end Comparison

/-! ## Reading a condition -/

/-- **A text that spells a comparison is read as it.** -/
theorem parse_of_spells {s : Comparison} {text : String} (h : s.Spells text) :
    parse text = s.read.map fun c => some (.clause c) := by
  have htext := Comparison.spells_iff.1 h
  have hsymbol : ∀ c ∈ s.comparator.symbol.toList, c ∈ (trim text).toList := by
    intro c hc
    rw [htext]
    simp [Comparison.spelling, hc]
  obtain ⟨htrue, hfalse⟩ := Comparator.lower_ne_literal hsymbol
  unfold parse
  dsimp only
  rw [if_neg htrue, if_neg hfalse, htext, s.clause?_spelling]
  cases s.read <;> rfl

/-- **A text is read as a literal, as the comparison that it spells, or not at all.** -/
theorem parse_cases (text : String) :
    (∃ b, parse text = .ok (some (.literal b))) ∨ parse text = .ok none ∨
      ∃ s : Comparison, s.Spells text ∧ parse text = s.read.map fun c => some (.clause c) := by
  by_cases hspells : ∃ s : Comparison, s.Spells text
  · obtain ⟨s, hs⟩ := hspells
    exact Or.inr (Or.inr ⟨s, hs, parse_of_spells hs⟩)
  · have hclause : clause? (trim text).toList = none := by
      rw [Option.eq_none_iff_forall_ne_some]
      intro r hr
      obtain ⟨s, htext, -⟩ := Comparison.exists_of_clause? hr
      exact hspells ⟨s, Comparison.spells_iff.2 htext⟩
    unfold parse
    dsimp only
    rw [hclause]
    split
    · exact Or.inl ⟨true, rfl⟩
    · split
      · exact Or.inl ⟨false, rfl⟩
      · exact Or.inr (Or.inl rfl)

end Condition

end StreetConsole
