import StreetConsole.Proofs.Fields
import StreetConsole.Proofs.Overlong

/-!
# Conditions, from their texts to what comes of them

**Theorem (`parse_evaluate_exact`).** A text is read as a literal exactly if it is `true` or `false`
in some case, as a clause exactly if it spells a comparison with an integer that can be read, and as
no condition if it does neither. A text spells at most one comparison. Where the field is an
integer, the condition is the comparison of the two integers, so that opposite comparators have
opposite outcomes; where it is missing or no number, all comparators say no.

What texts are read as follows from what is known of spellings (`parse_of_spells`, `parse_cases`).
That there is only one comparison is shown part by part: each part is a run of characters of one
kind, or a comparator, and what follows it begins with a character of another kind
(`Comparison.spelling_injective`).
-/

namespace StreetConsole

open Text

/-! ## Opposite comparators -/

namespace Comparator

/-- The comparator that holds where this one does not. -/
def opposite : Comparator → Comparator
  | .gt => .le
  | .lt => .ge
  | .ge => .lt
  | .le => .gt
  | .eq => .ne
  | .ne => .eq

theorem holds_opposite (comparator : Comparator) (m n : Int) :
    comparator.opposite.Holds m n ↔ ¬ comparator.Holds m n := by
  cases comparator <;> simp [opposite, Holds]

theorem symbol_append_inj {comparator comparator' : Comparator} {rest rest' : List Char}
    (hrest : ∀ c ∈ rest.head?, c ≠ '=') (hrest' : ∀ c ∈ rest'.head?, c ≠ '=')
    (h : comparator.symbol.toList ++ rest = comparator'.symbol.toList ++ rest') :
    comparator = comparator' ∧ rest = rest' := by
  have htake := take?_append comparator hrest
  rw [h, take?_append comparator' hrest'] at htake
  obtain ⟨hcomparator, htail⟩ := Prod.mk.inj (Option.some.inj htake)
  exact ⟨hcomparator.symm, htail.symm⟩

end Comparator

/-- The value is a number; a truth value is none. -/
def Value.Numeric (v : Value) : Prop := (∃ n, v = .int n) ∨ ∃ x, v = .double x

namespace Condition

/-! ## The comparison that a text spells -/

theorem Numeral.minus_not_mem_digits (m : Numeral) : '-' ∉ m.digits := fun hminus =>
  absurd (m.isDigit_of_mem '-' hminus) (by decide +kernel)

theorem Numeral.spelling_injective {m m' : Numeral} (h : m.spelling = m'.spelling) : m = m' := by
  have hminus := m.minus_not_mem_digits
  have hminus' := m'.minus_not_mem_digits
  obtain ⟨negative, digits, _, _⟩ := m
  obtain ⟨negative', digits', _, _⟩ := m'
  cases negative <;> cases negative'
  · cases h
    rfl
  · have hdigits : digits = '-' :: digits' := h
    exact absurd (by simp [hdigits]) hminus
  · have hdigits : '-' :: digits = digits' := h
    exact absurd (by simp [← hdigits]) hminus'
  · cases h
    rfl

/-- **The parts of a comparison are determined by its spelling.** -/
theorem Comparison.spelling_injective {s s' : Comparison} (h : s.spelling = s'.spelling) :
    s = s' := by
  obtain ⟨hfield, h⟩ := append_inj_of_head s.isWordChar_of_mem s'.isWordChar_of_mem
    s.isWordChar_after_field s'.isWordChar_after_field h
  obtain ⟨hgap, h⟩ := append_inj_of_head s.isBlank_of_mem s'.isBlank_of_mem
    (fun c hc => (Comparator.head_symbol hc).2) (fun c hc => (Comparator.head_symbol hc).2) h
  obtain ⟨hcomparator, h⟩ := Comparator.symbol_append_inj s.ne_equals_after_symbol
    s'.ne_equals_after_symbol h
  obtain ⟨hgap', h⟩ := append_inj_of_head s.isBlank_of_mem' s'.isBlank_of_mem'
    (fun c => Numeral.isBlank_head_spelling) (fun c => Numeral.isBlank_head_spelling) h
  have hnumeral := Numeral.spelling_injective h
  cases s
  cases s'
  congr

theorem Comparison.Spells.unique {s s' : Comparison} {text : String} (h : s.Spells text)
    (h' : s'.Spells text) : s = s' :=
  spelling_injective ((spells_iff.1 h).symm.trans (spells_iff.1 h'))

/-! ## What a text is read as -/

variable {s : Comparison} {text : String}

/-- The word for a truth value. -/
def literalWord (b : Bool) : String := if b then "true" else "false"

theorem Comparison.read_eq_ok_iff {c : Clause} :
    s.read = .ok c ↔ s.numeral.digits.length ≤ maxDigits ∧
      c = ⟨lower s.name, s.comparator, s.numeral.value⟩ := by
  unfold Comparison.read Numeral.read
  split
  · next hlong => simp [Except.map, Nat.not_le.2 hlong]
  · next hshort => simp [Except.map, Nat.not_lt.1 hshort, eq_comm]

theorem parse_eq_literal_iff {b : Bool} :
    parse text = .ok (some (.literal b)) ↔ lower (trim text) = literalWord b := by
  unfold parse
  dsimp only
  split
  · next htrue => cases b <;> simp [literalWord, htrue]
  · next htrue =>
    split
    · next hfalse => cases b <;> simp [literalWord, hfalse]
    · next hfalse =>
      have hword : lower (trim text) ≠ literalWord b := by
        cases b
        · exact hfalse
        · exact htrue
      refine iff_of_false ?_ hword
      split <;> nofun

theorem parse_eq_clause_iff {c : Clause} :
    parse text = .ok (some (.clause c)) ↔ ∃ s : Comparison, s.Spells text ∧ s.read = .ok c := by
  constructor
  · intro h
    obtain ⟨b, hparse⟩ | hparse | ⟨s, hs, hparse⟩ := parse_cases text
    · rw [hparse] at h
      cases h
    · rw [hparse] at h
      cases h
    · rw [hparse] at h
      refine ⟨s, hs, ?_⟩
      cases hread : s.read with
      | error f => simp [hread, Except.map] at h
      | ok c' => simpa [hread, Except.map] using h
  · rintro ⟨s, hs, hread⟩
    rw [parse_of_spells hs, hread]
    rfl

theorem parse_eq_none_iff :
    parse text = .ok none ↔
      (∀ b : Bool, lower (trim text) ≠ literalWord b) ∧ ∀ s : Comparison, ¬ s.Spells text := by
  constructor
  · intro h
    refine ⟨fun b hb => ?_, fun s hs => ?_⟩
    · rw [parse_eq_literal_iff.2 hb] at h
      cases h
    · rw [parse_of_spells hs] at h
      cases hread : s.read <;> simp [hread, Except.map] at h
  · rintro ⟨hliteral, hspells⟩
    obtain ⟨b, hparse⟩ | hparse | ⟨s, hs, -⟩ := parse_cases text
    · exact absurd (parse_eq_literal_iff.1 hparse) (hliteral b)
    · exact hparse
    · exact absurd hs (hspells s)

/-- A condition is given up exactly on the comparison with an integer that is too long. -/
theorem parse_eq_error_iff_spells {f : Fault} :
    parse text = .error f ↔ ∃ s : Comparison, s.Spells text ∧
      maxDigits < s.numeral.digits.length ∧ f = .numeralTooLong s.numeral.digits.length := by
  simp only [parse_eq_error_iff, overlong_iff]
  constructor
  · rintro ⟨n, ⟨s, hs, rfl, hlong⟩, hf⟩
    exact ⟨s, hs, hlong, hf⟩
  · rintro ⟨s, hs, hlong, hf⟩
    exact ⟨_, ⟨s, hs, rfl, hlong⟩, hf⟩

/-! ## What comes of a comparison -/

/-- Opposite comparisons of a field with the same integer have opposite outcomes. -/
theorem evaluate_opposite {s' : Comparison} {text' : String} {fields : Table} {x : Int}
    (hs : s.Spells text) (hdigits : s.numeral.digits.length ≤ maxDigits)
    (hs' : s'.Spells text') (hdigits' : s'.numeral.digits.length ≤ maxDigits)
    (hname : lower s'.name = lower s.name) (hvalue : s'.numeral.value = s.numeral.value)
    (hopposite : s'.comparator = s.comparator.opposite)
    (hfield : Dict.get? fields (lower s.name) = some (.int x)) :
    evaluate text' (.table fields) = (evaluate text (.table fields)).map not := by
  have hholds := s.comparator.holds_opposite x s.numeral.value
  rw [evaluate_of_int hs hdigits hfield, evaluate_of_int hs' hdigits' (hname ▸ hfield), hvalue,
    hopposite]
  simp [Except.map, hholds]

/-- A comparison with a field that is missing or no number does not hold. -/
theorem evaluate_of_not_numeric {state : Value} {found : Option Value} (hs : s.Spells text)
    (hdigits : s.numeral.digits.length ≤ maxDigits)
    (hfield : fieldOf? state (lower s.name) = .ok found) (hfound : ∀ v ∈ found, ¬ v.Numeric) :
    evaluate text state = .ok false := by
  have hparse := parse_eq_clause_iff.2 ⟨s, hs, Comparison.read_eq_ok_iff.2 ⟨hdigits, rfl⟩⟩
  have hcompare : ∀ v ∈ found, compareValue? v s.numeral.value = none := by
    intro v hv
    cases v with
    | int n => exact absurd (.inl ⟨n, rfl⟩) (hfound _ hv)
    | double x => exact absurd (.inr ⟨x, rfl⟩) (hfound _ hv)
    | null | bool | text | list | table => rfl
  cases found with
  | none => simp [evaluate, hparse, holdsIn, hfield, bind, Except.bind, pure, Except.pure]
  | some v =>
    simp [evaluate, hparse, holdsIn, hfield, hcompare v rfl, bind, Except.bind, pure, Except.pure]

/-- **What texts are conditions, and when they hold.**

A text is read as a literal, as a clause or as nothing, or it is given up, in exactly these cases,
and the comparison that it spells is the only one. If its integer can be read, it holds in a state
with an integer in the field if the two integers compare that way; a comparison with the opposite
comparator comes out the other way. It does not hold without a state, nor in a state with no number
in the field, whatever its comparator is. -/
theorem parse_evaluate_exact (text : String) :
    (∀ b, parse text = .ok (some (.literal b)) ↔ lower (trim text) = literalWord b) ∧
    (∀ c, parse text = .ok (some (.clause c)) ↔ ∃ s : Comparison, s.Spells text ∧
      s.numeral.digits.length ≤ maxDigits ∧
      c = ⟨lower s.name, s.comparator, s.numeral.value⟩) ∧
    (∀ s s' : Comparison, s.Spells text → s'.Spells text → s = s') ∧
    (∀ f, parse text = .error f ↔ ∃ s : Comparison, s.Spells text ∧
      maxDigits < s.numeral.digits.length ∧ f = .numeralTooLong s.numeral.digits.length) ∧
    (parse text = .ok none ↔
      (∀ b, lower (trim text) ≠ literalWord b) ∧ ∀ s : Comparison, ¬ s.Spells text) ∧
    ∀ s : Comparison, s.Spells text → s.numeral.digits.length ≤ maxDigits →
      (∀ fields x, Dict.get? fields (lower s.name) = some (.int x) →
        evaluate text (.table fields) = .ok (decide (s.comparator.Holds x s.numeral.value)) ∧
        ∀ (s' : Comparison) (text' : String), s'.Spells text' →
          s'.numeral.digits.length ≤ maxDigits → lower s'.name = lower s.name →
          s'.numeral.value = s.numeral.value → s'.comparator = s.comparator.opposite →
          evaluate text' (.table fields) = (evaluate text (.table fields)).map not) ∧
      evaluate text .null = .ok false ∧
      ∀ fields, (∀ v, Dict.get? fields (lower s.name) = some v → ¬ v.Numeric) →
        evaluate text (.table fields) = .ok false := by
  refine ⟨fun b => parse_eq_literal_iff, fun c => ?_, fun s s' hs hs' => hs.unique hs',
    fun f => parse_eq_error_iff_spells, parse_eq_none_iff, fun s hs hdigits => ⟨?_, ?_, ?_⟩⟩
  · simp only [parse_eq_clause_iff, Comparison.read_eq_ok_iff]
  · intro fields x hfield
    exact ⟨evaluate_of_int hs hdigits hfield, fun s' text' hs' hdigits' hname hvalue hopposite =>
      evaluate_opposite hs hdigits hs' hdigits' hname hvalue hopposite hfield⟩
  · have hmissing : fieldOf? .null (lower s.name) = .ok none := rfl
    exact evaluate_of_not_numeric hs hdigits hmissing nofun
  · exact fun fields hfields => evaluate_of_not_numeric hs hdigits rfl hfields

/-- Two spellings of opposite comparisons, in a state with the integer itself, without a state, and
in one where the field is a truth value. -/
theorem parse_evaluate_exact_heat :
    ∃ s s' : Comparison, s.Spells " HEAT >= 50" ∧ s.numeral.digits.length ≤ maxDigits ∧
      s'.Spells "heat<٥0" ∧ s'.numeral.digits.length ≤ maxDigits ∧
      (lower s'.name = lower s.name ∧ s'.numeral.value = s.numeral.value ∧
        s'.comparator = s.comparator.opposite) ∧
      evaluate " HEAT >= 50" (.table [("heat", .int 50)]) = .ok true ∧
      evaluate "heat<٥0" (.table [("heat", .int 50)]) =
        (evaluate " HEAT >= 50" (.table [("heat", .int 50)])).map not ∧
      evaluate " HEAT >= 50" .null = .ok false ∧
      evaluate " HEAT >= 50" (.table [("heat", .bool true)]) = .ok false := by
  let s : Comparison := {
    field := "HEAT".toList
    gap := [' ']
    comparator := .ge
    gap' := [' ']
    numeral := ⟨false, "50".toList, by decide, List.all_eq_true.1 (by decide +kernel)⟩
    field_ne_nil := by decide
    isWordChar_of_mem := List.all_eq_true.1 (by decide +kernel)
    isBlank_of_mem := List.all_eq_true.1 (by decide)
    isBlank_of_mem' := List.all_eq_true.1 (by decide) }
  let s' : Comparison := {
    field := "heat".toList
    gap := []
    comparator := .lt
    gap' := []
    numeral := ⟨false, "٥0".toList, by decide, List.all_eq_true.1 (by decide +kernel)⟩
    field_ne_nil := by decide
    isWordChar_of_mem := List.all_eq_true.1 (by decide +kernel)
    isBlank_of_mem := nofun
    isBlank_of_mem' := nofun }
  have hs : s.Spells " HEAT >= 50" := Comparison.spells_iff.2 (by decide +kernel)
  have hs' : s'.Spells "heat<٥0" := Comparison.spells_iff.2 (by decide +kernel)
  have hdigits : s.numeral.digits.length ≤ maxDigits := by decide
  have hdigits' : s'.numeral.digits.length ≤ maxDigits := by decide
  have hname : lower s'.name = lower s.name := by decide +kernel
  have hvalue : s'.numeral.value = s.numeral.value := by decide +kernel
  have hheat : lower s.name = "heat" := by decide +kernel
  have hholds : decide (s.comparator.Holds 50 s.numeral.value) = true := by decide +kernel
  obtain ⟨-, -, -, -, -, hevaluate⟩ := parse_evaluate_exact " HEAT >= 50"
  obtain ⟨hint, hnull, hother⟩ := hevaluate s hs hdigits
  obtain ⟨houtcome, hopposite⟩ := hint [("heat", .int 50)] 50 (by rw [hheat]; rfl)
  refine ⟨s, s', hs, hdigits, hs', hdigits', ⟨hname, hvalue, rfl⟩, hholds ▸ houtcome,
    hopposite s' _ hs' hdigits' hname hvalue rfl, hnull, hother _ fun v hv => ?_⟩
  rw [hheat] at hv
  cases hv
  rintro (⟨n, hn⟩ | ⟨x, hx⟩)
  · cases hn
  · cases hx

end Condition

end StreetConsole
