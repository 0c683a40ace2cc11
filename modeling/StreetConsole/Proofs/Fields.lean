import StreetConsole.Command.Builtin
import StreetConsole.Proofs.Comparison

/-!
# What conditions say of a field that was set

`set` reads an integer and puts it under a field's name, a condition finds the name and the integer
in its own text and compares. Both put the name in lower case.

**Theorem (`Command.conditions_after_set`).** After `set`, a comparison with the field holds exactly
when the integers compare that way, whatever the case of the name and the blanks around the
comparator; every other condition comes out as before.

A condition depends on no field but the one it asks for (`Condition.evaluate_congr`), and in a
state where that field is an integer it is the comparison of two integers
(`Condition.evaluate_of_int`).
-/

namespace StreetConsole

open Text

/-! ## Comparing integers -/

namespace Comparator

/-- The relation between integers that a comparator stands for. -/
def Holds : Comparator → Int → Int → Prop
  | .gt, m, n => m > n
  | .lt, m, n => m < n
  | .ge, m, n => m ≥ n
  | .le, m, n => m ≤ n
  | .eq, m, n => m = n
  | .ne, m, n => m ≠ n

instance : (comparator : Comparator) → (m n : Int) → Decidable (comparator.Holds m n)
  | .gt, m, n => inferInstanceAs (Decidable (m > n))
  | .lt, m, n => inferInstanceAs (Decidable (m < n))
  | .ge, m, n => inferInstanceAs (Decidable (m ≥ n))
  | .le, m, n => inferInstanceAs (Decidable (m ≤ n))
  | .eq, m, n => inferInstanceAs (Decidable (m = n))
  | .ne, m, n => inferInstanceAs (Decidable (m ≠ n))

theorem accepts_compare (comparator : Comparator) (m n : Int) :
    comparator.accepts (some (compare m n)) = decide (comparator.Holds m n) := by
  rw [Bool.eq_iff_iff, decide_eq_true_iff]
  rcases Int.lt_trichotomy m n with h | rfl | h
  · rw [Int.compare_eq_lt.2 h]
    cases comparator <;> simp [accepts, Holds] <;> omega
  · rw [Int.compare_eq_eq.2 rfl]
    cases comparator <;> simp [accepts, Holds]
  · rw [Int.compare_eq_gt.2 h]
    cases comparator <;> simp [accepts, Holds] <;> omega

end Comparator

/-! ## Written integers -/

theorem Text.digit?_of_isDigit {c : Char} (h : c.isDigit = true) :
    digit? c = some (c.toNat - '0'.toNat) := by
  have hcodes : ∀ n ≤ '9'.toNat - '0'.toNat, decimalValue? ('0'.toNat + n) = some n := by
    decide +kernel
  obtain ⟨hlow, hhigh⟩ := Char.isDigit_iff_toNat.1 h
  obtain ⟨n, hn⟩ := Nat.exists_eq_add_of_le hlow
  rw [digit?, hn, Nat.add_sub_cancel_left]
  exact hcodes n (by omega)

theorem natOfDigits_filterMap_digit? {cs : List Char} (h : ∀ c ∈ cs, c.isDigit = true) :
    natOfDigits (cs.filterMap digit?) = Nat.ofDigitChars 10 cs 0 := by
  rw [natOfDigits, Nat.ofDigitChars_eq_foldl]
  -- The digits are added to any number, which stands for those in front of them.
  generalize 0 = n
  induction cs generalizing n with
  | nil => rfl
  | cons c cs ih =>
    obtain ⟨hc, hcs⟩ := List.forall_mem_cons.1 h
    rw [List.filterMap_cons_some (digit?_of_isDigit hc), List.foldl_cons, List.foldl_cons, ih hcs]

namespace Condition

namespace Numeral

/-- The integer in decimal digits, with a minus if it is negative. -/
def ofInt (n : Int) : Numeral where
  negative := n < 0
  digits := Nat.toDigits 10 n.natAbs
  digits_ne_nil := Nat.toDigits_ne_nil
  isDigit_of_mem := by
    intro c hc
    rw [isDigit, digit?_of_isDigit (Nat.isDigit_of_mem_toDigits (by decide) (by decide) hc)]
    rfl

theorem value_ofInt (n : Int) : (ofInt n).value = n := by
  have hdigits : natOfDigits ((Nat.toDigits 10 n.natAbs).filterMap digit?) = n.natAbs := by
    rw [natOfDigits_filterMap_digit? fun c => Nat.isDigit_of_mem_toDigits (by decide) (by decide),
      Nat.ofDigitChars_ten_toDigits]
  simp only [value, ofInt, hdigits, decide_eq_true_eq]
  split <;> omega

theorem writtenInt_eq_ok {n : Int} (h : (Nat.toDigits 10 n.natAbs).length ≤ maxDigits) :
    writtenInt n = .ok (String.ofList (ofInt n).spelling) := by
  unfold writtenInt
  dsimp only
  rw [if_neg (Nat.not_lt.2 h)]
  simp [spelling, ofInt]

end Numeral

/-! ## Conditions and the field they ask for -/

/-- The text is a comparison with the field, whose name may be written in any case. -/
def AsksFor (text field : String) : Prop :=
  ∃ s : Comparison, s.Spells text ∧ lower s.name = lower field

/-- A comparison with a field that is an integer is the comparison of two integers. -/
theorem evaluate_of_int {s : Comparison} {text : String} {fields : Table} {v : Int}
    (hs : s.Spells text) (hdigits : s.numeral.digits.length ≤ maxDigits)
    (hfield : Dict.get? fields (lower s.name) = some (.int v)) :
    evaluate text (.table fields) = .ok (decide (s.comparator.Holds v s.numeral.value)) := by
  have hparse : parse text =
      .ok (some (.clause ⟨lower s.name, s.comparator, s.numeral.value⟩)) := by
    rw [parse_of_spells hs, Comparison.read, Numeral.read, if_neg (Nat.not_lt.2 hdigits)]
    rfl
  rw [← Comparator.accepts_compare]
  simp [evaluate, hparse, holdsIn, fieldOf?, hfield, compareValue?, bind, Except.bind, pure,
    Except.pure]

/-- A condition depends on no field but the one that it asks for. -/
theorem evaluate_congr {text : String} {fields fields' : Table}
    (h : ∀ s : Comparison, s.Spells text →
      Dict.get? fields (lower s.name) = Dict.get? fields' (lower s.name)) :
    evaluate text (.table fields) = evaluate text (.table fields') := by
  obtain ⟨b, hparse⟩ | hparse | ⟨s, hs, hparse⟩ := parse_cases text
  · simp only [evaluate, hparse]
    rfl
  · simp only [evaluate, hparse]
    rfl
  · rw [evaluate, evaluate, hparse, Comparison.read]
    cases s.numeral.read with
    | error f => rfl
    | ok n =>
      show holdsIn (.table fields) (.clause ⟨lower s.name, s.comparator, n⟩) =
        holdsIn (.table fields') (.clause ⟨lower s.name, s.comparator, n⟩)
      simp only [holdsIn, fieldOf?, h s hs]

end Condition

namespace Command

open Condition

/-- The field is set before the reply is put into words, so that it is set even if this fails. -/
theorem context_set {raw : String} {v : Int} (hraw : readInt raw = .ok v) (console : Console)
    (field : String) :
    (Command.set [field, raw] console).2.context = console.context.set field (.int v) := by
  simp only [Command.set, hraw]
  rfl

/-- **After `set`, conditions on the field compare its new value, and no other condition changes.**

The integer of a condition may be spelled in the digits of any script. Every integer that is not too
long has such a spelling, the one in which it is written out. -/
theorem conditions_after_set {raw : String} {v : Int} (hraw : readInt raw = .ok v)
    (console : Console) (field : String) :
    let after := (Command.set [field, raw] console).2.context.snapshot
    (∀ (s : Comparison) (text : String), s.Spells text → lower s.name = lower field →
      s.numeral.digits.length ≤ maxDigits →
      evaluate text after = .ok (decide (s.comparator.Holds v s.numeral.value))) ∧
    (∀ text, ¬ AsksFor text field →
      evaluate text after = evaluate text console.context.snapshot) ∧
    ∀ n : Int, (Nat.toDigits 10 n.natAbs).length ≤ maxDigits →
      ∃ m : Numeral, writtenInt n = .ok (String.ofList m.spelling) ∧ m.value = n ∧
        m.digits.length ≤ maxDigits := by
  intro after
  have hafter : after = .table (Dict.put console.context.fields (lower field) (.int v)) := by
    show (Command.set [field, raw] console).2.context.snapshot = _
    rw [context_set hraw]
    rfl
  rw [hafter]
  refine ⟨fun s text hs hname hdigits => ?_, fun text hother => ?_, fun n hdigits => ?_⟩
  · exact evaluate_of_int hs hdigits (by rw [hname, Dict.get?_put_self])
  · refine evaluate_congr fun s hs => Dict.get?_put_of_ne fun hname => ?_
    exact hother ⟨s, hs, hname⟩
  · exact ⟨.ofInt n, Numeral.writtenInt_eq_ok hdigits, Numeral.value_ofInt n, hdigits⟩

/-- Heat is set to sixty: it is found under a name in other case, and what a condition says of the
cash stays as it was. -/
theorem conditions_after_set_heat :
    let console : Console :=
      ⟨⟨[("heat", .text "none"), ("cash", .int 5)]⟩, ⟨Settings.packaged, .packaged⟩⟩
    let after := (Command.set ["Heat", " 6_0 "] console).2.context.snapshot
    readInt " 6_0 " = .ok 60 ∧ lower "HEAT" = lower "Heat" ∧
    evaluate " HEAT >=\t６0 " after = .ok true ∧
    ¬ AsksFor "cash<-7" "Heat" ∧
    evaluate "cash<-7" after = evaluate "cash<-7" console.context.snapshot := by
  intro console after
  have hraw : readInt " 6_0 " = .ok 60 := rfl
  obtain ⟨hfield, hother, -⟩ := conditions_after_set hraw console "Heat"
  let s : Comparison := {
    field := "HEAT".toList
    gap := [' ']
    comparator := .ge
    gap' := ['\t']
    numeral := ⟨false, "６0".toList, by decide, List.all_eq_true.1 (by decide +kernel)⟩
    field_ne_nil := by decide
    isWordChar_of_mem := List.all_eq_true.1 (by decide +kernel)
    isBlank_of_mem := List.all_eq_true.1 (by decide)
    isBlank_of_mem' := List.all_eq_true.1 (by decide) }
  have hspells : s.Spells " HEAT >=\t６0 " :=
    ⟨[' '], [' '], by decide +kernel, s.isBlank_of_mem, s.isBlank_of_mem⟩
  have hholds : decide (s.comparator.Holds 60 s.numeral.value) = true := by decide +kernel
  have hcash : ¬ AsksFor "cash<-7" "Heat" := by
    rintro ⟨t, ht, hname⟩
    have hparse : parse "cash<-7" = .ok (some (.clause ⟨"cash", .lt, -7⟩)) := rfl
    rw [parse_of_spells ht, Comparison.read] at hparse
    have hlower : lower t.name = "cash" := by
      cases hread : t.numeral.read with
      | error f => simp [hread, Except.map] at hparse
      | ok n => simp_all [Except.map]
    rw [hlower] at hname
    exact absurd hname (by decide +kernel)
  refine ⟨hraw, by decide +kernel, ?_, hcash, hother _ hcash⟩
  rw [← hholds]
  exact hfield s _ hspells (by decide +kernel) (by decide +kernel)

end Command

end StreetConsole
