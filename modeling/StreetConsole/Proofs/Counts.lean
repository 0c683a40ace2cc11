import StreetConsole.Proofs.Lines
import StreetConsole.Proofs.Overlong

/-!
# Counts of lines

`head` and `tail` are told how many lines they take by the integer that their argument begins with.
`BeginsWith` says which one it is. It may be negative: then it is the number of lines that are left
out at the other end.

**Theorem (`head_tail_partition`).** The first `k` lines and all but the first `k` lines make up the
text, and so do all but the last `k` lines and the last `k` lines, as long as the text has more than
`k` lines. If it has no more, `k` asks for all lines and `-k` for none. An argument that says
nothing asks for ten lines.

Zero has to say nothing. As a number of lines to leave out it would be no different from the number
of lines to take, since it has no sign.
-/

namespace StreetConsole

open Text

/-- Lines are put together in two parts with a line feed between them, if neither part is empty. -/
theorem Text.unlines_take_drop {ls : List String} {k : Nat} (hpos : 0 < k) (hk : k < ls.length) :
    unlines (ls.take k) ++ "\n" ++ unlines (ls.drop k) = unlines ls := by
  have htake : ls.take k ≠ [] := List.ne_nil_of_length_pos (by rw [List.length_take]; omega)
  have hdrop : ls.drop k ≠ [] := List.ne_nil_of_length_pos (by rw [List.length_drop]; omega)
  have hparts := String.intercalate_append_of_ne_nil (s := "\n") htake hdrop
  rw [List.take_append_drop] at hparts
  exact hparts.symm

namespace Filter

/-! ## What an argument begins with -/

namespace LeadingNumeral

/-- The integer that the sign and the digits stand for. -/
def value (m : LeadingNumeral) : Int :=
  let n := natOfDigits (m.digits.filterMap digit?)
  if m.sign = ['-'] then -(n : Int) else n

/-- The integer is found again in the spelling. -/
theorem leadingInt_spelling {m : LeadingNumeral} {arg : String} (harg : arg.toList = m.spelling)
    (hdigits : m.digits.length ≤ maxDigits) : leadingInt arg = .ok m.value := by
  have hrun := (takeWhile_append_of_head m.isDigit_of_mem m.isDigit_head_rest).1
  unfold leadingInt
  rw [harg, m.takeSign_spelling]
  dsimp only
  rw [hrun, length_filterMap_digit? m.isDigit_of_mem, if_neg (Nat.not_lt.2 hdigits), value]
  simp only [beq_iff_eq]

end LeadingNumeral

/-- The text begins with the integer `n`, and it is not too long to read. -/
def BeginsWith (arg : String) (n : Int) : Prop :=
  ∃ m : LeadingNumeral, arg.toList = m.spelling ∧ m.digits.length ≤ maxDigits ∧ m.value = n

theorem BeginsWith.leadingInt {arg : String} {n : Int} (h : BeginsWith arg n) :
    Filter.leadingInt arg = .ok n := by
  obtain ⟨m, harg, hdigits, rfl⟩ := h
  exact m.leadingInt_spelling harg hdigits

/-- A text begins with the integer that is read from it, if there are digits to read. -/
theorem beginsWith_iff_leadingInt {arg : String} {n : Int} :
    BeginsWith arg n ↔ leadingDigits arg ≠ [] ∧ Filter.leadingInt arg = .ok n := by
  constructor
  · intro h
    have hint := h.leadingInt
    obtain ⟨m, harg, -, -⟩ := h
    exact ⟨LeadingNumeral.exists_spelling_iff.1 ⟨m, harg⟩, hint⟩
  · rintro ⟨hdigits, hint⟩
    obtain ⟨m, harg⟩ := LeadingNumeral.exists_spelling_iff.2 hdigits
    have hshort : m.digits.length ≤ maxDigits := by
      by_contra hlong
      rw [← m.leadingDigits_eq harg, Nat.not_le] at hlong
      rw [leadingInt_eq_error.2 ⟨hlong, rfl⟩] at hint
      cases hint
    rw [m.leadingInt_spelling harg hshort] at hint
    exact ⟨m, harg, hshort, Except.ok.inj hint⟩

theorem leadingInt_of_no_spelling {arg : String}
    (h : ¬ ∃ m : LeadingNumeral, arg.toList = m.spelling) : leadingInt arg = .ok 0 := by
  rw [LeadingNumeral.exists_spelling_iff, not_not] at h
  unfold leadingInt
  split
  next negative rest hrest =>
  have hdigits : rest.takeWhile isDigit = [] := by rw [← h, leadingDigits, hrest]
  rw [hdigits]
  cases negative <;> rfl

/-! ## How many lines are asked for -/

/-- The arguments do not say how many lines: there are none, or the first one begins with no integer
or with zero. -/
def Unasked : List String → Prop
  | [] => True
  | arg :: _ => (¬ ∃ m : LeadingNumeral, arg.toList = m.spelling) ∨ BeginsWith arg 0

theorem lineCount_of_beginsWith {arg : String} {n : Int} (h : BeginsWith arg n) (hn : n ≠ 0)
    (args : List String) : lineCount (arg :: args) = .ok n := by
  show (leadingInt arg >>= fun n => pure (if n == 0 then (defaultCount : Int) else n)) = _
  rw [h.leadingInt]
  simp [bind, Except.bind, pure, Except.pure, hn]

theorem lineCount_of_unasked {args : List String} (h : Unasked args) :
    lineCount args = .ok defaultCount := by
  cases args with
  | nil => rfl
  | cons arg args =>
    have hzero : leadingInt arg = .ok 0 := by
      rcases h with hnone | hzero
      · exact leadingInt_of_no_spelling hnone
      · exact hzero.leadingInt
    show (leadingInt arg >>= fun n => pure (if n == 0 then (defaultCount : Int) else n)) = _
    rw [hzero]
    rfl

theorem head_of_lineCount {args : List String} {n : Int} (h : lineCount args = .ok n)
    (text : String) : head text args = .ok (.ok (unlines (takeFirst n (lines text)))) := by
  rw [head, h]
  rfl

theorem tail_of_lineCount {args : List String} {n : Int} (h : lineCount args = .ok n)
    (text : String) : tail text args = .ok (.ok (unlines (takeLast n (lines text)))) := by
  rw [tail, h]
  rfl

/-! ## Taking lines and leaving lines out -/

theorem takeFirst_ofNat (k : Nat) (ls : List String) : takeFirst k ls = ls.take k := rfl

theorem takeLast_ofNat (k : Nat) (ls : List String) : takeLast k ls = ls.drop (ls.length - k) := rfl

theorem takeFirst_neg {k : Nat} (hk : 1 ≤ k) (ls : List String) :
    takeFirst (-k) ls = ls.take (ls.length - k) := by
  obtain ⟨j, rfl⟩ := Nat.exists_eq_add_of_le' hk
  rfl

theorem takeLast_neg {k : Nat} (hk : 1 ≤ k) (ls : List String) : takeLast (-k) ls = ls.drop k := by
  obtain ⟨j, rfl⟩ := Nat.exists_eq_add_of_le' hk
  rfl

/-- **`head` and `tail` part a text between them.**

Let one argument begin with `k` and another one with `-k`. In a text of more than `k` lines, what
`head` takes for the one and `tail` for the other make up the text, and the other way round; the
part that is taken for `k` has `k` lines. In a text of no more than `k` lines, both take the text
for `k` and nothing for `-k`. Arguments that do not say how many lines are as good as ones that
begin with ten. -/
theorem head_tail_partition (text : String) :
    (∀ (k : Nat) (arg arg' : String) (args args' : List String), 1 ≤ k → BeginsWith arg k →
      BeginsWith arg' (-k) →
      (k < (lines text).length →
        (∃ front back, head text (arg :: args) = .ok (.ok front) ∧
          tail text (arg' :: args') = .ok (.ok back) ∧ front ++ "\n" ++ back = text ∧
          (lines front).length = k) ∧
        ∃ front back, head text (arg' :: args') = .ok (.ok front) ∧
          tail text (arg :: args) = .ok (.ok back) ∧ front ++ "\n" ++ back = text ∧
          (lines back).length = k) ∧
      ((lines text).length ≤ k →
        head text (arg :: args) = .ok (.ok text) ∧ tail text (arg :: args) = .ok (.ok text) ∧
        head text (arg' :: args') = .ok (.ok "") ∧ tail text (arg' :: args') = .ok (.ok ""))) ∧
    ∀ (args : List String) (ten : String) (args' : List String), Unasked args →
      BeginsWith ten 10 →
      head text args = head text (ten :: args') ∧ tail text args = tail text (ten :: args') := by
  constructor
  · intro k arg arg' args args' hk harg harg'
    have hcount := lineCount_of_beginsWith harg (by omega) args
    have hcount' := lineCount_of_beginsWith harg' (by omega) args'
    rw [head_of_lineCount hcount, tail_of_lineCount hcount, head_of_lineCount hcount',
      tail_of_lineCount hcount', takeFirst_ofNat, takeLast_ofNat, takeFirst_neg hk,
      takeLast_neg hk]
    constructor
    · intro hlt
      have hfront : ((lines text).take k).length = k := by
        rw [List.length_take]
        omega
      have hback : ((lines text).drop ((lines text).length - k)).length = k := by
        rw [List.length_drop]
        omega
      refine ⟨⟨_, _, rfl, rfl, ?_, ?_⟩, ⟨_, _, rfl, rfl, ?_, ?_⟩⟩
      · rw [unlines_take_drop hk hlt, unlines_lines]
      · rw [lines_unlines_of_subset (List.ne_nil_of_length_pos (by omega)) (List.take_subset _ _),
          hfront]
      · rw [unlines_take_drop (by omega) (by omega), unlines_lines]
      · rw [lines_unlines_of_subset (List.ne_nil_of_length_pos (by omega)) (List.drop_subset _ _),
          hback]
    · intro hle
      have hzero : (lines text).length - k = 0 := by omega
      rw [hzero, List.take_of_length_le hle, List.drop_eq_nil_of_le hle, List.take_zero,
        List.drop_zero, unlines_lines]
      exact ⟨rfl, rfl, rfl, rfl⟩
  · intro args ten args' hargs hten
    have hcount := lineCount_of_unasked hargs
    have hcount' := lineCount_of_beginsWith hten (by decide) args'
    rw [head_of_lineCount hcount, tail_of_lineCount hcount, head_of_lineCount hcount',
      tail_of_lineCount hcount']
    exact ⟨rfl, rfl⟩

/-- Three lines, parted after the second and then not at all. The sign, the blanks, what follows the
digits and their script make no difference. -/
theorem head_tail_partition_three :
    let text := "a\nb\nc"
    (BeginsWith " +2x" 2 ∧ BeginsWith "-٢" (-2) ∧ 2 < (lines text).length) ∧
    (∃ front back, head text [" +2x", "1"] = .ok (.ok front) ∧ tail text ["-٢"] = .ok (.ok back) ∧
      front ++ "\n" ++ back = text ∧ (lines front).length = 2) ∧
    (BeginsWith "3" 3 ∧ BeginsWith "-3" (-3) ∧ (lines text).length ≤ 3) ∧
    (head text ["3"] = .ok (.ok text) ∧ tail text ["-3"] = .ok (.ok "")) ∧
    (Unasked ["many"] ∧ BeginsWith "10" 10) ∧ tail text ["many"] = tail text ["10"] := by
  intro text
  have htwo : BeginsWith " +2x" 2 := beginsWith_iff_leadingInt.2 ⟨by decide +kernel, rfl⟩
  have hlessTwo : BeginsWith "-٢" (-2) := beginsWith_iff_leadingInt.2 ⟨by decide +kernel, rfl⟩
  have hthree : BeginsWith "3" 3 := beginsWith_iff_leadingInt.2 ⟨by decide +kernel, rfl⟩
  have hlessThree : BeginsWith "-3" (-3) := beginsWith_iff_leadingInt.2 ⟨by decide +kernel, rfl⟩
  have hten : BeginsWith "10" 10 := beginsWith_iff_leadingInt.2 ⟨by decide +kernel, rfl⟩
  have hmany : Unasked ["many"] :=
    Or.inl (by rw [LeadingNumeral.exists_spelling_iff, not_not]; decide +kernel)
  have hlength : (lines text).length = 3 := by decide +kernel
  obtain ⟨hparts, hunasked⟩ := head_tail_partition text
  have hshort : 2 < (lines text).length := by omega
  have hlong : (lines text).length ≤ 3 := by omega
  obtain ⟨hall, -, -, hnothing⟩ :=
    (hparts 3 "3" "-3" [] [] (by decide) hthree hlessThree).2 hlong
  exact ⟨⟨htwo, hlessTwo, hshort⟩,
    ((hparts 2 " +2x" "-٢" ["1"] [] (by decide) htwo hlessTwo).1 hshort).1,
    ⟨hthree, hlessThree, hlong⟩, ⟨hall, hnothing⟩, ⟨hmany, hten⟩,
    (hunasked ["many"] "10" [] hmany hten).2⟩

end Filter

end StreetConsole
