import Mathlib.Logic.Relation
import StreetConsole.Proofs.Overlong
import StreetConsole.Proofs.Run

/-!
# What a conditional line comes down to

A conditional line is run by running one of its branches, which may be a conditional line again.
`Conditional.branch?` is the branch that a line is replaced by in a given state, if there is one,
and `Conditional.leaf` is the line at the end of this path. Both are functions of the line and of
the state: no runner has a part in them.

**Theorem (`execute_leaf`).** With every engine, to run a line is to run its leaf.

A leaf that is no conditional is run as it is; the others call no runner. They are conditionals that
cannot be read, whose condition fails without an `else`, or whose condition compares with an integer
too long to read (`branch?_eq_none_iff`). In a snapshot of the state nothing else can stop a
condition (`Condition.evaluate_eq_error_iff`).

The path ends because each branch is shorter than its line without the blanks at its ends
(`length_of_branch?`).
-/

namespace StreetConsole

/-! ## Conditions in a snapshot -/

/-- A snapshot of the state: its fields, or nothing at all. -/
def Value.IsSnapshot : Value → Prop
  | .null | .table _ => True
  | .bool _ | .int _ | .double _ | .text _ | .list _ => False

namespace Condition

theorem exists_fieldOf? {state : Value} (hstate : state.IsSnapshot) (field : String) :
    ∃ v, fieldOf? state field = .ok v := by
  cases state with
  | null => exact ⟨_, rfl⟩
  | table entries => exact ⟨_, rfl⟩
  | _ => exact hstate.elim

theorem exists_holdsIn {state : Value} (hstate : state.IsSnapshot) (c : Condition) :
    ∃ b, c.holdsIn state = .ok b := by
  cases c with
  | literal b => exact ⟨b, rfl⟩
  | clause c =>
    obtain ⟨v, hv⟩ := exists_fieldOf? hstate c.field
    unfold holdsIn
    dsimp only
    rw [hv]
    cases v with
    | none => exact ⟨_, rfl⟩
    | some v =>
      dsimp only [bind, Except.bind]
      split <;> exact ⟨_, rfl⟩

/-- In a snapshot a condition is given up exactly when an integer in it is too long. -/
theorem evaluate_eq_error_iff {text : String} {state : Value} {f : Fault}
    (hstate : state.IsSnapshot) :
    evaluate text state = .error f ↔ ∃ n, Overlong text n ∧ f = .numeralTooLong n := by
  rw [← parse_eq_error_iff]
  unfold evaluate
  cases hparse : parse text with
  | error g =>
    show (Except.error g : Except Fault Bool) = .error f ↔ _
    rw [Except.error.injEq, Except.error.injEq]
  | ok c =>
    cases c with
    | none => constructor <;> intro h <;> cases h
    | some c =>
      obtain ⟨b, hb⟩ := exists_holdsIn hstate c
      show c.holdsIn state = .error f ↔ _
      rw [hb]
      constructor <;> intro h <;> cases h

end Condition

/-! ## Branches -/

namespace Conditional

/-- The branch that a line is replaced by in a state: none for a line that is no conditional, that
cannot be read, or whose condition is given up or fails without an `else`. -/
def branch? (state : Value) (line : String) : Option String :=
  if isConditional line then
    match parse? line with
    | none => none
    | some c =>
      match Condition.evaluate c.condition state with
      | .ok true => some c.thenBranch
      | .ok false => c.elseBranch
      | .error _ => none
  else none

theorem branch?_eq_some_iff {state : Value} {line next : String} :
    branch? state line = some next ↔
      isConditional line = true ∧ ∃ c, parse? line = some c ∧
        (Condition.evaluate c.condition state = .ok true ∧ c.thenBranch = next ∨
          Condition.evaluate c.condition state = .ok false ∧ c.elseBranch = some next) := by
  unfold branch?
  cases isConditional line with
  | false => simp
  | true =>
    cases parse? line with
    | none => simp
    | some c =>
      rcases h : Condition.evaluate c.condition state with f | _ | _ <;> simp [h]

/-- Where a path ends. -/
theorem branch?_eq_none_iff {state : Value} {line : String} :
    branch? state line = none ↔
      isConditional line = false ∨ parse? line = none ∨
        ∃ c, parse? line = some c ∧
          ((∃ f, Condition.evaluate c.condition state = .error f) ∨
            Condition.evaluate c.condition state = .ok false ∧ c.elseBranch = none) := by
  unfold branch?
  cases isConditional line with
  | false => simp
  | true =>
    cases parse? line with
    | none => simp
    | some c =>
      rcases h : Condition.evaluate c.condition state with f | _ | _ <;> simp [h]

theorem parse?_trim (line : String) : parse? (Text.trim line) = parse? line := by
  rw [parse?, parse?, Text.trimChars_toList_trim]

/-- **A branch is shorter than its line, even without the blanks at the ends of the line.** -/
theorem length_of_branch? {state : Value} {line next : String}
    (h : branch? state line = some next) : next.length < (Text.trim line).length := by
  obtain ⟨-, c, hc, ⟨-, rfl⟩ | ⟨-, hnext⟩⟩ := branch?_eq_some_iff.1 h
  · exact thenBranch_length_lt ((parse?_trim line).trans hc)
  · exact elseBranch_length_lt ((parse?_trim line).trans hc) hnext

theorem length_trim_le (line : String) : (Text.trim line).length ≤ line.length := by
  have h := length_trimChars_le line.toList
  rwa [← Text.toList_trim, String.length_toList, String.length_toList] at h

/-- The line at the end of the path of branches. -/
def leaf (state : Value) (line : String) : String :=
  match _h : branch? state line with
  | some next => leaf state next
  | none => line
termination_by line.length
decreasing_by exact Nat.lt_of_lt_of_le (length_of_branch? _h) (length_trim_le line)

theorem leaf_of_branch? {state : Value} {line next : String} (h : branch? state line = some next) :
    leaf state line = leaf state next := by
  rw [leaf]
  split
  · next next' h' =>
    rw [h] at h'
    cases h'
    rfl
  · next h' =>
    rw [h] at h'
    cases h'

theorem leaf_of_branch?_eq_none {state : Value} {line : String} (h : branch? state line = none) :
    leaf state line = line := by
  rw [leaf]
  split
  · next next' h' =>
    rw [h] at h'
    cases h'
  · rfl

/-- The path leads from the line to its leaf, and its lines become shorter. -/
theorem reflTransGen_leaf (state : Value) (line : String) :
    Relation.ReflTransGen (fun a b => branch? state a = some b ∧ b.length < (Text.trim a).length)
      line (leaf state line) := by
  fun_induction leaf state line with
  | case1 line next h ih => exact Relation.ReflTransGen.head ⟨h, length_of_branch? h⟩ ih
  | case2 line h => exact Relation.ReflTransGen.refl

/-- The path ends at the leaf. -/
theorem branch?_leaf (state : Value) (line : String) : branch? state (leaf state line) = none := by
  fun_induction leaf state line with
  | case1 line next h ih => exact ih
  | case2 line h => exact h

theorem trim_ne_empty_of_isConditional {line : String} (h : isConditional line = true) :
    Text.trim line ≠ "" := by
  intro hempty
  rw [isConditional, ← Text.toList_trim, hempty] at h
  simp [begins, afterKeyword?] at h

/-- The text is the condition of the line, or of a branch of it at any depth. -/
inductive Mentions : String → String → Prop
  | condition {line : String} {c : Conditional} : parse? line = some c → Mentions line c.condition
  | thenBranch {line text : String} {c : Conditional} : parse? line = some c →
      Mentions c.thenBranch text → Mentions line text
  | elseBranch {line b text : String} {c : Conditional} : parse? line = some c →
      c.elseBranch = some b → Mentions b text → Mentions line text

theorem mentions_iff {line text : String} {c : Conditional} (h : parse? line = some c) :
    Mentions line text ↔ text = c.condition ∨ Mentions c.thenBranch text ∨
      ∃ b, c.elseBranch = some b ∧ Mentions b text := by
  constructor
  · rintro (hc | ⟨hc, ht⟩ | ⟨hc, hb, ht⟩) <;> rw [h] at hc <;> cases hc
    · exact Or.inl rfl
    · exact Or.inr (Or.inl ht)
    · exact Or.inr (Or.inr ⟨_, hb, ht⟩)
  · rintro (rfl | ht | ⟨b, hb, ht⟩)
    · exact .condition h
    · exact .thenBranch h ht
    · exact .elseBranch h hb ht

theorem not_mentions {line text : String} (h : parse? line = none) : ¬ Mentions line text := by
  rintro (hc | ⟨hc, _⟩ | ⟨hc, _, _⟩) <;> rw [h] at hc <;> cases hc

theorem Mentions.of_branch? {state : Value} {line next text : String}
    (h : branch? state line = some next) (hnext : Mentions next text) : Mentions line text := by
  obtain ⟨-, c, hc, ⟨-, rfl⟩ | ⟨-, hb⟩⟩ := branch?_eq_some_iff.1 h
  · exact .thenBranch hc hnext
  · exact .elseBranch hc hb hnext

theorem Mentions.of_leaf {state : Value} {line text : String}
    (h : Mentions (leaf state line) text) : Mentions line text := by
  fun_induction leaf state line with
  | case1 line next hnext ih => exact .of_branch? hnext (ih h)
  | case2 line _ => exact h

/-- The outcome of a line that is settled without running a command: a blank line, a conditional
that cannot be read, or one whose condition fails where there is no `else`. -/
inductive Settled (state : Value) (line : String) : Outcome → Prop
  | blank : Text.trim line = "" → Settled state line (.fail "Empty command")
  | unreadable : isConditional line = true → parse? line = none →
      Settled state line (.fail ParseError.badConditional.message)
  | noElse {c : Conditional} : isConditional line = true → parse? line = some c →
      Condition.evaluate c.condition state = .ok false → c.elseBranch = none →
      Settled state line (.ok "")

end Conditional

/-! ## Running a line along its path -/

namespace Engine

open Conditional

variable {σ : Type}

theorem execute_of_not_isConditional (e : Engine σ) (state : Value) {line : String}
    (h : isConditional line = false) :
    e.execute state line =
      if Text.trim line = "" then pure (.fail "Empty command") else e.plainLine line := by
  rw [execute]
  simp [h]

theorem execute_of_unreadable (e : Engine σ) (state : Value) {line : String}
    (hline : isConditional line = true) (h : parse? line = none) :
    e.execute state line = pure (.fail ParseError.badConditional.message) := by
  have hblank := trim_ne_empty_of_isConditional hline
  rw [execute, if_neg (by simpa using hblank), if_pos hline]
  split
  · rfl
  · next c hc =>
    rw [h] at hc
    cases hc

theorem execute_of_parse? (e : Engine σ) (state : Value) {line : String} {c : Conditional}
    (hline : isConditional line = true) (hc : parse? line = some c) :
    e.execute state line = match Condition.evaluate c.condition state with
      | .error f => ExceptT.mk (pure (.error f))
      | .ok true => e.execute state c.thenBranch
      | .ok false => match c.elseBranch with
        | some b => e.execute state b
        | none => pure (.ok "") := by
  have hblank := trim_ne_empty_of_isConditional hline
  conv_lhs => rw [execute, if_neg (by simpa using hblank), if_pos hline]
  split
  · next hnone =>
    rw [hc] at hnone
    cases hnone
  · next c' hc' =>
    rw [hc] at hc'
    cases hc'
    refine Run.ext fun s => ?_
    rcases Condition.evaluate c.condition state with f | _ | _
    · rfl
    · rw [Run.on_bind_of_ok (Run.on_mk_pure _ s), if_neg Bool.false_ne_true]
      split <;> simp_all
    · rw [Run.on_bind_of_ok (Run.on_mk_pure _ s), if_pos rfl]

/-- To run a line is to run its branch. -/
theorem execute_of_branch? (e : Engine σ) {state : Value} {line next : String}
    (h : branch? state line = some next) : e.execute state line = e.execute state next := by
  obtain ⟨hline, c, hc, hbranch⟩ := branch?_eq_some_iff.1 h
  rw [e.execute_of_parse? state hline hc]
  rcases hbranch with ⟨heval, rfl⟩ | ⟨heval, hnext⟩
  · rw [heval]
  · rw [heval, hnext]

/-- **To run a line is to run its leaf.** -/
theorem execute_leaf (e : Engine σ) (state : Value) (line : String) :
    e.execute state (leaf state line) = e.execute state line := by
  fun_induction leaf state line with
  | case1 line next h ih => rw [ih, e.execute_of_branch? h]
  | case2 line h => rfl

/-- **A line is a chain or runs nothing.** It does what its leaf does as a chain, or it has the same
answer with every engine and does nothing. -/
theorem execute_cases (state : Value) (line : String) :
    (isConditional (leaf state line) = false ∧
      ∀ {σ : Type} (e : Engine σ), e.execute state line = e.plainLine (leaf state line)) ∨
    ∃ answer, ∀ {σ : Type} (e : Engine σ), e.execute state line = ExceptT.mk (pure answer) := by
  cases hline : isConditional (leaf state line) with
  | false =>
    by_cases hblank : Text.trim (leaf state line) = ""
    · refine Or.inr ⟨.ok (.fail "Empty command"), fun e => ?_⟩
      rw [← e.execute_leaf, e.execute_of_not_isConditional state hline, if_pos hblank]
      rfl
    · refine Or.inl ⟨rfl, fun e => ?_⟩
      rw [← e.execute_leaf, e.execute_of_not_isConditional state hline, if_neg hblank]
  | true =>
    rcases branch?_eq_none_iff.1 (branch?_leaf state line) with hplain | hc | ⟨c, hc, hstop⟩
    · rw [hline] at hplain
      cases hplain
    · refine Or.inr ⟨.ok (.fail ParseError.badConditional.message), fun e => ?_⟩
      rw [← e.execute_leaf, e.execute_of_unreadable state hline hc]
      rfl
    · rcases hstop with ⟨f, hf⟩ | ⟨heval, helse⟩
      · refine Or.inr ⟨.error f, fun e => ?_⟩
        rw [← e.execute_leaf, e.execute_of_parse? state hline hc, hf]
      · refine Or.inr ⟨.ok (.ok ""), fun e => ?_⟩
        rw [← e.execute_leaf, e.execute_of_parse? state hline hc, heval, helse]
        rfl

theorem execute_of_settled (e : Engine σ) {state : Value} {line : String} {o : Outcome}
    (h : Settled state line o) : e.execute state line = pure o := by
  cases h with
  | blank hblank =>
    have hline : isConditional line = false := by
      rw [Bool.eq_false_iff]
      exact fun hline => trim_ne_empty_of_isConditional hline hblank
    rw [e.execute_of_not_isConditional state hline, if_pos hblank]
  | unreadable hline hc => exact e.execute_of_unreadable state hline hc
  | noElse hline hc heval helse => rw [e.execute_of_parse? state hline hc, heval, helse]

/-- A leaf at which no line is run is settled, unless an integer in a condition is too long. -/
theorem exists_settled_leaf {state : Value} (hstate : state.IsSnapshot) {line : String}
    (hread : ∀ text n, Mentions line text → ¬ Condition.Overlong text n)
    (h : ¬ (isConditional (leaf state line) = false ∧ Text.trim (leaf state line) ≠ "")) :
    ∃ o, Settled state (leaf state line) o := by
  by_cases hline : isConditional (leaf state line) = true
  · rcases branch?_eq_none_iff.1 (branch?_leaf state line) with hplain | hc | ⟨c, hc, hstop⟩
    · rw [hline] at hplain
      cases hplain
    · exact ⟨_, .unreadable hline hc⟩
    · rcases hstop with ⟨f, hf⟩ | ⟨heval, helse⟩
      · obtain ⟨n, hlong, rfl⟩ := (Condition.evaluate_eq_error_iff hstate).1 hf
        exact absurd hlong (hread _ n (Mentions.of_leaf (.condition hc)))
      · exact ⟨_, .noElse hline hc heval helse⟩
  · rw [Bool.not_eq_true] at hline
    exact ⟨_, .blank (by_contra fun hblank => h ⟨hline, hblank⟩)⟩

/-- **A line comes down to exactly one line that is no conditional, or to none.** The path to this
line is a matter of the line and the snapshot alone, and each line on it is shorter than the one in
front of it without its blanks. With every engine, the recording one included, the line does what
the line at the end of the path does; or that line is settled without a call. -/
theorem execute_along_branches {state : Value} (hstate : state.IsSnapshot) {line : String}
    (hread : ∀ text n, Mentions line text → ¬ Condition.Overlong text n) :
    Relation.ReflTransGen (fun a b => branch? state a = some b ∧ b.length < (Text.trim a).length)
      line (leaf state line) ∧
    ((isConditional (leaf state line) = false ∧ Text.trim (leaf state line) ≠ "" ∧
        ∀ {σ : Type} (e : Engine σ), e.execute state line = e.execute state (leaf state line)) ∨
      ∃ o, Settled state (leaf state line) o ∧
        ∀ {σ : Type} (e : Engine σ) (s : σ), Run.on (e.execute state line) s = (.ok o, s)) := by
  refine ⟨reflTransGen_leaf state line, ?_⟩
  by_cases hplain : isConditional (leaf state line) = false ∧ Text.trim (leaf state line) ≠ ""
  · exact Or.inl ⟨hplain.1, hplain.2, fun e => (e.execute_leaf state line).symm⟩
  · obtain ⟨o, ho⟩ := exists_settled_leaf hstate hread hplain
    refine Or.inr ⟨o, ho, fun e s => ?_⟩
    rw [← e.execute_leaf state line, e.execute_of_settled ho, Run.on_pure]

/-- A conditional in a conditional. The `else` belongs to the outer one. -/
def nestedLine : String := "if heat > 5 then if true then a && b else c"

/-- A state with one field. -/
def heated : Value := .table [("heat", .int 7)]

theorem not_overlong_of_mentions_nestedLine (text : String) (n : Nat)
    (h : Mentions nestedLine text) : ¬ Condition.Overlong text n := by
  have houter : parse? nestedLine = some ⟨"heat > 5", "if true then a && b", some "c"⟩ := rfl
  have hinner : parse? "if true then a && b" = some ⟨"true", "a && b", none⟩ := rfl
  have hleaf : parse? "a && b" = none := rfl
  have helse : parse? "c" = none := rfl
  intro hlong
  have hparse := Condition.parse_eq_error_iff.2 ⟨n, hlong, rfl⟩
  simp only [mentions_iff houter, mentions_iff hinner, not_mentions hleaf, not_mentions helse,
    Option.some.injEq, exists_eq_left', reduceCtorEq, false_and, exists_false, or_false] at h
  rcases h with rfl | rfl <;> cases hparse

theorem leaf_nestedLine : leaf heated nestedLine = "a && b" := by
  have houter : branch? heated nestedLine = some "if true then a && b" := rfl
  have hinner : branch? heated "if true then a && b" = some "a && b" := rfl
  rw [leaf_of_branch? houter, leaf_of_branch? hinner, leaf_of_branch?_eq_none rfl]

theorem execute_nestedLine :
    heated.IsSnapshot ∧ (∀ text n, Mentions nestedLine text → ¬ Condition.Overlong text n) ∧
    ∀ {σ : Type} (e : Engine σ), e.execute heated nestedLine = e.execute heated "a && b" := by
  refine ⟨trivial, not_overlong_of_mentions_nestedLine, ?_⟩
  obtain ⟨-, h⟩ :=
    @execute_along_branches heated trivial nestedLine not_overlong_of_mentions_nestedLine
  rw [leaf_nestedLine] at h
  obtain ⟨-, -, h⟩ | ⟨o, ho, -⟩ := h
  · exact h
  · -- The line at the end of the path is neither blank nor a conditional.
    cases ho with
    | blank h => exact absurd h (by decide)
    | unreadable h _ => exact absurd h (by decide)
    | noElse h _ _ _ => exact absurd h (by decide)

end Engine

end StreetConsole
