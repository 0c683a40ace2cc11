import StreetConsole.Proofs.Branch
import StreetConsole.Proofs.Silence

/-!
# What the engine takes from its runner

A runner may answer with an outcome, with a value or with an object, or it may raise a fault. The
engine makes an outcome of all of these, and nothing else of the answer counts. `Engine.normalized`
is the engine whose runner does this by itself: it answers with the outcome that an answer stands
for, and with a failure in place of a fault.

**Theorem (`execute_normalized`).** An engine and its normalized twin do the same with every line.
They answer the same, are given up alike, leave the same state and make the same calls.

The proof has two parts. The outcome of a command is the same for both (`settle_normalizedAnswer`):
the failure that stands for a fault has a message, so that it is not given another one. And engines
that agree on single commands agree on links, chains and lines (`execute_congr`). For lines it is
enough to look at the leaves, because each line is run by running its leaf.

One kind of answer has no outcome, a fault whose own text cannot be written. The normalized runner
raises it as it is (`exists_normalizedAnswer_eq_ok_or`).
-/

namespace StreetConsole.Engine

variable {σ : Type}

/-! ## Engines that agree on single commands -/

section Congruence

variable {e e' : Engine σ} (hsingle : ∀ command, e.single command = e'.single command)
  (hfilters : e.filters = e'.filters)

include hsingle hfilters

theorem link_congr (l : Link) : e.link l = e'.link l := by
  simp only [link, hsingle, hfilters]

theorem chainFrom_congr (last : Outcome) (log : List String) (links : List Link) :
    e.chainFrom last log links = e'.chainFrom last log links := by
  induction links generalizing last log with
  | nil => rfl
  | cons l links ih => simp only [chainFrom, link_congr hsingle hfilters, ih]

theorem plainLine_congr (line : String) : e.plainLine line = e'.plainLine line := by
  unfold plainLine
  split
  · rfl
  · rfl
  · exact hsingle _
  · exact chainFrom_congr hsingle hfilters _ _ _

/-- **The engine looks at its runner through single commands only.** -/
theorem execute_congr (state : Value) (line : String) :
    e.execute state line = e'.execute state line := by
  rcases execute_cases state line with ⟨-, hplain⟩ | ⟨answer, hanswer⟩
  · rw [hplain, hplain, plainLine_congr hsingle hfilters]
  · rw [hanswer, hanswer]

end Congruence

/-! ## Normalized runners -/

/-- An answer as an outcome: the one that it stands for, or in place of a fault the failure with the
fault's text, or its class where the text is empty. A fault without a text stays what it is. -/
def normalizedAnswer (answer : Except Fault Reply) : Except Fault Reply :=
  match answer.bind Reply.normalize with
  | .ok o => .ok (.outcome o)
  | .error f =>
    match f.message with
    | .ok text => .ok (.outcome (.fail (if text = "" then f.name else text)))
    | .error _ => .error f

/-- The engine whose runner does the same and answers with outcomes. -/
def normalized (e : Engine σ) : Engine σ where
  runner := e.runner.map fun run command s =>
    (normalizedAnswer (run command s).1, (run command s).2)
  filters := e.filters

section Answers

variable {answer : Except Fault Reply} {o : Outcome} {f g : Fault} {text : String}

theorem normalizedAnswer_of_ok (h : answer.bind Reply.normalize = .ok o) :
    normalizedAnswer answer = .ok (.outcome o) := by
  rw [normalizedAnswer, h]

theorem normalizedAnswer_of_message_eq_ok (h : answer.bind Reply.normalize = .error f)
    (hf : f.message = .ok text) :
    normalizedAnswer answer = .ok (.outcome (.fail (if text = "" then f.name else text))) := by
  rw [normalizedAnswer, h]
  dsimp only
  rw [hf]

theorem normalizedAnswer_of_message_eq_error (h : answer.bind Reply.normalize = .error f)
    (hf : f.message = .error g) : normalizedAnswer answer = .error f := by
  rw [normalizedAnswer, h]
  dsimp only
  rw [hf]

/-- A fault without a text is one that the runner raised. -/
theorem eq_error_of_wordless (h : answer.bind Reply.normalize = .error f) (hf : f.Wordless) :
    answer = .error f := by
  cases answer with
  | error g => exact congrArg Except.error (Except.error.inj h)
  | ok r =>
    -- The answer has no outcome because of an integer that is too long, and this fault has a text.
    obtain ⟨P, hP⟩ := r.exists_failsIf_normalize
    obtain ⟨-, rfl⟩ := (hP f).1 h
    exact hf.elim

/-- A normalized runner answers with an outcome, unless the runner raises a fault without a text. -/
theorem exists_normalizedAnswer_eq_ok_or (answer : Except Fault Reply) :
    (∃ o, normalizedAnswer answer = .ok (.outcome o)) ∨
      ∃ f, answer = .error f ∧ f.Wordless ∧ normalizedAnswer answer = .error f := by
  cases h : answer.bind Reply.normalize with
  | ok o => exact Or.inl ⟨o, normalizedAnswer_of_ok h⟩
  | error f =>
    cases hf : f.message with
    | ok text => exact Or.inl ⟨_, normalizedAnswer_of_message_eq_ok h hf⟩
    | error g =>
      have hwordless : f.Wordless := ((f.failsIf_message g).1 hf).1
      exact Or.inr ⟨f, eq_error_of_wordless h hwordless, hwordless,
        normalizedAnswer_of_message_eq_error h hf⟩

theorem failureOf_of_message_eq_ok (hf : f.message = .ok text) :
    failureOf f = .ok (.fail (if text = "" then f.name else text)) := by
  rw [failureOf, hf]
  by_cases htext : text = "" <;> simp [htext, pure, Except.pure, bind, Except.bind]

theorem settle_of_bind_eq_error {command : String} (h : answer.bind Reply.normalize = .error f) :
    settle command answer = failureOf f := by
  rw [settle, h]

/-- An outcome is left as it is, unless it is a failure without a message. -/
theorem settle_outcome {command : String} (h : ¬ o.Silent) :
    settle command (.ok (.outcome o)) = .ok o := by
  show (if !o.success && o.errorText.isEmpty then _ else _) = _
  rw [if_neg]
  simpa [Outcome.Silent] using h

end Answers

/-- **A normalized answer has the same outcome.** -/
theorem settle_normalizedAnswer (command : String) (answer : Except Fault Reply) :
    settle command (normalizedAnswer answer) = settle command answer := by
  cases h : answer.bind Reply.normalize with
  | ok o =>
    rw [normalizedAnswer_of_ok h, settle, settle, h]
    rfl
  | error f =>
    rw [settle_of_bind_eq_error h]
    cases hf : f.message with
    | ok text =>
      have hfailure := failureOf_of_message_eq_ok hf
      rw [normalizedAnswer_of_message_eq_ok h hf, hfailure]
      exact settle_outcome (not_silent_failureOf hfailure)
    | error g =>
      rw [normalizedAnswer_of_message_eq_error h hf]
      exact settle_of_bind_eq_error rfl

theorem single_normalized (e : Engine σ) (command : String) :
    e.normalized.single command = e.single command := by
  refine Run.ext fun s => ?_
  rw [on_single, on_single, normalized]
  cases e.runner with
  | none => rfl
  | some run => exact Prod.ext (settle_normalizedAnswer command _) rfl

theorem recording_normalized (e : Engine σ) : e.normalized.recording = e.recording.normalized := by
  obtain ⟨runner, filters⟩ := e
  cases runner <;> rfl

theorem execute_of_normalized (e : Engine σ) (state : Value) (line : String) :
    e.normalized.execute state line = e.execute state line :=
  execute_congr e.single_normalized rfl state line

/-- **The engine depends on its runner only through the outcomes of the answers.** An engine and its
normalized twin do the same with every line, and so do the two that write down their calls. The
normalized runner answers with outcomes, unless the runner raises a fault without a text. And a
command that fails has a message. -/
theorem execute_normalized (e : Engine σ) (state : Value) (line : String) :
    e.normalized.execute state line = e.execute state line ∧
    e.normalized.recording.execute state line = e.recording.execute state line ∧
    (∀ answer, (∃ o, normalizedAnswer answer = .ok (.outcome o)) ∨
      ∃ f, answer = .error f ∧ f.Wordless ∧ normalizedAnswer answer = .error f) ∧
    ∀ command s o t, Run.on (e.single command) s = (.ok o, t) → o.success = false →
      o.errorText ≠ "" := by
  refine ⟨e.execute_of_normalized state line, ?_, exists_normalizedAnswer_eq_ok_or, ?_⟩
  · rw [recording_normalized, execute_of_normalized]
  · intro command s o t hsingle hfailed hempty
    exact not_silent_single hsingle ⟨hfailed, hempty⟩

/-- An engine that counts its calls. The command `a` fails and does not say why, `b` raises a fault,
and all others answer with an object. -/
def answering : Engine Nat where
  runner := some fun command n =>
    (if command = "a" then .ok (.value (.table [("success", .bool false)]))
      else if command = "b" then .error (.raised .key [])
      else .ok (.object [("message", .text command)]), n + 1)
  filters := FilterRegistry.builtin

/-- All three ways to answer, in one line. -/
theorem execute_normalized_answering :
    answering.normalized.execute .null "a || b || c" = answering.execute .null "a || b || c" ∧
    Run.on (answering.execute .null "a || b || c") 0 =
      (.ok (.ok "Error: a failed\nError: KeyError\nc"), 3) ∧
    Run.on (answering.single "a") 0 = (.ok (.fail "a failed"), 1) ∧
    (Outcome.fail "a failed").errorText ≠ "" := by
  obtain ⟨hline, -, -, hmessage⟩ := answering.execute_normalized .null "a || b || c"
  have hsingle : Run.on (answering.single "a") 0 = (.ok (.fail "a failed"), 1) := rfl
  have hparse : Chain.parse "a || b || c" =
      .ok [⟨"a", [], none⟩, ⟨"b", [], some .or⟩, ⟨"c", [], some .or⟩] := by
    decide +kernel
  refine ⟨hline, ?_, hsingle, hmessage "a" 0 _ 1 hsingle rfl⟩
  rw [answering.execute_of_not_isConditional .null rfl, if_neg (by decide), plainLine, hparse]
  rfl

end StreetConsole.Engine
