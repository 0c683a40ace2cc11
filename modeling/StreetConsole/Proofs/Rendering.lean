import StreetConsole.Proofs.Shell
import StreetConsole.Proofs.Silence

/-!
# What the user is shown

The text shown for an outcome is its output, and after a failure the line that reports the error,
unless the output ends with that line already. The output of a chain does: the error of a chain is
that of the link that ran last, and the line that reports it is the last entry of the log
(`getLast?_log`).

**Theorem (`chain_shows_log`).** What the user is shown for a chain is its log, no more and no less,
and if the chain has an error, the log ends with the line that reports it. It does not matter which
links were skipped after the last one that ran, nor whether that one failed.

**Theorem (`rendered_lone_eq_iff`).** A lone command may be run by itself or as a chain of one link.
Both ways have the same success and the same error, but they do not always look the same. The two
texts differ when a success has an error message, which only the chain shows, and when the output of
a failure happens to end with the line that reports the error, which the chain then shows twice.
-/

namespace StreetConsole

/-! ## Logs as texts -/

namespace Text

theorem unlines_concat {ls : List String} (h : ls ≠ []) (x : String) :
    unlines (ls ++ [x]) = unlines ls ++ "\n" ++ x := by
  unfold unlines
  rw [String.intercalate_append_of_ne_nil h (by simp), String.intercalate_singleton]

theorem suffix_unlines_concat (ls : List String) (x : String) :
    x.toList <:+ (unlines (ls ++ [x])).toList := by
  by_cases h : ls = []
  · subst h
    exact List.suffix_refl x.toList
  · rw [unlines_concat h, String.toList_append]
    exact List.suffix_append _ _

end Text

namespace Outcome

theorem errorLine_ne (error : String) : errorLine error ≠ "" := by
  simp [errorLine]

/-- The output as a log: no entry if it is empty. -/
def shown (o : Outcome) : List String := if o.output.isEmpty then [] else [o.output]

theorem unlines_shown (o : Outcome) : Text.unlines o.shown = o.output := by
  unfold shown
  by_cases h : o.output = "" <;> simp [h, Text.unlines]

/-- One more entry always changes the text. -/
theorem unlines_shown_concat_ne (o : Outcome) {line : String} (h : line ≠ "") :
    Text.unlines (o.shown ++ [line]) ≠ o.output := by
  by_cases hshown : o.shown = []
  · have houtput : o.output = "" := by rw [← unlines_shown, hshown]; rfl
    rw [hshown, houtput]
    simpa [Text.unlines] using h
  · rw [Text.unlines_concat hshown, unlines_shown]
    intro heq
    have hlength := congrArg String.length heq
    simp only [String.length_append] at hlength
    have hone : "\n".length = 1 := rfl
    omega

/-- The output ends with the line that reports the error. -/
def EndsWithError (o : Outcome) : Prop := (errorLine o.errorText).toList <:+ o.output.toList

instance (o : Outcome) : Decidable o.EndsWithError := inferInstanceAs (Decidable (_ <:+ _))

theorem not_endsWithError_of_output_eq {o : Outcome} (h : o.output = "") : ¬ o.EndsWithError := by
  intro hsuffix
  rw [EndsWithError, h, String.toList_empty, List.suffix_nil, String.toList_eq_nil_iff] at hsuffix
  exact errorLine_ne _ hsuffix

/-- What is shown for an outcome, and when the line that reports the error is added. -/
theorem rendered_eq (o : Outcome) : o.rendered =
    if o.success = false ∧ o.errorText ≠ "" ∧ ¬ o.EndsWithError then
      Text.unlines (o.shown ++ [errorLine o.errorText])
    else o.output := by
  have hreported : (!o.output.isEmpty &&
      (errorLine o.errorText).toList.isSuffixOf o.output.toList) = decide o.EndsWithError := by
    by_cases houtput : o.output = ""
    · simp [houtput, not_endsWithError_of_output_eq houtput]
    · rw [Bool.eq_iff_iff, decide_eq_true_iff]
      simp [houtput, EndsWithError]
  rw [← unlines_shown o, ← apply_ite Text.unlines]
  unfold rendered
  dsimp only
  rw [hreported]
  congr 1
  simp [shown, and_assoc]

/-- An outcome adds its output and the line that reports its error to the log of a chain. -/
theorem logEntries_eq (o : Outcome) : Engine.logEntries o =
    if o.errorText = "" then o.shown else o.shown ++ [errorLine o.errorText] := by
  unfold Engine.logEntries shown
  by_cases h : o.errorText = "" <;> simp [h]

/-- **Where the text of an outcome and its log differ.** Failures are taken to have a message. -/
theorem rendered_eq_unlines_logEntries_iff {o : Outcome} (h : ¬ o.Silent) :
    o.rendered = Text.unlines (Engine.logEntries o) ↔
      ¬ (o.success = true ∧ o.errorText ≠ "") ∧ ¬ (o.success = false ∧ o.EndsWithError) := by
  have hdiffer : o.output ≠ Text.unlines (o.shown ++ [errorLine o.errorText]) :=
    (o.unlines_shown_concat_ne (errorLine_ne _)).symm
  rw [rendered_eq, logEntries_eq]
  cases hsuccess : o.success with
  | true =>
    by_cases herror : o.errorText = ""
    · simp [herror, unlines_shown]
    · simp [herror, hdiffer]
  | false =>
    have herror : o.errorText ≠ "" := fun herror => h ⟨hsuccess, herror⟩
    by_cases hends : o.EndsWithError
    · simp [herror, hends, hdiffer]
    · simp [herror, hends]

example :
    let o : Outcome := ⟨false, "done\nError: late", some "late"⟩
    o.rendered = "done\nError: late" ∧
      Text.unlines (Engine.logEntries o) = "done\nError: late\nError: late" := by
  decide +kernel

end Outcome

/-! ## Chains -/

namespace Transcript

/-- The log of a chain: what the links that ran have to report, in order. -/
def log (ran : Transcript) : List String := ran.flatMap fun p => reported p.2

theorem output_outcome (ran : Transcript) : ran.outcome.output = Text.unlines ran.log := rfl

/-- **The log ends with the line that reports the error of the chain**, if it has one. -/
theorem getLast?_log {ran : Transcript} (h : ran.outcome.errorText ≠ "") :
    ran.log.getLast? = some (Outcome.errorLine ran.outcome.errorText) := by
  rcases List.eq_nil_or_concat ran with rfl | ⟨before, ⟨l, o⟩, rfl⟩
  · -- No link ran, and then there is no error.
    exact absurd rfl h
  · rw [List.concat_eq_append] at h ⊢
    have herror : (outcome (before ++ [(l, o)])).errorText = o.errorText := by
      rw [Outcome.errorText, outcome, verdict_concat]
      rfl
    rw [herror] at h ⊢
    rw [log, List.flatMap_append, List.flatMap_singleton, ← logEntries_eq_reported,
      Outcome.logEntries_eq, if_neg h, ← List.append_assoc, List.getLast?_concat]

theorem endsWithError_outcome {ran : Transcript} (h : ran.outcome.errorText ≠ "") :
    ran.outcome.EndsWithError := by
  obtain ⟨before, hlog⟩ := List.getLast?_eq_some_iff.1 (getLast?_log h)
  rw [Outcome.EndsWithError, output_outcome, hlog]
  exact Text.suffix_unlines_concat _ _

/-- **Nothing is added to the output of a chain.** -/
theorem rendered_outcome (ran : Transcript) : ran.outcome.rendered = ran.outcome.output := by
  rw [Outcome.rendered_eq, if_neg]
  rintro ⟨-, herror, hends⟩
  exact hends (endsWithError_outcome herror)

end Transcript

namespace Engine

variable {σ : Type}

/-- **The user is shown the log of a chain.** Where no filter is given up, a chain returns, unless a
runner's fault has no text. Its output is the log of the links that ran, what is shown is this
output, and if the chain has an error, the line that reports it is the last entry of the log. -/
theorem chain_shows_log (e : Engine σ) (hfilters : e.filters.Faultless) (links : List Link)
    (s : σ) :
    (∃ ran c t, Run.on (e.transcript links) s = (.ok ran, t) ∧
        Run.on (e.chain links) s = (.ok c, t) ∧ c.output = Text.unlines ran.log ∧
        (∀ m, c.error = some m → m ≠ "" → ran.log.getLast? = some ("Error: " ++ m)) ∧
        c.rendered = c.output) ∨
      ∃ t, Run.on (e.chain links) s = (.error .integerTooLong, t) ∧ e.Wordless links := by
  rcases hchain : Run.on (e.chain links) s with ⟨f | c, t⟩
  · obtain ⟨hwordless, rfl⟩ := wordless_of_chain_eq_error hfilters hchain
    exact Or.inr ⟨t, rfl, hwordless⟩
  · obtain ⟨ran, hran, rfl⟩ := chain_eq_ok_iff.1 hchain
    refine Or.inl ⟨ran, _, t, hran, rfl, rfl, fun m hm hne => ?_, ran.rendered_outcome⟩
    have herror : ran.outcome.errorText = m := by rw [Outcome.errorText, hm, Option.getD_some]
    rw [Transcript.getLast?_log (herror ▸ hne), herror]
    rfl

/-- The chain `a | shout && b && c`: the failure of `b` keeps `c` from running, and the error of `b`
is the last thing that is shown. -/
theorem chain_shows_log_counting :
    let links : List Link := [⟨"a", ["shout"], none⟩, ⟨"b", [], some .and⟩, ⟨"c", [], some .and⟩]
    let c : Outcome := ⟨false, "a!\nError: KeyError", some "KeyError"⟩
    counting.filters.Faultless ∧ Run.on (counting.chain links) 0 = (.ok c, 2) ∧
    c.rendered = c.output ∧
    ∃ ran : Transcript, Run.on (counting.transcript links) 0 = (.ok ran, 2) ∧
      ran.log.getLast? = some "Error: KeyError" := by
  intro links c
  have hc : Run.on (counting.chain links) 0 = (.ok c, 2) := rfl
  obtain ⟨ran, c', t, hran, hc', -, hlast, hrendered⟩ | ⟨t, herror, -⟩ :=
    counting.chain_shows_log counting_faultless links 0
  · cases hc.symm.trans hc'
    exact ⟨counting_faultless, hc, hrendered, ran, hran, hlast "KeyError" rfl (by decide)⟩
  · cases hc.symm.trans herror

/-! ## Lone commands -/

/-- **A lone command by itself and as a chain.** Both are given up alike, when the runner raises a
fault without a text. Otherwise both return, with the same success and error, and the same text is
shown for both except in two cases: a success with an error message, and a failure whose output ends
with the line that reports its error. -/
theorem rendered_lone_eq_iff (e : Engine σ) (command : String) (s : σ) :
    (∃ r c t, Run.on (e.single command) s = (.ok r, t) ∧
        Run.on (e.chain [⟨command, [], none⟩]) s = (.ok c, t) ∧
        c.success = r.success ∧ c.error = r.error ∧
        (r.rendered = c.rendered ↔
          ¬ (r.success = true ∧ r.errorText ≠ "") ∧ ¬ (r.success = false ∧ r.EndsWithError))) ∨
      ∃ run g t, e.runner = some run ∧ run command s = (.error g, t) ∧ g.Wordless ∧
        Run.on (e.single command) s = (.error .integerTooLong, t) ∧
        Run.on (e.chain [⟨command, [], none⟩]) s = (.error .integerTooLong, t) := by
  rw [chain_lone, Run.on_map]
  rcases hsingle : Run.on (e.single command) s with ⟨f | r, t⟩
  · obtain ⟨⟨run, g, hrun, hg, hwordless⟩, rfl⟩ := single_eq_error_iff.1 hsingle
    exact Or.inr ⟨run, g, t, hrun, hg, hwordless, rfl, rfl⟩
  · refine Or.inl ⟨r, _, t, rfl, rfl, rfl, rfl, ?_⟩
    have houtput : (Transcript.outcome [(⟨command, [], none⟩, r)]).output =
        Text.unlines (logEntries r) := by
      rw [Transcript.logEntries_eq_reported]
      simp [Transcript.outcome]
    rw [Transcript.rendered_outcome, houtput]
    exact Outcome.rendered_eq_unlines_logEntries_iff (not_silent_single hsingle)

end Engine

end StreetConsole
