import StreetConsole.Proofs.Branch
import StreetConsole.Proofs.Transcript
import StreetConsole.Proofs.WellFormed

/-!
# Lines that are given up

Most of what can go wrong with a line is part of its outcome. What is not is a fault that ends the
line, and what the runner has done up to then stands.

**Theorem (`execute_breaks_iff`).** With the built-in filters and a snapshot of the state, a line is
given up exactly in one of these cases, and in all others it returns an outcome (`LineBreaks`):

* the condition of its leaf compares with an integer that is too long to read;
* the runner raises a fault that has no text, in a link that is let run;
* a filter of such a link is given up, all filters in front of it having succeeded.

The built-in filters are given up on two kinds of argument (`Filter.Breaks`): a count that is too
long to read, and a pattern that is not refused but faulty, be it when the pattern is read or when
it is looked for. What is found where, and so which searches are faulty, depends on where possessive
repetitions go on, in which releases of the matcher differ (`Pattern.Resumption`). The theorem is
about filters that search either way, and its condition is exact for both.

The proof goes from the inside to the outside, with one lemma for each layer: filters
(`applyPipe_builtin_eq_error_iff`), pipelines (`applyPipes_eq_error_iff`), links and chains
(`link_eq_error_iff`, `chain_eq_error_iff`), lines without a condition (`plainLine_eq_error_iff`),
and the path to the leaf (`execute_leaf`).
-/

namespace StreetConsole

/-! ## Filters -/

namespace Filter

/-- How a built-in filter is given up on a text, given the words that invoke it. -/
inductive Breaks (r : Pattern.Resumption) (text : String) : List String → Fault → Prop
  | count {name arg : String} {args : List String} {n : Nat} : name = "head" ∨ name = "tail" →
      OverlongCount arg n → Breaks r text (name :: arg :: args) (.numeralTooLong n)
  | pattern {pattern : String} {args : List String} {f : Fault} :
      Pattern.read pattern r = .error (.fault f) → Breaks r text ("grep" :: pattern :: args) f
  | search {pattern line : String} {args : List String} {p : Pattern} :
      Pattern.read pattern r = .ok p → line ∈ Text.lines text →
      p.foundIn line = .error .groupReversed →
      Breaks r text ("grep" :: pattern :: args) .groupReversed

variable {r : Pattern.Resumption}

theorem failsIf_foundIn (p : Pattern) (line : String) :
    FailsIf (p.foundIn line) .groupReversed (p.foundIn line = .error .groupReversed) := by
  have honly (f : Fault) (h : p.foundIn line = .error f) : f = .groupReversed := by
    unfold Pattern.foundIn at h
    dsimp only at h
    split at h
    · cases h
    · split at h
      · cases h
        rfl
      · cases h
  intro f
  constructor
  · intro h
    obtain rfl := honly f h
    exact ⟨h, rfl⟩
  · rintro ⟨h, rfl⟩
    exact h

/-- A search is given up if it is given up on one of the lines. -/
theorem failsIf_keepLines (p : Pattern) (ls : List String) :
    FailsIf (keepLines p.foundIn ls) .groupReversed
      (∃ line ∈ ls, p.foundIn line = .error .groupReversed) := by
  induction ls with
  | nil => exact (FailsIf.ok _).congr (by simp)
  | cons line ls ih =>
    exact ((failsIf_foundIn p line).bind fun _ => ih.map _).congr (by simp)

theorem breaks_grep_iff {text pattern : String} {args : List String} {f : Fault} :
    Breaks r text ("grep" :: pattern :: args) f ↔
      Pattern.read pattern r = .error (.fault f) ∨
        (∃ p, Pattern.read pattern r = .ok p ∧
          ∃ line ∈ Text.lines text, p.foundIn line = .error .groupReversed) ∧
        f = .groupReversed := by
  constructor
  · rintro (⟨hname | hname, -⟩ | hfault | ⟨hread, hline, hfound⟩)
    · exact absurd hname (by decide)
    · exact absurd hname (by decide)
    · exact Or.inl hfault
    · exact Or.inr ⟨⟨_, hread, _, hline, hfound⟩, rfl⟩
  · rintro (hfault | ⟨⟨p, hread, line, hline, hfound⟩, rfl⟩)
    · exact .pattern hfault
    · exact .search hread hline hfound

theorem grep_eq_error_iff {text : String} {args : List String} {f : Fault} :
    grep r text args = .error f ↔ Breaks r text ("grep" :: args) f := by
  cases args with
  | nil => constructor <;> nofun
  | cons pattern args =>
    rw [breaks_grep_iff]
    unfold grep
    dsimp only
    cases Pattern.read pattern r with
    | ok p =>
      refine ((failsIf_keepLines p (Text.lines text)).map _ f).trans ?_
      simp
    | error refusal =>
      cases refusal with
      | refused cause place => simp [pure, Except.pure]
      | fault g => simp [throw, throwThe, MonadExceptOf.throw]

/-- The group ends where the look behind got to, in front of its beginning, or else where it
begins. -/
example :
    (match grep .reached "1" ["1((?<=a)?+)"] with
      | .error .groupReversed => true
      | _ => false) = true ∧
    (match grep .begun "1" ["1((?<=a)?+)"] with
      | .ok o => o.output == "1"
      | _ => false) = true := by
  decide +kernel

/-- `head` and `tail` are given up where their argument is. -/
theorem lineCount_eq_error_iff {text name : String} {args : List String} {f : Fault}
    (hname : name = "head" ∨ name = "tail") :
    lineCount args = .error f ↔ Breaks r text (name :: args) f := by
  have hgrep : name ≠ "grep" := by
    rcases hname with rfl | rfl <;> decide
  cases args with
  | nil => constructor <;> nofun
  | cons arg args =>
    show (leadingInt arg >>= fun n => .ok _) = .error f ↔ _
    rw [bind_ok_eq_error_iff, leadingInt_eq_error_iff]
    constructor
    · rintro ⟨n, hlong, rfl⟩
      exact .count hname hlong
    · rintro (⟨-, hlong⟩ | _ | _)
      · exact ⟨_, hlong, rfl⟩
      · exact absurd rfl hgrep
      · exact absurd rfl hgrep

/-- The other filters are never given up. -/
theorem exists_apply_eq_ok {f : Filter} (hf : f ∈ (builtins r).drop 3) (text : String)
    (args : List String) : ∃ o, f.apply text args = .ok o := by
  simp only [builtins, List.drop_succ_cons, List.drop_zero, List.mem_cons, List.not_mem_nil,
    or_false] at hf
  rcases hf with rfl | rfl | rfl | rfl | rfl | rfl | rfl | rfl | rfl | rfl <;> exact ⟨_, rfl⟩

end Filter

namespace FilterRegistry

theorem applyPipe_builtin_eq_error_iff {r : Pattern.Resumption} {text pipe : String} {f : Fault} :
    (builtin r).applyPipe text pipe = .error f ↔ Filter.Breaks r text (Text.words pipe) f := by
  rw [applyPipe_eq]
  rcases Text.words pipe with _ | ⟨name, args⟩
  · constructor <;> nofun
  · rw [List.headD_cons, List.tail_cons]
    by_cases hgrep : name = "grep"
    · subst hgrep
      exact Filter.grep_eq_error_iff
    by_cases hhead : name = "head"
    · subst hhead
      exact bind_ok_eq_error_iff.trans (Filter.lineCount_eq_error_iff (Or.inl rfl))
    by_cases htail : name = "tail"
    · subst htail
      exact bind_ok_eq_error_iff.trans (Filter.lineCount_eq_error_iff (Or.inr rfl))
    have hget : (builtin r).get? name = ((Filter.builtins r).drop 3).find? (·.name == name) := by
      simp [get?, builtin, Filter.builtins, Ne.symm hgrep, Ne.symm hhead, Ne.symm htail]
    rw [hget]
    have hbreaks : ¬ Filter.Breaks r text (name :: args) f := by
      rintro (⟨hname, -⟩ | _ | _)
      · exact hname.elim hhead htail
      · exact hgrep rfl
      · exact hgrep rfl
    refine iff_of_false ?_ hbreaks
    split
    · nofun
    · next g hg =>
      obtain ⟨o, ho⟩ := Filter.exists_apply_eq_ok (List.mem_of_find?_eq_some hg) text args
      rw [ho]
      nofun

end FilterRegistry

/-! ## Lines -/

namespace Engine

open Conditional

variable {σ : Type}

/-- A chain of a lone command without pipes is given up where the command is. -/
theorem lone_eq_error_iff {e : Engine σ} {command : String} {s t : σ} {f : Fault} :
    Run.on (e.chain [⟨command, [], none⟩]) s = (.error f, t) ↔
      Run.on (e.single command) s = (.error f, t) := by
  rw [chain_lone, Run.on_map]
  rcases Run.on (e.single command) s with ⟨g | o, u⟩ <;> simp [Except.map]

/-- Whether a line is a lone command or a chain, it is given up where its chain is. -/
theorem plainLine_eq_error_iff {e : Engine σ} {line : String} {s t : σ} {f : Fault} :
    Run.on (e.plainLine line) s = (.error f, t) ↔
      ∃ links, Chain.parse line = .ok links ∧ Run.on (e.chain links) s = (.error f, t) := by
  unfold plainLine
  split
  · next hline => simp [hline]
  · next hline => simp [hline, chain, chainFrom]
  · next command operator hline =>
    have hoperator : operator = none := (Chain.wellFormed_of_parse hline).first _ rfl
    subst hoperator
    rw [hline, ← lone_eq_error_iff]
    simp
  · next links _ _ hline => simp [hline]

/-- A blank line has no links. -/
theorem parse_of_blank {line : String} (h : Text.trim line = "") : Chain.parse line = .ok [] := by
  have hnone : Text.trimChars line.toList = [] := by rw [← Text.toList_trim, h]; rfl
  rw [Chain.parse, tokenize, hnone]
  rfl

/-- The link is one of the line's chain, it is let run, and it starts from the state `s'`. -/
def Reaches (e : Engine σ) (state : Value) (line : String) (s : σ) (l : Link) (s' : σ) : Prop :=
  isConditional (leaf state line) = false ∧
    ∃ before after o, Chain.parse (leaf state line) = .ok (before ++ l :: after) ∧
      Run.on (e.chain before) s = (.ok o, s') ∧ skips o l.operator = false

/-- How a line is given up: by its condition, by the runner, or by a filter. -/
inductive LineBreaks (r : Pattern.Resumption) (e : Engine σ) (state : Value) (line : String)
    (s : σ) : Fault → σ → Prop
  | condition {c : Conditional} {n : Nat} : isConditional (leaf state line) = true →
      parse? (leaf state line) = some c → Condition.Overlong c.condition n →
      LineBreaks r e state line s (.numeralTooLong n) s
  | runner {l : Link} {run : Runner σ} {g : Fault} {s' t : σ} : e.Reaches state line s l s' →
      e.runner = some run → run l.command s' = (.error g, t) → g.Wordless →
      LineBreaks r e state line s .integerTooLong t
  | filter {l : Link} {o p : Outcome} {before after : List String} {pipe : String} {f : Fault}
      {s' t : σ} : e.Reaches state line s l s' → Run.on (e.single l.command) s' = (.ok o, t) →
      o.success = true → l.pipes = before ++ pipe :: after →
      e.filters.applyPipes o.output before = .ok p → p.success = true →
      Filter.Breaks r p.output (Text.words pipe) f → LineBreaks r e state line s f t

/-- A line without a condition is given up at a link that is let run. -/
theorem execute_eq_error_iff_of_plain {e : Engine σ} {state : Value} {line : String} {s t : σ}
    {f : Fault} (hline : isConditional (leaf state line) = false) :
    Run.on (e.execute state line) s = (.error f, t) ↔
      ∃ l s', e.Reaches state line s l s' ∧ LinkBreaks e l s' f t := by
  rw [← e.execute_leaf state line, e.execute_of_not_isConditional state hline]
  by_cases hblank : Text.trim (leaf state line) = ""
  · rw [if_pos hblank]
    constructor
    · nofun
    · rintro ⟨l, s', ⟨-, before, after, o, hparse, -, -⟩, -⟩
      rw [parse_of_blank hblank] at hparse
      simp at hparse
  · rw [if_neg hblank, plainLine_eq_error_iff]
    constructor
    · rintro ⟨links, hparse, h⟩
      obtain ⟨before, l, after, o, s', rfl, hbefore, hskip, hl⟩ := chain_eq_error_iff.1 h
      exact ⟨l, s', ⟨hline, before, after, o, hparse, hbefore, hskip⟩, hl⟩
    · rintro ⟨l, s', ⟨-, before, after, o, hparse, hbefore, hskip⟩, hl⟩
      exact ⟨_, hparse, chain_eq_error_iff.2 ⟨before, l, after, o, s', rfl, hbefore, hskip, hl⟩⟩

/-- In a snapshot a conditional at the end of the path is given up by its condition. -/
theorem execute_eq_error_iff_of_conditional {e : Engine σ} {state : Value}
    (hstate : state.IsSnapshot) {line : String} {s t : σ} {f : Fault}
    (hline : isConditional (leaf state line) = true) :
    Run.on (e.execute state line) s = (.error f, t) ↔
      ∃ c n, parse? (leaf state line) = some c ∧ Condition.Overlong c.condition n ∧
        f = .numeralTooLong n ∧ t = s := by
  rw [← e.execute_leaf state line]
  rcases branch?_eq_none_iff.1 (branch?_leaf state line) with hplain | hc | ⟨c, hc, hstop⟩
  · rw [hline] at hplain
    cases hplain
  · rw [e.execute_of_unreadable state hline hc]
    constructor
    · nofun
    · rintro ⟨c, n, hc', -⟩
      rw [hc] at hc'
      cases hc'
  · rw [e.execute_of_parse? state hline hc, hc]
    rcases hstop with ⟨g, hg⟩ | ⟨heval, helse⟩
    · obtain ⟨n, hlong, rfl⟩ := (Condition.evaluate_eq_error_iff hstate).1 hg
      rw [hg, Run.on_mk_pure]
      constructor
      · intro h
        cases h
        exact ⟨c, n, rfl, hlong, rfl, rfl⟩
      · rintro ⟨_, m, ⟨⟩, hlong', rfl, rfl⟩
        have hm := (Condition.evaluate_eq_error_iff hstate).2 ⟨m, hlong', rfl⟩
        rw [hg] at hm
        cases hm
        rfl
    · rw [heval, helse]
      constructor
      · nofun
      · rintro ⟨_, n, ⟨⟩, hlong, -⟩
        have hn := (Condition.evaluate_eq_error_iff hstate).2 ⟨n, hlong, rfl⟩
        rw [heval] at hn
        cases hn

/-- With the built-in filters a line is given up exactly in the cases of `LineBreaks`. -/
theorem execute_eq_error_iff {r : Pattern.Resumption} {e : Engine σ}
    (hfilters : e.filters = FilterRegistry.builtin r) {state : Value} (hstate : state.IsSnapshot)
    {line : String} {s t : σ} {f : Fault} :
    Run.on (e.execute state line) s = (.error f, t) ↔ LineBreaks r e state line s f t := by
  cases hline : isConditional (leaf state line) with
  | true =>
    rw [execute_eq_error_iff_of_conditional hstate hline]
    constructor
    · rintro ⟨c, n, hc, hlong, rfl, rfl⟩
      exact .condition hline hc hlong
    · rintro (⟨-, hc, hlong⟩ | ⟨⟨hplain, -⟩, -⟩ | ⟨⟨hplain, -⟩, -⟩)
      · exact ⟨_, _, hc, hlong, rfl, rfl⟩
      · rw [hline] at hplain
        cases hplain
      · rw [hline] at hplain
        cases hplain
  | false =>
    rw [execute_eq_error_iff_of_plain hline]
    constructor
    · rintro ⟨l, s', hreach, ⟨hrun, hg, hwordless⟩ | ⟨hsingle, hsuccess, hpipes⟩⟩
      · exact .runner hreach hrun hg hwordless
      · obtain ⟨before, pipe, after, p, hl, hbefore, hp, hpipe⟩ :=
          FilterRegistry.applyPipes_eq_error_iff.1 hpipes
        rw [hfilters] at hpipe
        exact .filter hreach hsingle hsuccess hl hbefore hp
          (FilterRegistry.applyPipe_builtin_eq_error_iff.1 hpipe)
    · rintro (⟨hcond, -, -⟩ | ⟨hreach, hrun, hg, hwordless⟩ |
        ⟨hreach, hsingle, hsuccess, hl, hbefore, hp, hpipe⟩)
      · rw [hline] at hcond
        cases hcond
      · exact ⟨_, _, hreach, .runner hrun hg hwordless⟩
      · refine ⟨_, _, hreach, .filter hsingle hsuccess ?_⟩
        refine FilterRegistry.applyPipes_eq_error_iff.2 ⟨_, _, _, _, hl, hbefore, hp, ?_⟩
        rw [hfilters]
        exact FilterRegistry.applyPipe_builtin_eq_error_iff.2 hpipe

/-- **A line is given up exactly in the cases of `LineBreaks`, and in all others it returns an
outcome.** -/
theorem execute_breaks_iff {r : Pattern.Resumption} {e : Engine σ}
    (hfilters : e.filters = FilterRegistry.builtin r) {state : Value} (hstate : state.IsSnapshot)
    (line : String) (s : σ) :
    (∀ f t, Run.on (e.execute state line) s = (.error f, t) ↔ LineBreaks r e state line s f t) ∧
      ((∃ o t, Run.on (e.execute state line) s = (.ok o, t)) ↔
        ∀ f t, ¬ LineBreaks r e state line s f t) := by
  have hbreaks (f : Fault) (t : σ) :
      Run.on (e.execute state line) s = (.error f, t) ↔ LineBreaks r e state line s f t :=
    execute_eq_error_iff hfilters hstate
  refine ⟨hbreaks, ?_⟩
  simp only [← hbreaks]
  rcases Run.on (e.execute state line) s with ⟨f | o, t⟩ <;> simp

/-- An engine that writes down its calls and answers each with the command itself. -/
def echoing : Engine (List String) where
  runner := some fun command made => (.ok (.outcome (.ok command)), made ++ [command])
  filters := .builtin

/-- A chain whose second link searches for a pattern with too large a repetition. -/
def faultyLine : String := "a ; b | grep a\x7b99999999999\x7d"

theorem read_faultyPattern :
    Pattern.read "a\x7b99999999999\x7d" = .error (.fault .repetitionTooLarge) := by
  have hread : (match Pattern.read "a\x7b99999999999\x7d" with
      | .error (.fault .repetitionTooLarge) => true
      | _ => false) = true := by
    decide +kernel
  split at hread
  · next h => exact h
  · cases hread

theorem lineBreaks_faultyLine :
    LineBreaks .reached echoing .null faultyLine [] .repetitionTooLarge ["a", "b"] := by
  have hleaf : leaf .null faultyLine = faultyLine := leaf_of_branch?_eq_none rfl
  have hparse : Chain.parse faultyLine = .ok [⟨"a", [], none⟩,
      ⟨"b", ["grep a\x7b99999999999\x7d"], some .sequence⟩] := by
    decide +kernel
  have hwords : Text.words "grep a\x7b99999999999\x7d" = ["grep", "a\x7b99999999999\x7d"] := by
    decide +kernel
  have hreach : echoing.Reaches .null faultyLine []
      ⟨"b", ["grep a\x7b99999999999\x7d"], some .sequence⟩ ["a"] := by
    unfold Reaches
    rw [hleaf]
    exact ⟨rfl, [⟨"a", [], none⟩], [], .ok "a", hparse, rfl, rfl⟩
  refine .filter hreach rfl rfl (List.nil_append _).symm rfl rfl ?_
  rw [hwords]
  exact .pattern read_faultyPattern

theorem on_execute_soundLine :
    Run.on (echoing.execute .null "a && b | head 1") [] = (.ok (.ok "a\nb"), ["a", "b"]) := by
  have hparse : Chain.parse "a && b | head 1" =
      .ok [⟨"a", [], none⟩, ⟨"b", ["head 1"], some .and⟩] := by
    decide +kernel
  rw [echoing.execute_of_not_isConditional .null rfl, if_neg (by decide), plainLine, hparse]
  rfl

/-- One line is given up and another returns. -/
theorem execute_breaks_iff_echoing :
    echoing.filters = FilterRegistry.builtin ∧ Value.null.IsSnapshot ∧
      Run.on (echoing.execute .null faultyLine) [] = (.error .repetitionTooLarge, ["a", "b"]) ∧
      ∀ f t, ¬ LineBreaks .reached echoing .null "a && b | head 1" [] f t := by
  have hfilters : echoing.filters = FilterRegistry.builtin := rfl
  have hstate : Value.null.IsSnapshot := trivial
  have hfaulty := (execute_breaks_iff hfilters hstate faultyLine []).1
  have hsound := (execute_breaks_iff hfilters hstate "a && b | head 1" []).2
  exact ⟨hfilters, hstate, (hfaulty _ _).2 lineBreaks_faultyLine,
    hsound.1 ⟨_, _, on_execute_soundLine⟩⟩

/-- A line may be given up after links of it have run. -/
theorem execute_faultyLine_gives_up :
    ¬ ∃ o t, Run.on (echoing.execute .null faultyLine) [] = (.ok o, t) := by
  have hstate : Value.null.IsSnapshot := trivial
  rw [(execute_eq_error_iff rfl hstate).2 lineBreaks_faultyLine]
  rintro ⟨o, t, h⟩
  cases h

end Engine

end StreetConsole
