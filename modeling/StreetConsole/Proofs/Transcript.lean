import StreetConsole.Proofs.Run
import StreetConsole.Proofs.Wording

/-!
# Transcripts of chains

The transcript of a chain is the list of the links that ran, in order, each with its outcome. It
determines all that a chain answers: success and error are those of the last link that ran, and the
output is what all of them have to report.

**Theorem (`chain_eq_transcript`).** To run a chain is to make its transcript and answer with its
outcome. The proof is an induction over the links with the invariant that the last outcome and the
output so far are those of the transcript so far.

**Theorem (`chain_eq_error_iff`).** A chain is given up exactly at a link which was let run after
all links in front of it, and which is itself given up. A link is given up in one of two ways: the
runner raises a fault that has no text, or a filter is given up (`LinkBreaks`).

A pipeline stops at the first filter that fails or is given up, and with its result
(`applyPipes_eq_iff_of_stops`).
-/

namespace StreetConsole

/-- The links that ran, with their outcomes, in order. -/
abbrev Transcript := List (Link × Outcome)

namespace Transcript

/-- The outcome of the last link that ran; an empty success as long as none has. -/
def verdict (ran : Transcript) : Outcome := (ran.getLast?.map Prod.snd).getD (.ok "")

/-- What an outcome has to report: its output, and then its error, each unless it is empty. -/
def reported (o : Outcome) : List String :=
  [o.output].filter (· ≠ "") ++ (o.error.toList.filter (· ≠ "")).map ("Error: " ++ ·)

/-- The outcome of a chain with this transcript. -/
def outcome (ran : Transcript) : Outcome where
  success := ran.verdict.success
  output := Text.unlines (ran.flatMap fun p => reported p.2)
  error := ran.verdict.error

@[simp] theorem verdict_concat (ran : Transcript) (l : Link) (o : Outcome) :
    verdict (ran ++ [(l, o)]) = o := by
  simp [verdict]

theorem logEntries_eq_reported (o : Outcome) : Engine.logEntries o = reported o := by
  obtain ⟨success, output, error⟩ := o
  have houtput : (if output.isEmpty then [] else [output]) = [output].filter (· ≠ "") := by
    by_cases h : output = "" <;> simp [h]
  unfold Engine.logEntries reported
  rw [houtput]
  cases error with
  | none => rfl
  | some text => by_cases h : text = "" <;> simp [Outcome.errorText, Outcome.errorLine, h]

end Transcript

/-! ## Where a pipeline stops -/

namespace FilterRegistry

theorem applyPipe_eq (r : FilterRegistry) (text pipe : String) :
    r.applyPipe text pipe = match r.get? ((Text.words pipe).headD "") with
      | none => .ok (.fail ("Unknown filter: " ++ (Text.words pipe).headD ""))
      | some f => f.apply text (Text.words pipe).tail := rfl

/-- A filter with this result ends its pipeline: it has failed, or it has been given up. -/
def Stops (result : Except Fault Outcome) : Prop := ∀ o, result = .ok o → o.success = false

theorem stops_error (f : Fault) : Stops (.error f) := nofun

theorem stops_or_ok (result : Except Fault Outcome) :
    Stops result ∨ ∃ o, result = .ok o ∧ o.success = true := by
  rcases result with f | o
  · exact Or.inl (stops_error f)
  · cases ho : o.success with
    | true => exact Or.inr ⟨o, rfl, ho⟩
    | false => exact Or.inl fun p hp => by cases hp; exact ho

theorem applyPipes_cons_of_stops {r : FilterRegistry} {text pipe : String}
    (h : Stops (r.applyPipe text pipe)) (pipes : List String) :
    r.applyPipes text (pipe :: pipes) = r.applyPipe text pipe := by
  rw [applyPipes]
  cases hpipe : r.applyPipe text pipe with
  | error f => rfl
  | ok o =>
    show (if o.success then _ else _) = _
    rw [h o hpipe]
    rfl

theorem applyPipes_cons_of_ok {r : FilterRegistry} {text pipe : String} {o : Outcome}
    (h : r.applyPipe text pipe = .ok o) (ho : o.success = true) (pipes : List String) :
    r.applyPipes text (pipe :: pipes) = r.applyPipes o.output pipes := by
  rw [applyPipes, h]
  exact if_pos ho

/-- **A pipeline stops where a filter does**, those in front of it having succeeded, and with the
same result. -/
theorem applyPipes_eq_iff_of_stops {r : FilterRegistry} {text : String} {pipes : List String}
    {result : Except Fault Outcome} (hresult : Stops result) :
    r.applyPipes text pipes = result ↔
      ∃ before pipe after o, pipes = before ++ pipe :: after ∧ r.applyPipes text before = .ok o ∧
        o.success = true ∧ r.applyPipe o.output pipe = result := by
  induction pipes generalizing text with
  | nil =>
    constructor
    · rintro rfl
      exact absurd (hresult (.ok text) rfl) (by simp [Outcome.ok])
    · simp
  | cons pipe pipes ih =>
    constructor
    · intro h
      obtain hpipe | ⟨p, hpipe, hp⟩ := stops_or_ok (r.applyPipe text pipe)
      · rw [applyPipes_cons_of_stops hpipe] at h
        exact ⟨[], pipe, pipes, .ok text, rfl, rfl, rfl, h⟩
      · rw [applyPipes_cons_of_ok hpipe hp] at h
        obtain ⟨before, pipe', after, o, rfl, hbefore, ho, hpipe'⟩ := ih.1 h
        refine ⟨pipe :: before, pipe', after, o, rfl, ?_, ho, hpipe'⟩
        rw [applyPipes_cons_of_ok hpipe hp, hbefore]
    · rintro ⟨_ | ⟨first, before⟩, pipe', after, o, hpipes, hbefore, ho, hpipe'⟩
      · obtain ⟨rfl, rfl⟩ := List.cons.inj hpipes
        cases hbefore
        have hpipe : r.applyPipe text pipe = result := hpipe'
        rw [applyPipes_cons_of_stops (hpipe ▸ hresult), hpipe]
      · obtain ⟨rfl, rfl⟩ := List.cons.inj hpipes
        obtain hpipe | ⟨p, hpipe, hp⟩ := stops_or_ok (r.applyPipe text pipe)
        · rw [applyPipes_cons_of_stops hpipe] at hbefore
          rw [hpipe o hbefore] at ho
          cases ho
        · rw [applyPipes_cons_of_ok hpipe hp] at hbefore ⊢
          exact ih.2 ⟨before, pipe', after, o, rfl, hbefore, ho, hpipe'⟩

/-- **A pipeline is given up at a filter that is given up**, those in front of it having
succeeded. -/
theorem applyPipes_eq_error_iff {r : FilterRegistry} {text : String} {pipes : List String}
    {f : Fault} :
    r.applyPipes text pipes = .error f ↔
      ∃ before pipe after o, pipes = before ++ pipe :: after ∧ r.applyPipes text before = .ok o ∧
        o.success = true ∧ r.applyPipe o.output pipe = .error f :=
  applyPipes_eq_iff_of_stops (stops_error f)

end FilterRegistry

namespace Engine

variable {σ : Type}

/-! ## Running a chain makes its transcript -/

/-- Goes on with a link: it runs unless the outcome before it forbids. -/
def advance (e : Engine σ) (ran : Transcript) (l : Link) : Run σ Transcript :=
  if skips ran.verdict l.operator then return ran
  else do
    let o ← e.link l
    return ran ++ [(l, o)]

/-- Makes the transcript of a chain. -/
def transcript (e : Engine σ) (links : List Link) : Run σ Transcript :=
  links.foldlM e.advance []

theorem chainFrom_eq_foldlM (e : Engine σ) (ran : Transcript) (links : List Link) :
    e.chainFrom ran.verdict (ran.flatMap fun p => Transcript.reported p.2) links =
      Transcript.outcome <$> links.foldlM e.advance ran := by
  induction links generalizing ran with
  | nil => rw [chainFrom, List.foldlM_nil, map_pure]; rfl
  | cons l links ih =>
    rw [chainFrom, List.foldlM_cons, advance]
    by_cases hskip : skips ran.verdict l.operator
    · rw [if_pos hskip, if_pos hskip, pure_bind, ih]
    · rw [if_neg hskip, if_neg hskip, bind_assoc, map_bind]
      congr 1
      funext o
      rw [pure_bind, ← ih, Transcript.verdict_concat, List.flatMap_append,
        Transcript.logEntries_eq_reported]
      simp

theorem chain_eq_transcript (e : Engine σ) (links : List Link) :
    e.chain links = Transcript.outcome <$> e.transcript links :=
  e.chainFrom_eq_foldlM [] links

/-- A link without filters only runs its command. -/
theorem link_of_pipes_eq_nil (e : Engine σ) {l : Link} (h : l.pipes = []) :
    e.link l = e.single l.command := by
  refine Run.ext fun s => ?_
  rw [on_link, h]
  rcases Run.on (e.single l.command) s with ⟨f | o, t⟩ <;> rfl

/-- The transcript of a lone link: it runs in any case. -/
theorem transcript_lone (e : Engine σ) {l : Link} (h : l.operator = none) :
    e.transcript [l] = (fun o => [(l, o)]) <$> e.link l := by
  rw [transcript, List.foldlM_cons, advance, h, map_eq_pure_bind]
  exact bind_pure _

/-- A lone command without filters, run as a chain. -/
theorem chain_lone (e : Engine σ) (command : String) :
    e.chain [⟨command, [], none⟩] =
      (fun o => Transcript.outcome [(⟨command, [], none⟩, o)]) <$> e.single command := by
  rw [chain_eq_transcript, transcript_lone e rfl, link_of_pipes_eq_nil e rfl, Functor.map_map]

/-- A chain returns exactly when its transcript is made. -/
theorem chain_eq_ok_iff {e : Engine σ} {links : List Link} {s t : σ} {o : Outcome} :
    Run.on (e.chain links) s = (.ok o, t) ↔
      ∃ ran, Run.on (e.transcript links) s = (.ok ran, t) ∧ ran.outcome = o := by
  rw [chain_eq_transcript, map_eq_pure_bind, Run.on_bind_eq_ok_iff]
  constructor
  · rintro ⟨ran, s', hran, ho⟩
    cases ho
    exact ⟨ran, hran, rfl⟩
  · rintro ⟨ran, hran, rfl⟩
    exact ⟨ran, t, hran, rfl⟩

/-- Whether a link is left out depends on the success before it, which a chain keeps. -/
theorem skips_outcome (ran : Transcript) (operator : Option Operator) :
    skips ran.outcome operator = skips ran.verdict operator := by
  rcases operator with _ | o
  · rfl
  · cases o <;> rfl

/-! ## Where a chain is given up -/

/-- How a link is given up: the runner raises a fault without a text, or the command succeeds and a
filter is given up. -/
inductive LinkBreaks (e : Engine σ) (l : Link) (s : σ) : Fault → σ → Prop
  | runner {run : Runner σ} {g : Fault} {t : σ} : e.runner = some run →
      run l.command s = (.error g, t) → g.Wordless → LinkBreaks e l s .integerTooLong t
  | filter {o : Outcome} {f : Fault} {t : σ} : Run.on (e.single l.command) s = (.ok o, t) →
      o.success = true → e.filters.applyPipes o.output l.pipes = .error f → LinkBreaks e l s f t

theorem single_eq_error_iff {e : Engine σ} {command : String} {s t : σ} {f : Fault} :
    Run.on (e.single command) s = (.error f, t) ↔
      (∃ run g, e.runner = some run ∧ run command s = (.error g, t) ∧ g.Wordless) ∧
        f = .integerTooLong := by
  rw [on_single]
  cases e.runner with
  | none => simp
  | some run =>
    dsimp only
    rw [Prod.mk.injEq, settle_eq_error_iff]
    constructor
    · rintro ⟨⟨⟨g, hg, hwordless⟩, rfl⟩, rfl⟩
      exact ⟨⟨run, g, rfl, Prod.ext hg rfl, hwordless⟩, rfl⟩
    · rintro ⟨⟨_, g, ⟨⟩, hg, hwordless⟩, rfl⟩
      rw [hg]
      exact ⟨⟨⟨g, rfl, hwordless⟩, rfl⟩, rfl⟩

theorem link_eq_error_iff {e : Engine σ} {l : Link} {s t : σ} {f : Fault} :
    Run.on (e.link l) s = (.error f, t) ↔ LinkBreaks e l s f t := by
  rw [link, Run.on_bind_eq_error_iff]
  constructor
  · rintro (hsingle | ⟨o, s', hsingle, hpipes⟩)
    · obtain ⟨⟨run, g, hrun, hg, hwordless⟩, rfl⟩ := single_eq_error_iff.1 hsingle
      exact .runner hrun hg hwordless
    · split at hpipes
      · next hcond =>
        rw [Run.on_mk_pure] at hpipes
        simp only [Prod.mk.injEq] at hpipes
        obtain ⟨hf, rfl⟩ := hpipes
        exact .filter hsingle (by simp_all) hf
      · cases hpipes
  · rintro (⟨hrun, hg, hwordless⟩ | ⟨hsingle, hsuccess, hf⟩)
    · exact Or.inl (single_eq_error_iff.2 ⟨⟨_, _, hrun, hg, hwordless⟩, rfl⟩)
    · refine Or.inr ⟨_, t, hsingle, ?_⟩
      -- A pipeline without filters is never given up.
      have hpipes : l.pipes ≠ [] := by
        intro h
        rw [h] at hf
        cases hf
      simp [hpipes, hsuccess, hf]

/-- **A chain is given up at a link that was let run and is itself given up.** -/
theorem chain_eq_error_iff {e : Engine σ} {links : List Link} {s t : σ} {f : Fault} :
    Run.on (e.chain links) s = (.error f, t) ↔
      ∃ before l after o s', links = before ++ l :: after ∧
        Run.on (e.chain before) s = (.ok o, s') ∧ skips o l.operator = false ∧
        LinkBreaks e l s' f t := by
  rw [chain_eq_transcript, map_eq_pure_bind, Run.on_bind_eq_error_iff]
  constructor
  · rintro (h | ⟨ran, s', -, h⟩)
    · obtain ⟨before, l, after, ran, s', hlinks, hbefore, hl⟩ := Run.on_foldlM_eq_error_iff.1 h
      rw [advance] at hl
      split at hl
      · cases hl
      · next hskip =>
        obtain hl | ⟨o, s'', -, hl⟩ := Run.on_bind_eq_error_iff.1 hl
        · exact ⟨before, l, after, ran.outcome, s', hlinks, chain_eq_ok_iff.2 ⟨ran, hbefore, rfl⟩,
            by simpa [skips_outcome] using hskip, link_eq_error_iff.1 hl⟩
        · cases hl
    · cases h
  · rintro ⟨before, l, after, o, s', hlinks, hbefore, hskip, hl⟩
    obtain ⟨ran, hran, rfl⟩ := chain_eq_ok_iff.1 hbefore
    refine Or.inl (Run.on_foldlM_eq_error_iff.2 ⟨before, l, after, ran, s', hlinks, hran, ?_⟩)
    rw [skips_outcome] at hskip
    rw [advance, hskip, if_neg Bool.false_ne_true]
    exact Run.on_bind_eq_error_iff.2 (Or.inl (link_eq_error_iff.2 hl))

end Engine

end StreetConsole
