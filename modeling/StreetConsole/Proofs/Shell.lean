import StreetConsole.Proofs.Transcript

/-!
# Chains run as in a shell

A shell reads a chain from the left: each link stands against all that is in front of it. `Script`
is a chain read this way and `Script.run` its meaning, by recursion: `a && l` runs `a`, and then `l`
if `a` succeeded; `a || l` runs `a`, and then `l` if it failed; `a ; l` runs both. A link that is
not run leaves the result of `a` as it is.

**Theorem (`chain_eq_shell`).** The engine, which goes through the links once and keeps the last
outcome, does the same as the shell: it makes the same calls in the same order, and answers with the
outcome of the last link that ran and the output of all that ran.

The proof goes through transcripts. Extending a script by a link is one step of the transcript
(`run_extend`), so that running the script of a chain makes the transcript of the chain
(`run_ofLinks`).
-/

namespace StreetConsole

/-- A chain as a shell reads it: a link after all that is in front of it. -/
inductive Script where
  | nothing
  | and (before : Script) (l : Link)
  | or (before : Script) (l : Link)
  | sequence (before : Script) (l : Link)

namespace Script

variable {σ : Type}

/-- One more link at the end. The first link of a chain has no operator and runs in any case. -/
def extend (a : Script) (l : Link) : Script :=
  match l.operator with
  | some .and => a.and l
  | some .or => a.or l
  | some .sequence | none => a.sequence l

/-- A chain as a shell reads it. -/
def ofLinks (links : List Link) : Script := links.foldl extend nothing

/-- The result of a link: that of its command, or after a success what its filters make of it. -/
def result (e : Engine σ) (l : Link) : Run σ Outcome := do
  let o ← e.single l.command
  if o.success ∧ l.pipes ≠ [] then ExceptT.mk (pure (e.filters.applyPipes o.output l.pipes))
  else return o

/-- What has run after one more link. -/
def resume (e : Engine σ) (ran : Transcript) (l : Link) : Run σ Transcript := do
  let o ← result e l
  return ran ++ [(l, o)]

/-- Runs a script. -/
def run (e : Engine σ) : Script → Run σ Transcript
  | .nothing => return []
  | .and a l => do
    let ran ← a.run e
    if ran.verdict.success then resume e ran l else return ran
  | .or a l => do
    let ran ← a.run e
    if ran.verdict.success then return ran else resume e ran l
  | .sequence a l => do
    let ran ← a.run e
    resume e ran l

/-! ## Scripts make transcripts -/

theorem result_eq_link (e : Engine σ) (l : Link) : result e l = e.link l := by
  unfold result Engine.link
  congr 1
  funext o
  cases o.success <;> cases l.pipes <;> rfl

theorem advance_eq (e : Engine σ) (ran : Transcript) (l : Link) :
    e.advance ran l = if Engine.skips ran.verdict l.operator then pure ran else resume e ran l := by
  rw [Engine.advance, resume, result_eq_link]

/-- **To extend a script is to go on with its transcript.** -/
theorem run_extend (e : Engine σ) (a : Script) (l : Link) :
    (a.extend l).run e = a.run e >>= fun ran => e.advance ran l := by
  simp only [advance_eq]
  unfold extend
  rcases l.operator with _ | o
  · rfl
  · cases o with
    | and =>
      show (a.and l).run e = _
      rw [run]
      congr 1
      funext ran
      cases h : ran.verdict.success <;> simp [Engine.skips, h]
    | or =>
      show (a.or l).run e = _
      rw [run]
      congr 1
    | sequence => rfl

theorem run_foldl_extend (e : Engine σ) (a : Script) (links : List Link) :
    (links.foldl extend a).run e = a.run e >>= fun ran => links.foldlM e.advance ran := by
  induction links generalizing a with
  | nil => simp
  | cons l links ih => simp only [List.foldl_cons, List.foldlM_cons, ih, run_extend, bind_assoc]

theorem run_ofLinks (e : Engine σ) (links : List Link) :
    (ofLinks links).run e = e.transcript links := by
  rw [ofLinks, run_foldl_extend, run, pure_bind, Engine.transcript]

/-! ## Calls -/

/-- The calls that the links of a transcript made. -/
def calls (e : Engine σ) (ran : Transcript) : List String :=
  ran.flatMap fun p => e.called p.1.command

theorem on_advance_recording {e : Engine σ} {ran next : Transcript} {l : Link} {s t : σ}
    (h : Run.on (e.advance ran l) s = (.ok next, t)) (made : List String) :
    ∃ further, next = ran ++ further ∧
      Run.on (e.recording.advance ran l) (s, made) = (.ok next, t, made ++ calls e further) := by
  unfold Engine.advance at h ⊢
  split at h
  · next hskip =>
    cases h
    exact ⟨[], by simp, by simp [hskip, calls]⟩
  · next hskip =>
    obtain ⟨o, u, ho, hnext⟩ := Run.on_bind_eq_ok_iff.1 h
    cases hnext
    refine ⟨[(l, o)], rfl, ?_⟩
    rw [if_neg hskip, Run.on_bind, Engine.on_link_recording, ho]
    simp [calls]

/-- The calls of a chain are those of the links that ran. -/
theorem on_foldlM_recording {e : Engine σ} {ran last : Transcript} {links : List Link} {s t : σ}
    (h : Run.on (links.foldlM e.advance ran) s = (.ok last, t)) (made : List String) :
    ∃ further, last = ran ++ further ∧
      Run.on (links.foldlM e.recording.advance ran) (s, made) =
        (.ok last, t, made ++ calls e further) := by
  induction links generalizing ran s made with
  | nil =>
    cases h
    exact ⟨[], by simp, by simp [calls]⟩
  | cons l links ih =>
    rw [List.foldlM_cons] at h ⊢
    obtain ⟨next, u, hnext, hlast⟩ := Run.on_bind_eq_ok_iff.1 h
    obtain ⟨first, rfl, hfirst⟩ := on_advance_recording hnext made
    obtain ⟨rest, rfl, hrest⟩ := ih hlast (made ++ calls e first)
    refine ⟨first ++ rest, by simp, ?_⟩
    rw [Run.on_bind_of_ok hfirst, hrest]
    simp [calls]

/-! ## Chains that return -/

end Script

/-- No filter of the registry is ever given up. -/
def FilterRegistry.Faultless (r : FilterRegistry) : Prop :=
  ∀ f ∈ r, ∀ text args, ∃ o, f.apply text args = .ok o

theorem FilterRegistry.Faultless.applyPipe {r : FilterRegistry} (h : r.Faultless)
    (text pipe : String) : ∃ o, r.applyPipe text pipe = .ok o := by
  unfold FilterRegistry.applyPipe
  dsimp only
  split
  · exact ⟨_, rfl⟩
  · next f hf => exact h f (List.mem_of_find?_eq_some hf) text _

theorem FilterRegistry.Faultless.applyPipes {r : FilterRegistry} (h : r.Faultless)
    (text : String) (pipes : List String) : ∃ o, r.applyPipes text pipes = .ok o := by
  cases hpipes : r.applyPipes text pipes with
  | ok o => exact ⟨o, rfl⟩
  | error f =>
    obtain ⟨_, pipe, _, p, -, -, -, hpipe⟩ := applyPipes_eq_error_iff.1 hpipes
    obtain ⟨o, ho⟩ := h.applyPipe p.output pipe
    rw [ho] at hpipe
    cases hpipe

namespace Engine

variable {σ : Type}

/-- Some link's command makes the runner raise a fault without a text. -/
def Wordless (e : Engine σ) (links : List Link) : Prop :=
  ∃ run, e.runner = some run ∧ ∃ l ∈ links, ∃ s g, (run l.command s).1 = .error g ∧ g.Wordless

theorem wordless_of_chain_eq_error {e : Engine σ} (hfilters : e.filters.Faultless)
    {links : List Link} {s t : σ} {f : Fault} (h : Run.on (e.chain links) s = (.error f, t)) :
    e.Wordless links ∧ f = .integerTooLong := by
  obtain ⟨before, l, after, o, s', rfl, -, -, hl⟩ := chain_eq_error_iff.1 h
  cases hl with
  | runner hrun hg hwordless =>
    exact ⟨⟨_, hrun, l, by simp, s', _, congrArg Prod.fst hg, hwordless⟩, rfl⟩
  | filter _ _ hf =>
    obtain ⟨p, hp⟩ := hfilters.applyPipes _ l.pipes
    rw [hp] at hf
    cases hf

/-- **The engine runs a chain as a shell does.** It does so with any engine, the recording one
included, hence with the same calls. A run that returns calls the runner once for each link that
ran, and answers with the outcome of its transcript. Where no filter is given up, the only runs that
do not return are those in which a runner's fault has no text; these the shell gives up as well. -/
theorem chain_eq_shell (e : Engine σ) (hfilters : e.filters.Faultless) (links : List Link) (s : σ) :
    e.chain links = Transcript.outcome <$> (Script.ofLinks links).run e ∧
    e.recording.chain links = Transcript.outcome <$> (Script.ofLinks links).run e.recording ∧
    ((∃ ran t, Run.on ((Script.ofLinks links).run e) s = (.ok ran, t) ∧
        Run.on (e.recording.chain links) (s, []) = (.ok ran.outcome, t, Script.calls e ran)) ∨
      ∃ t, Run.on (e.chain links) s = (.error .integerTooLong, t) ∧ e.Wordless links) := by
  simp only [Script.run_ofLinks]
  refine ⟨e.chain_eq_transcript links, e.recording.chain_eq_transcript links, ?_⟩
  rcases h : Run.on (e.transcript links) s with ⟨f | ran, t⟩
  · have hchain : Run.on (e.chain links) s = (.error f, t) := by
      rw [chain_eq_transcript, Run.on_map, h]
      rfl
    obtain ⟨hwordless, rfl⟩ := wordless_of_chain_eq_error hfilters hchain
    exact Or.inr ⟨t, hchain, hwordless⟩
  · obtain ⟨further, rfl, hrecording⟩ := Script.on_foldlM_recording h []
    refine Or.inl ⟨_, t, rfl, ?_⟩
    rw [chain_eq_transcript, Run.on_map, transcript, hrecording]
    rfl

/-- An engine that counts its calls. The command `b` raises a fault, all others answer with
themselves, and there is one filter. -/
def counting : Engine Nat where
  runner := some fun command n =>
    (if command = "b" then .error (.raised .key []) else .ok (.outcome (.ok command)), n + 1)
  filters := [.plain "shout" "Add an exclamation mark" (· ++ "!")]

theorem counting_faultless : counting.filters.Faultless := by
  intro f hf text args
  obtain rfl := List.mem_singleton.1 hf
  exact ⟨_, rfl⟩

/-- The chain `a | shout && b && c || d`: the failure of `b` keeps `c` from running and lets `d`
run. -/
theorem chain_eq_shell_counting :
    let links : List Link := [⟨"a", ["shout"], none⟩, ⟨"b", [], some .and⟩, ⟨"c", [], some .and⟩,
      ⟨"d", [], some .or⟩]
    counting.filters.Faultless ∧
    counting.chain links = Transcript.outcome <$> (Script.ofLinks links).run counting ∧
    Run.on (counting.chain links) 0 = (.ok (.ok "a!\nError: KeyError\nd"), 3) :=
  ⟨counting_faultless, (counting.chain_eq_shell counting_faultless _ 0).1, rfl⟩

end Engine

end StreetConsole
