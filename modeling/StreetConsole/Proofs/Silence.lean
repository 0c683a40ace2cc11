import StreetConsole.Proofs.Transcript

/-!
# Failures without a message

A failure should say what went wrong, and in a chain the message becomes a line of the log. The
engine sees to it for commands: one that fails and does not say why is given a message
(`not_silent_single`). It does not do so for filters, and what a filter answers is the outcome of
its link.

**Theorem (`chain_reports_failures`).** Each failed link of a chain adds a line with its error to
the log, except where one of its filters has failed without a message (`Muted`). The built-in filters
never do (`builtin_outspoken`), so it takes a filter of one's own: `chain_muting_silent` has a chain
that fails, has no error and shows nothing.

The proof says what each part can answer, from the inside to the outside: commands, filters, links
(`muted_of_link`), and the transcript, all of whose links have been run (`exists_link_of_mem`).
-/

namespace StreetConsole

/-- A failure without a message. -/
def Outcome.Silent (o : Outcome) : Prop := o.success = false ∧ o.errorText = ""

namespace Outcome

theorem not_silent_of_success {o : Outcome} (h : o.success = true) : ¬ o.Silent := by
  simp [Silent, h]

theorem not_silent_fail {error : String} (h : error ≠ "") : ¬ (fail error).Silent :=
  fun hsilent => h hsilent.2

/-- The outcome has an error message, and the line that reports it is part of the log. -/
def ReportsError (o : Outcome) : Prop :=
  ∃ m, m ≠ "" ∧ o.error = some m ∧ errorLine m ∈ Transcript.reported o

/-- A failure reports its message, unless it has none. -/
theorem reportsError_iff {o : Outcome} (h : o.success = false) : o.ReportsError ↔ ¬ o.Silent := by
  constructor
  · rintro ⟨m, hm, herror, -⟩ ⟨-, hempty⟩
    rw [errorText, herror] at hempty
    exact hm hempty
  · intro hsilent
    have hne : o.errorText ≠ "" := fun hempty => hsilent ⟨h, hempty⟩
    obtain ⟨m, herror⟩ : ∃ m, o.error = some m := by
      cases herror : o.error with
      | none => exact absurd (by rw [errorText, herror]; rfl) hne
      | some m => exact ⟨m, rfl⟩
    have hm : m ≠ "" := by rwa [errorText, herror] at hne
    exact ⟨m, hm, herror, by simp [Transcript.reported, errorLine, herror, hm]⟩

end Outcome

/-! ## Commands -/

theorem systemFaultName_ne (number : Int) : systemFaultName number ≠ "" := by
  simp [systemFaultName, apply_ite (· = "")]

theorem CountError.name_ne (e : CountError) : e.name ≠ "" := by cases e <;> decide

theorem systemFaultClass_ne (args : List Value) : systemFaultClass args ≠ "" := by
  fun_cases systemFaultClass args with
  | case1 number _ rest => decide
  | case2 number _ rest =>
    cases errorNumber? number with
    | none => decide
    | some n => exact systemFaultName_ne n
  | case3 => decide

theorem RaisedKind.name_ne (args : List Value) (kind : RaisedKind) : kind.name args ≠ "" := by
  cases kind with
  | system =>
    rw [RaisedKind.name]
    cases countError? args with
    | none => exact systemFaultClass_ne args
    | some e => exact e.name_ne
  | runtime | value | key | type | lookup => simp [RaisedKind.name]

theorem Fault.name_ne (f : Fault) : f.name ≠ "" := by
  cases f with
  | raised kind args => exact kind.name_ne args
  | _ => simp [Fault.name]

namespace Engine

variable {σ : Type}

/-- A fault becomes a failure with a message. -/
theorem exists_fail_of_failureOf {f : Fault} {o : Outcome} (h : failureOf f = .ok o) :
    ∃ m, m ≠ "" ∧ o = .fail m := by
  unfold failureOf at h
  cases hmessage : f.message with
  | error g =>
    rw [hmessage] at h
    cases h
  | ok text =>
    rw [hmessage] at h
    cases h
    refine ⟨_, ?_, rfl⟩
    split
    · exact f.name_ne
    · next htext => simpa using htext

theorem not_silent_failureOf {f : Fault} {o : Outcome} (h : failureOf f = .ok o) : ¬ o.Silent := by
  obtain ⟨m, hm, rfl⟩ := exists_fail_of_failureOf h
  exact Outcome.not_silent_fail hm

theorem not_silent_settle {command : String} {answer : Except Fault Reply} {o : Outcome}
    (h : settle command answer = .ok o) : ¬ o.Silent := by
  unfold settle at h
  split at h
  · exact not_silent_failureOf h
  · split at h
    · cases h
      exact fun hsilent => by simp [Outcome.Silent, Outcome.errorText] at hsilent
    · next o' hmessage =>
      cases h
      simpa [Outcome.Silent] using hmessage

/-- **A command never fails without a message.** -/
theorem not_silent_single {e : Engine σ} {command : String} {s t : σ} {o : Outcome}
    (h : Run.on (e.single command) s = (.ok o, t)) : ¬ o.Silent := by
  rw [on_single] at h
  cases hrunner : e.runner with
  | none =>
    rw [hrunner] at h
    cases h
    exact Outcome.not_silent_fail (by decide)
  | some run =>
    rw [hrunner] at h
    exact not_silent_settle (congrArg Prod.fst h)

end Engine

/-! ## Filters -/

theorem Filter.not_silent_grep {r : Pattern.Resumption} {text : String} {args : List String}
    {o : Outcome} (h : grep r text args = .ok o) : ¬ o.Silent := by
  unfold grep at h
  split at h
  · cases h
    exact Outcome.not_silent_fail (by decide)
  · split at h
    · next pattern _ p _ =>
      cases hkept : keepLines p.foundIn (Text.lines text) with
      | error f =>
        rw [hkept] at h
        cases h
      | ok kept =>
        rw [hkept] at h
        cases h
        exact Outcome.not_silent_of_success rfl
    · cases h
      exact Outcome.not_silent_fail (by simp)
    · cases h

/-- What `head` and `tail` have in common: they only fail to read their count. -/
theorem Filter.not_silent_counted {args : List String} {chosen : Int → String} {o : Outcome}
    (h : (lineCount args >>= fun n => pure (.ok (chosen n))) = .ok o) : ¬ o.Silent := by
  cases hcount : lineCount args with
  | error f =>
    rw [hcount] at h
    cases h
  | ok n =>
    rw [hcount] at h
    cases h
    exact Outcome.not_silent_of_success rfl

namespace FilterRegistry

/-- Whenever a filter fails, it says why. -/
def Outspoken (r : FilterRegistry) : Prop :=
  ∀ f ∈ r, ∀ text args o, f.apply text args = .ok o → ¬ o.Silent

/-- **The built-in filters say why they fail.** -/
theorem builtin_outspoken {r : Pattern.Resumption} : (builtin r).Outspoken := by
  intro f hf text args o h
  simp only [builtin, Filter.builtins, List.mem_cons, List.not_mem_nil, or_false] at hf
  rcases hf with rfl | rfl | rfl | hf
  · exact Filter.not_silent_grep h
  · exact Filter.not_silent_counted h
  · exact Filter.not_silent_counted h
  · -- The others never fail.
    have hsuccess : o.success = true := by
      rcases hf with rfl | rfl | rfl | rfl | rfl | rfl | rfl | rfl | rfl | rfl <;> cases h <;> rfl
    exact Outcome.not_silent_of_success hsuccess

/-- A silent failure in a pipeline is the answer of a filter that was called. -/
theorem exists_filter_of_silent {r : FilterRegistry} {text pipe : String} {o : Outcome}
    (h : r.applyPipe text pipe = .ok o) (ho : o.Silent) :
    ∃ f, r.get? ((Text.words pipe).headD "") = some f ∧
      f.apply text (Text.words pipe).tail = .ok o := by
  rw [applyPipe_eq] at h
  cases hget : r.get? ((Text.words pipe).headD "") with
  | none =>
    rw [hget] at h
    cases h
    exact absurd ho (Outcome.not_silent_fail (by simp))
  | some f =>
    rw [hget] at h
    exact ⟨f, rfl, h⟩

end FilterRegistry

/-! ## Links and chains -/

namespace Engine

variable {σ : Type}

/-- A link fails without a message: its command succeeds, and one of its filters answers with such a
failure, those in front of it having succeeded. -/
inductive Muted (e : Engine σ) (l : Link) (o : Outcome) : Prop
  | filter {s t : σ} {r p : Outcome} {before after : List String} {pipe : String} {f : Filter} :
      Run.on (e.single l.command) s = (.ok r, t) → r.success = true →
      l.pipes = before ++ pipe :: after → e.filters.applyPipes r.output before = .ok p →
      p.success = true → e.filters.get? ((Text.words pipe).headD "") = some f →
      f.apply p.output (Text.words pipe).tail = .ok o → o.Silent → Muted e l o

theorem Muted.silent {e : Engine σ} {l : Link} {o : Outcome} : Muted e l o → o.Silent
  | .filter _ _ _ _ _ _ _ ho => ho

/-- An engine whose filters say why they fail mutes no link. -/
theorem not_muted {e : Engine σ} (h : e.filters.Outspoken) (l : Link) (o : Outcome) :
    ¬ Muted e l o := by
  rintro ⟨-, -, -, -, -, hget, hf, ho⟩
  exact h _ (List.mem_of_find?_eq_some hget) _ _ _ hf ho

/-- **Only a filter makes a link fail without a message.** -/
theorem muted_of_link {e : Engine σ} {l : Link} {s t : σ} {o : Outcome}
    (h : Run.on (e.link l) s = (.ok o, t)) (ho : o.Silent) : Muted e l o := by
  rw [link] at h
  obtain ⟨r, u, hr, h⟩ := Run.on_bind_eq_ok_iff.1 h
  split at h
  · next hcond =>
    obtain ⟨-, hsuccess⟩ := Bool.and_eq_true_iff.1 hcond
    have hpipes : e.filters.applyPipes r.output l.pipes = .ok o := congrArg Prod.fst h
    have hstops : FilterRegistry.Stops (.ok o) := fun _ h => by cases h; exact ho.1
    obtain ⟨before, pipe, after, p, hl, hbefore, hp, hpipe⟩ :=
      (FilterRegistry.applyPipes_eq_iff_of_stops hstops).1 hpipes
    obtain ⟨f, hget, hf⟩ := FilterRegistry.exists_filter_of_silent hpipe ho
    exact .filter hr hsuccess hl hbefore hp hget hf ho
  · cases h
    exact absurd ho (not_silent_single hr)

/-- Each link of a transcript has been run. -/
theorem exists_link_of_mem {e : Engine σ} {links : List Link} {s t : σ} {ran : Transcript}
    (h : Run.on (e.transcript links) s = (.ok ran, t)) :
    ∀ p ∈ ran, ∃ s' t', Run.on (e.link p.1) s' = (.ok p.2, t') := by
  refine Run.on_foldlM_invariant (P := fun ran : Transcript =>
    ∀ p ∈ ran, ∃ s' t', Run.on (e.link p.1) s' = (.ok p.2, t')) ?_ (by simp) h
  intro l _ ran s next t hran hstep
  unfold advance at hstep
  split at hstep
  · cases hstep
    exact hran
  · obtain ⟨o, u, ho, hnext⟩ := Run.on_bind_eq_ok_iff.1 hstep
    cases hnext
    intro p hp
    rcases List.mem_append.1 hp with hp | hp
    · exact hran p hp
    · rw [List.mem_singleton.1 hp]
      exact ⟨s, t, ho⟩

/-- A chain fails without a message when the link that ran last does. -/
theorem silent_outcome_iff (ran : Transcript) :
    ran.outcome.Silent ↔ ∃ p ∈ ran.getLast?, p.2.Silent := by
  show ran.verdict.Silent ↔ _
  unfold Transcript.verdict
  cases ran.getLast? with
  | none => simp [Outcome.Silent, Outcome.ok]
  | some p => simp

/-- **Every failed link of a chain reports an error, unless one of its filters keeps silent.** The
chain itself fails without a message exactly if that happens in the link that ran last. Where all
filters say why they fail, it never happens. -/
theorem chain_reports_failures {e : Engine σ} {links : List Link} {s t : σ} {c : Outcome}
    (h : Run.on (e.chain links) s = (.ok c, t)) :
    ∃ ran : Transcript, Run.on (e.transcript links) s = (.ok ran, t) ∧ c = ran.outcome ∧
      (∀ p ∈ ran, p.2.success = false → (p.2.ReportsError ↔ ¬ Muted e p.1 p.2)) ∧
      (c.Silent ↔ ∃ p ∈ ran.getLast?, Muted e p.1 p.2) ∧
      (e.filters.Outspoken →
        (∀ p ∈ ran, p.2.success = false → p.2.ReportsError) ∧
          (c.success = false → c.errorText ≠ "")) := by
  obtain ⟨ran, hran, rfl⟩ := chain_eq_ok_iff.1 h
  have hmuted : ∀ p ∈ ran, (Muted e p.1 p.2 ↔ p.2.Silent) := by
    intro p hp
    obtain ⟨s', t', hlink⟩ := exists_link_of_mem hran p hp
    exact ⟨Muted.silent, muted_of_link hlink⟩
  have hreports : ∀ p ∈ ran, p.2.success = false → (p.2.ReportsError ↔ ¬ Muted e p.1 p.2) :=
    fun p hp hfailed => by rw [Outcome.reportsError_iff hfailed, hmuted p hp]
  have hsilent : ran.outcome.Silent ↔ ∃ p ∈ ran.getLast?, Muted e p.1 p.2 := by
    rw [silent_outcome_iff]
    exact exists_congr fun p => and_congr_right fun hp =>
      (hmuted p (List.mem_of_getLast? hp)).symm
  refine ⟨ran, hran, rfl, hreports, hsilent, fun houtspoken => ⟨fun p hp hfailed => ?_, ?_⟩⟩
  · exact (hreports p hp hfailed).2 (not_muted houtspoken p.1 p.2)
  · intro hfailed hempty
    obtain ⟨p, -, hp⟩ := hsilent.1 ⟨hfailed, hempty⟩
    exact not_muted houtspoken p.1 p.2 hp

/-- An engine with the built-in filters, whose commands answer with themselves. -/
def parroting : Engine Unit where
  runner := some fun command _ => (.ok (.outcome (.ok command)), ())
  filters := FilterRegistry.builtin

/-- The chain `a | grep || b ; c | none`: one filter lacks its argument, the other does not exist. -/
theorem chain_reports_failures_parroting :
    let links : List Link :=
      [⟨"a", ["grep"], none⟩, ⟨"b", [], some .or⟩, ⟨"c", ["none"], some .sequence⟩]
    let c : Outcome := ⟨false, "Error: grep requires a pattern\nb\nError: Unknown filter: none",
      some "Unknown filter: none"⟩
    Run.on (parroting.chain links) () = (.ok c, ()) ∧
    ∃ ran : Transcript, Run.on (parroting.transcript links) () = (.ok ran, ()) ∧
      c = ran.outcome ∧ ∀ p ∈ ran, p.2.success = false → p.2.ReportsError := by
  intro links c
  have h : Run.on (parroting.chain links) () = (.ok c, ()) := rfl
  obtain ⟨ran, hran, hc, -, -, houtspoken⟩ := chain_reports_failures h
  exact ⟨h, ran, hran, hc, (houtspoken FilterRegistry.builtin_outspoken).1⟩

/-- A filter of one's own that fails and does not say why. -/
def mute : Filter where
  name := "mute"
  usage := "mute"
  description := "Fail and keep silent"
  apply := fun _ _ => .ok ⟨false, "", none⟩

/-- The same engine with one more filter. -/
def muting : Engine Unit := { parroting with filters := FilterRegistry.builtin.put mute }

/-- The filter can be registered, and a chain that ends with it fails with an empty log and no
message. -/
theorem chain_muting_silent :
    FilterRegistry.builtin.register mute = .ok muting.filters ∧
    Run.on (muting.chain [⟨"a", ["mute"], none⟩]) () = (.ok ⟨false, "", none⟩, ()) :=
  ⟨rfl, rfl⟩

end Engine

end StreetConsole
