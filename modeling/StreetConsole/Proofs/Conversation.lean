import Mathlib.Data.List.Infix
import StreetConsole.Proofs.ReadBack
import StreetConsole.Session

/-!
# How a session follows its inputs

A session shows a prompt, reads an input, runs its line and goes on, until something ends it. The
rest of the library looks at one line at a time; here the lines are put one after the other.

**Theorem (`run_follows_inputs`).** A session runs exactly the lines of the inputs in front of the
first one that ends it, without the blanks around them and in order. Each prompt is the one that the
settings ask for after the lines run so far. A line that is given up ends the session with its fault,
and nothing more is read. In each case the last thing printed is the goodbye.

The proof is an induction over the inputs. An `Account` says which inputs were read and what came of
them, and there is one lemma for each thing that an input can do to it: end the session, be given up,
be left aside, or be run. To see which lines were run, the account also speaks of the terminal that
writes them down (`Terminal.recording`).
-/

namespace StreetConsole.Session

/-! ## Inputs -/

/-- Whether an input ends a session: the end of the input, an interrupt, and a line that asks to
leave. -/
def Input.stops : Input → Bool
  | .line text => isQuit (Text.trim text)
  | .endOfInput | .interrupt => true
  | .complete _ => false

/-- The line that an input gives to be run: what is typed, without the blanks around it, unless
nothing is left. -/
def Input.line? : Input → Option String
  | .line text => if Text.trim text = "" then none else some (Text.trim text)
  | _ => none

/-- Whether an input answers a prompt, which a request to complete does not. -/
def Input.answers : Input → Bool
  | .complete _ => false
  | _ => true

/-- What is read at the prompts, one input at each. After the last one the input ends. -/
def readsOf (inputs : List Input) : List Input := inputs.filter Input.answers ++ [.endOfInput]

/-- The lines that inputs give to be run. -/
def linesOf (inputs : List Input) : List String := inputs.filterMap Input.line?

section Inputs

variable {input : Input}

theorem Input.answers_of_stops (h : input.stops = true) : input.answers = true := by
  cases input with
  | complete text => cases h
  | _ => rfl

theorem Input.answers_of_line? {line : String} (h : input.line? = some line) :
    input.answers = true := by
  cases input with
  | complete text => cases h
  | _ => rfl

theorem readsOf_cons (h : input.answers = true) (inputs : List Input) :
    readsOf (input :: inputs) = input :: readsOf inputs := by
  simp [readsOf, h]

end Inputs

section Events

variable (events events' : List Event)

@[simp] theorem texts_append : texts (events ++ events') = texts events ++ texts events' :=
  List.filterMap_append

@[simp] theorem prompts_append : prompts (events ++ events') = prompts events ++ prompts events' :=
  List.filterMap_append

@[simp] theorem texts_prompt_cons (text : Value) : texts (.prompt text :: events) = texts events :=
  rfl

@[simp] theorem prompts_prompt_cons (text : Value) :
    prompts (.prompt text :: events) = text :: prompts events := rfl

@[simp] theorem events_following {σ : Type} (course : Course σ) :
    (course.following events).events = events ++ course.events := rfl

end Events

namespace Terminal

variable {σ : Type}

theorem texts_shownFor (o : Outcome) : texts (shownFor o) = [o.rendered].filter (· ≠ "") := by
  by_cases h : o.rendered = "" <;> simp [shownFor, texts, h]

theorem prompts_shownFor (o : Outcome) : prompts (shownFor o) = [] := by
  by_cases h : o.rendered = "" <;> simp [shownFor, prompts, h]

/-! ## Recorded lines -/

/-- The terminal that also writes down, in order, the lines that are run. -/
def recording (t : Terminal σ) : Terminal (σ × List String) where
  runLine line := ExceptT.mk fun s =>
    ((Run.on (t.runLine line) s.1).1, (Run.on (t.runLine line) s.1).2, s.2 ++ [line])
  prompt s := t.prompt s.1
  offer := t.offer

@[simp] theorem prompt_recording (t : Terminal σ) (s : σ × List String) :
    t.recording.prompt s = t.prompt s.1 := rfl

@[simp] theorem offer_recording (t : Terminal σ) : t.recording.offer = t.offer := rfl

theorem on_runLine_recording (t : Terminal σ) (line : String) (s : σ) (made : List String) :
    Run.on (t.recording.runLine line) (s, made) =
      ((Run.on (t.runLine line) s).1, (Run.on (t.runLine line) s).2, made ++ [line]) := rfl

/-! ## One input -/

section Step

variable {input : Input} (inputs : List Input) (t : Terminal σ) (s : σ)

theorem session_of_stops (h : input.stops = true) :
    t.session s (input :: inputs) = ⟨[.prompt (t.prompt s), goodbye], none, s⟩ := by
  cases input with
  | line text =>
    have hquit : isQuit (Text.trim text) = true := h
    have hblank : Text.trim text ≠ "" := by
      intro hblank
      rw [hblank] at hquit
      exact absurd hquit (by decide)
    have hreact : t.react s text = .leave := by simp [react, hblank, hquit]
    rw [session, converse, hreact]
    rfl
  | endOfInput => rfl
  | interrupt => rfl
  | complete text => cases h

theorem session_of_complete (text : String) :
    t.session s (.complete text :: inputs) =
      (t.converse s inputs).following [.prompt (t.prompt s), .offer (t.offer text)] := rfl

theorem session_of_blank (hanswers : input.answers = true) (hstops : input.stops = false)
    (hline : input.line? = none) :
    t.session s (input :: inputs) =
      (t.session s inputs).following [.prompt (t.prompt s)] := by
  cases input with
  | line text =>
    have hblank : Text.trim text = "" := by simpa [Input.line?] using hline
    have hreact : t.react s text = .nothing := by simp [react, hblank]
    rw [session, converse, hreact]
    rfl
  | endOfInput => cases hstops
  | interrupt => cases hstops
  | complete text => cases hanswers

theorem session_of_line {line : String} (hstops : input.stops = false)
    (hline : input.line? = some line) :
    t.session s (input :: inputs) = match Run.on (t.runLine line) s with
      | (.error f, after) => ⟨[.prompt (t.prompt s), goodbye], some f, after⟩
      | (.ok o, after) =>
        (t.session after inputs).following (.prompt (t.prompt s) :: shownFor o) := by
  cases input with
  | line text =>
    have hquit : isQuit (Text.trim text) = false := hstops
    obtain ⟨hblank, rfl⟩ : Text.trim text ≠ "" ∧ Text.trim text = line := by
      simpa [Input.line?] using hline
    have hreact : t.react s text = match Run.on (t.runLine (Text.trim text)) s with
        | (.error f, after) => .giveUp f after
        | (.ok o, after) => .answer o after := by
      simp only [react, String.isEmpty_iff, hblank, hquit]
      rfl
    rw [session, converse, hreact]
    rcases Run.on (t.runLine (Text.trim text)) s with ⟨f | o, after⟩
    · rfl
    · simp [session, Course.following]
  | endOfInput => cases hline
  | interrupt => cases hline
  | complete text => cases hline

end Step

/-! ## Accounts of sessions -/

/-- How a session ends with the input that it reads last, in the state that it is in then: the input
ends it, and there is no fault; or it gives a line to be run that is given up, and this is the fault.
`further` are the lines that it gives to be run. -/
def Ends (t : Terminal σ) (s : σ) (last : Input) (fault : Option Fault) (further : List String) :
    Prop :=
  (last.stops = true ∧ fault = none ∧ further = []) ∨
    ∃ line f after, last.stops = false ∧ last.line? = some line ∧
      Run.on (t.runLine line) s = (.error f, after) ∧ fault = some f ∧ further = [line]

/-- An account of a session. It reads the inputs `front`, which do not end it. Their lines come to
the outcomes, and lead to the state `after`. Then it reads `last`, which ends it; `further` holds the
line that is given up with it, if there is one. -/
structure Account (t : Terminal σ) (s : σ) (inputs front : List Input) (last : Input)
    (outcomes : List Outcome) (after : σ) (further : List String) : Prop where
  reads : front ++ [last] <+: readsOf inputs
  goesOn : ∀ input ∈ front, input.stops = false
  returns : Run.on ((linesOf front).mapM t.runLine) s = (.ok outcomes, after)
  ends : t.Ends after last (t.session s inputs).fault further
  prompts : prompts (t.session s inputs).events =
    front.inits.map fun done => t.prompt (Run.after t.runLine (linesOf done) s)
  texts : texts (t.session s inputs).events =
    (outcomes.map Outcome.rendered).filter (· ≠ "") ++ ["Bye!"]
  calls : ∀ made, t.recording.session (s, made) inputs =
    ⟨(t.session s inputs).events, (t.session s inputs).fault, (t.session s inputs).after,
      made ++ linesOf front ++ further⟩

section Accounts

variable {t : Terminal σ} {s after : σ} {input last : Input} {inputs front : List Input}
  {outcomes : List Outcome} {further : List String}

theorem account_nil (t : Terminal σ) (s : σ) : t.Account s [] [] .endOfInput [] s [] where
  reads := List.prefix_refl _
  goesOn := by simp
  returns := rfl
  ends := Or.inl ⟨rfl, rfl, rfl⟩
  prompts := rfl
  texts := rfl
  calls made := by simp [session, converse, recording, linesOf, Course.following]

theorem account_of_stops (h : input.stops = true) (inputs : List Input) (t : Terminal σ) (s : σ) :
    t.Account s (input :: inputs) [] input [] s [] where
  reads := by simp [readsOf_cons (Input.answers_of_stops h)]
  goesOn := by simp
  returns := rfl
  ends := by
    rw [session_of_stops _ _ _ h]
    exact Or.inl ⟨h, rfl, rfl⟩
  prompts := by
    rw [session_of_stops _ _ _ h]
    rfl
  texts := by
    rw [session_of_stops _ _ _ h]
    rfl
  calls made := by
    rw [session_of_stops _ _ _ h, session_of_stops _ _ _ h]
    simp [linesOf]

theorem account_of_error {line : String} {f : Fault} (hstops : input.stops = false)
    (hline : input.line? = some line) (hon : Run.on (t.runLine line) s = (.error f, after))
    (inputs : List Input) : t.Account s (input :: inputs) [] input [] s [line] := by
  have hsession := session_of_line inputs t s hstops hline
  rw [hon] at hsession
  refine ⟨?_, by simp, rfl, ?_, ?_, ?_, ?_⟩
  · simp [readsOf_cons (Input.answers_of_line? hline)]
  · rw [hsession]
    exact Or.inr ⟨line, f, after, hstops, hline, hon, rfl, rfl⟩
  · rw [hsession]
    rfl
  · rw [hsession]
    rfl
  · intro made
    rw [hsession, session_of_line _ _ _ hstops hline, on_runLine_recording, hon]
    simp [linesOf]

theorem Account.complete (h : t.Account s inputs front last outcomes after further)
    (text : String) : t.Account s (.complete text :: inputs) front last outcomes after further where
  reads := h.reads
  goesOn := h.goesOn
  returns := h.returns
  ends := h.ends
  prompts := h.prompts
  texts := h.texts
  calls made := by
    have hcalls := h.calls made
    simp only [session, Course.following, Course.mk.injEq, List.singleton_append,
      List.cons.injEq] at hcalls
    obtain ⟨⟨-, hevents⟩, hfault, hafter⟩ := hcalls
    simp [session_of_complete, Course.following, hevents, hfault, hafter]

theorem Account.blank (h : t.Account s inputs front last outcomes after further)
    (hanswers : input.answers = true) (hstops : input.stops = false) (hline : input.line? = none) :
    t.Account s (input :: inputs) (input :: front) last outcomes after further := by
  have hlines (done : List Input) : linesOf (input :: done) = linesOf done :=
    List.filterMap_cons_none hline
  have hsession := session_of_blank inputs t s hanswers hstops hline
  refine ⟨?_, List.forall_mem_cons.2 ⟨hstops, h.goesOn⟩, ?_, ?_, ?_, ?_, ?_⟩
  · rw [readsOf_cons hanswers]
    exact (List.prefix_cons_inj input).2 h.reads
  · rw [hlines]
    exact h.returns
  · rw [hsession]
    exact h.ends
  · -- The new prompt is the first one. The others see the same lines as before.
    simp only [List.inits_cons, List.map_cons, List.map_map, Function.comp_def, hlines]
    rw [← h.prompts, hsession]
    rfl
  · rw [hsession]
    exact h.texts
  · intro made
    rw [hlines, hsession, session_of_blank _ _ _ hanswers hstops hline, h.calls]
    rfl

theorem Account.line {line : String} {o : Outcome} {next : σ}
    (h : t.Account next inputs front last outcomes after further) (hstops : input.stops = false)
    (hline : input.line? = some line) (hon : Run.on (t.runLine line) s = (.ok o, next)) :
    t.Account s (input :: inputs) (input :: front) last (o :: outcomes) after further := by
  have hlines (done : List Input) : linesOf (input :: done) = line :: linesOf done :=
    List.filterMap_cons_some hline
  have hsession := session_of_line inputs t s hstops hline
  rw [hon] at hsession
  refine ⟨?_, List.forall_mem_cons.2 ⟨hstops, h.goesOn⟩, ?_, ?_, ?_, ?_, ?_⟩
  · rw [readsOf_cons (Input.answers_of_line? hline)]
    exact (List.prefix_cons_inj input).2 h.reads
  · rw [hlines, List.mapM_cons, Run.on_bind_of_ok hon, Run.on_bind_of_ok h.returns]
    rfl
  · rw [hsession]
    exact h.ends
  · -- All prompts but the first are shown after the line, so they are those of the rest.
    have hafter (lines : List String) :
        Run.after t.runLine (line :: lines) s = Run.after t.runLine lines next := by
      simp [Run.after, hon]
    simp only [List.inits_cons, List.map_cons, List.map_map, Function.comp_def, hlines, hafter]
    rw [← h.prompts, hsession]
    simp [prompts_shownFor, linesOf, Run.after]
  · rw [hsession]
    simp only [events_following, List.cons_append, texts_prompt_cons, texts_append, texts_shownFor,
      h.texts]
    rw [← List.append_assoc, ← List.filter_append]
    rfl
  · intro made
    rw [hlines, hsession, session_of_line _ _ _ hstops hline, on_runLine_recording, hon]
    dsimp only
    rw [h.calls]
    simp [Course.following]

end Accounts

/-- **Every session has an account.** -/
theorem exists_account (t : Terminal σ) (s : σ) (inputs : List Input) :
    ∃ front last outcomes after further,
      t.Account s inputs front last outcomes after further := by
  induction inputs generalizing s with
  | nil => exact ⟨_, _, _, _, _, account_nil t s⟩
  | cons input inputs ih =>
    cases hstops : input.stops with
    | true => exact ⟨_, _, _, _, _, account_of_stops hstops inputs t s⟩
    | false =>
      cases hline : input.line? with
      | some line =>
        rcases hon : Run.on (t.runLine line) s with ⟨f | o, next⟩
        · exact ⟨_, _, _, _, _, account_of_error hstops hline hon inputs⟩
        · obtain ⟨front, last, outcomes, after, further, h⟩ := ih next
          exact ⟨_, _, _, _, _, h.line hstops hline hon⟩
      | none =>
        obtain ⟨front, last, outcomes, after, further, h⟩ := ih s
        cases hanswers : input.answers with
        | true => exact ⟨_, _, _, _, _, h.blank hanswers hstops hline⟩
        | false =>
          cases input with
          | complete text => exact ⟨_, _, _, _, _, h.complete text⟩
          | _ => cases hanswers

end Terminal

/-! ## Whole sessions -/

/-- **A session runs the lines before its end, one after the other.** It reads inputs `front`, none of
which ends it and whose lines all return, and then one more: either this one ends the session, and
there is no fault; or it gives a line that is given up, and the fault is the session's. The lines
that are run are exactly those of these inputs, without the blanks around them, in order.

There is one prompt for each input that is read, as the settings have it after the lines in front of
that input. What is printed is the greeting, the outcomes of the lines that have any text, and the
goodbye. -/
theorem run_follows_inputs {settings : Settings} {console : Console} {greeting : String}
    (hstart : start settings = .ok (console, greeting)) (inputs : List Input) :
    let t := terminal .builtin (completes settings)
    let report := run settings inputs
    let recorded := t.recording.session (console, []) inputs
    ∃ front last outcomes after further,
      front ++ [last] <+: readsOf inputs ∧ (∀ input ∈ front, input.stops = false) ∧
      Run.on ((linesOf front).mapM Commands.builtin.runLine) console = (.ok outcomes, after) ∧
      t.Ends after last report.fault further ∧
      (prompts report.events = front.inits.map fun done =>
        (Run.after Commands.builtin.runLine (linesOf done) console).settings.get "shell.prompt"
          (.text "> ")) ∧
      printed report.events = String.join
        ((greeting :: (outcomes.map Outcome.rendered).filter (· ≠ "") ++ ["Bye!"]).map (· ++ "\n")) ∧
      report.events = .print greeting :: recorded.events ∧ report.fault = recorded.fault ∧
      recorded.after.2 = linesOf front ++ further := by
  intro t report recorded
  obtain ⟨front, last, outcomes, after, further, h⟩ := t.exists_account console inputs
  have hreport : report = ⟨.print greeting :: (t.session console inputs).events,
      some (completes settings), (t.session console inputs).fault⟩ := by
    show run settings inputs = _
    rw [run, hstart]
  have hrecorded : recorded = _ := h.calls []
  refine ⟨front, last, outcomes, after, further, h.reads, h.goesOn, h.returns, ?_, ?_, ?_, ?_, ?_, ?_⟩
  · rw [hreport]
    exact h.ends
  · rw [hreport]
    exact h.prompts
  · rw [hreport, printed]
    show String.join ((greeting :: texts (t.session console inputs).events).map _) = _
    rw [h.texts]
    rfl
  · rw [hreport, hrecorded]
  · rw [hreport, hrecorded]
  · rw [hrecorded]
    rfl

/-- The prompt is changed, a line is blank, and the user leaves before the last line. -/
def promptChange : List Input :=
  [.line " config set shell.prompt $ ", .line "", .line "QUIT", .line "echo b"]

theorem on_runLine_promptChange (context : Context) :
    ∃ next, Run.on (Commands.builtin.runLine "config set shell.prompt $")
        ⟨context, ⟨Settings.packaged, .packaged⟩⟩ = (.ok (.ok "shell.prompt = '$'"), next) ∧
      next.settings.get "shell.prompt" (.text "> ") = .text "$" := by
  have hcalls : Calls "config set shell.prompt $" ["config", "set", "shell.prompt", "$"] :=
    ⟨rfl, "config set shell.prompt $", by decide +kernel, by decide +kernel⟩
  obtain ⟨command, hcommand⟩ := hcalls.exists_on_runLine Command.get?_builtin_config
  have hon := hcommand ⟨context, ⟨Settings.packaged, .packaged⟩⟩
  have hanswer : (Command.config ["set", "shell.prompt", "$"]
      ⟨context, ⟨Settings.packaged, .packaged⟩⟩).1 =
        .ok (.outcome (.ok "shell.prompt = '$'")) := rfl
  rw [hanswer, Engine.settle_outcome (Outcome.not_silent_of_success rfl)] at hon
  exact ⟨_, hon, rfl⟩

theorem stops_quit : (Input.line "QUIT").stops = true := by decide +kernel

/-- The first line returns and the second is blank, so a session ends at the third. -/
theorem front_promptChange {t : Terminal Console} {front : List Input} {last : Input}
    {s after next : Console} {outcomes : List Outcome} {o : Outcome} {fault : Option Fault}
    {further : List String} (hreads : front ++ [last] <+: readsOf promptChange)
    (hgoesOn : ∀ input ∈ front, input.stops = false)
    (hreturns : Run.on ((linesOf front).mapM t.runLine) s = (.ok outcomes, after))
    (hends : t.Ends after last fault further)
    (hon : Run.on (t.runLine "config set shell.prompt $") s = (.ok o, next)) :
    front = promptChange.take 2 ∧ last = .line "QUIT" := by
  replace hreads : front ++ [last] <+: promptChange ++ [.endOfInput] := hreads
  rcases front with _ | ⟨first, _ | ⟨second, _ | ⟨third, front⟩⟩⟩ <;>
    simp only [promptChange, List.nil_append, List.cons_append, List.cons_prefix_cons] at hreads
  · obtain ⟨rfl, -⟩ := hreads
    have hline : (Input.line " config set shell.prompt $ ").line? =
        some "config set shell.prompt $" := by decide +kernel
    cases hreturns
    rcases hends with ⟨hstops, -⟩ | ⟨line, f, after, -, hlast, hfault, -⟩
    · exact absurd hstops (by decide +kernel)
    · rw [hline] at hlast
      cases hlast
      rw [hon] at hfault
      cases hfault
  · obtain ⟨rfl, rfl, -⟩ := hreads
    rcases hends with ⟨hstops, -⟩ | ⟨line, f, after, -, hlast, -⟩
    · exact absurd hstops (by decide +kernel)
    · exact absurd hlast (by simp [Input.line?, show Text.trim "" = "" from rfl])
  · obtain ⟨rfl, rfl, rfl, -⟩ := hreads
    exact ⟨rfl, rfl⟩
  · obtain ⟨rfl, rfl, rfl, -⟩ := hreads
    have hthird := hgoesOn (.line "QUIT") (by simp)
    rw [stops_quit] at hthird
    cases hthird

theorem run_follows_inputs_promptChange :
    let settings : Settings := ⟨Settings.packaged, .packaged⟩
    let t := terminal .builtin (completes settings)
    ∃ console greeting, start settings = .ok (console, greeting) ∧
      prompts (run settings promptChange).events = [.text "street> ", .text "$", .text "$"] ∧
      printed (run settings promptChange).events = greeting ++ "\nshell.prompt = '$'\nBye!\n" ∧
      (run settings promptChange).fault = none ∧
      (t.recording.session (console, []) promptChange).after.2 = ["config set shell.prompt $"] := by
  intro settings t
  obtain ⟨context, greeting, hstart⟩ :
      ∃ context greeting, start settings = .ok (⟨context, settings⟩, greeting) := ⟨_, _, rfl⟩
  obtain ⟨next, hon, hnext⟩ := on_runLine_promptChange context
  obtain ⟨front, last, outcomes, after, further, hreads, hgoesOn, hreturns, hends, hprompts, hprinted,
    -, -, hcalls⟩ := run_follows_inputs hstart promptChange
  obtain ⟨rfl, rfl⟩ := front_promptChange hreads hgoesOn hreturns hends hon
  have hlines : linesOf (promptChange.take 2) = ["config set shell.prompt $"] := by decide +kernel
  have hfirst : linesOf (promptChange.take 1) = ["config set shell.prompt $"] := by decide +kernel
  have hafter : Run.after Commands.builtin.runLine ["config set shell.prompt $"]
      ⟨context, settings⟩ = next := congrArg Prod.snd hon
  rw [hlines, List.mapM_cons, Run.on_bind_of_ok hon] at hreturns
  cases hreturns
  obtain ⟨-, hfault, rfl⟩ | ⟨line, f, after, hstops, -⟩ := hends
  · refine ⟨_, greeting, hstart, ?_, ?_, hfault, ?_⟩
    · have hinits : (promptChange.take 2).inits =
          [[], promptChange.take 1, promptChange.take 2] := by
        simp [promptChange]
      rw [hprompts, hinits]
      simp only [List.map_cons, List.map_nil, hfirst, hlines, hafter, hnext]
      rfl
    · rw [hprinted]
      simp [String.join, Outcome.rendered_ok, String.append_assoc]
    · rw [hcalls, hlines]
      rfl
  · rw [stops_quit] at hstops
    cases hstops

end StreetConsole.Session
