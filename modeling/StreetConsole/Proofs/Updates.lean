import StreetConsole.Proofs.Fields
import StreetConsole.Proofs.ReadBack

/-!
# What changes the fields of a console

A line may be a chain or a conditional, parts of it may be left out, and it may be given up in the
middle. Its effect on the fields is still easy to tell from the calls that it makes.

**Theorem (`Commands.context_after_each_line`).** Over the built-in commands, the fields after a
line are those before it, updated in order by the calls of the line that are assignments: `set` with
two arguments the second of which reads as an integer. So integers stay integers, and no field is
lost.

The proof has two parts. First, an engine does nothing to the state but make calls, whatever its
runner is (`Recorded`, closed under sequencing, and `recorded_execute`). Second, of the built-in
commands only `set` touches the fields (`keepsFields_of_get?`), and only as an assignment
(`context_effect`).
-/

namespace StreetConsole

open Conditional

/-! ## The calls of a line account for the state -/

namespace Engine

variable {σ α β : Type}

/-- What running a command does to the state. -/
def effect (e : Engine σ) (s : σ) (command : String) : σ := (Run.on (e.single command) s).2

/-- The second computation does what the first one does, and writes down calls. What these calls do,
one after the other, is all that happens to the state. -/
def Recorded (e : Engine σ) (m : Run σ α) (m' : Run (σ × List String) α) : Prop :=
  ∀ s made, ∃ calls, Run.on m' (s, made) = ((Run.on m s).1, (Run.on m s).2, made ++ calls) ∧
    (Run.on m s).2 = calls.foldl e.effect s

theorem recorded_mk (e : Engine σ) (r : Except Fault α) :
    e.Recorded (ExceptT.mk (pure r)) (ExceptT.mk (pure r)) := by
  intro s made
  exact ⟨[], by simp, rfl⟩

theorem recorded_pure (e : Engine σ) (a : α) : e.Recorded (pure a) (pure a) :=
  e.recorded_mk (.ok a)

theorem Recorded.bind {e : Engine σ} {m : Run σ α} {m' : Run (σ × List String) α}
    {k : α → Run σ β} {k' : α → Run (σ × List String) β} (hm : e.Recorded m m')
    (hk : ∀ a, e.Recorded (k a) (k' a)) : e.Recorded (m >>= k) (m' >>= k') := by
  intro s made
  obtain ⟨calls, hrun, hstate⟩ := hm s made
  rcases hfirst : Run.on m s with ⟨f | a, t⟩
  · rw [hfirst] at hrun hstate
    rw [Run.on_bind_of_error hfirst, Run.on_bind_of_error hrun]
    exact ⟨calls, rfl, hstate⟩
  · rw [hfirst] at hrun hstate
    obtain ⟨further, hrest, hend⟩ := hk a t (made ++ calls)
    rw [Run.on_bind_of_ok hfirst, Run.on_bind_of_ok hrun]
    refine ⟨calls ++ further, ?_, ?_⟩
    · rw [hrest, List.append_assoc]
    · rw [hend, List.foldl_append, ← hstate]

theorem recorded_single (e : Engine σ) (command : String) :
    e.Recorded (e.single command) (e.recording.single command) := by
  intro s made
  refine ⟨e.called command, e.on_single_recording command s made, ?_⟩
  rw [called]
  split
  · rfl
  · next hnone =>
    rw [on_single, Option.not_isSome_iff_eq_none.1 hnone]
    rfl

theorem recorded_link (e : Engine σ) (l : Link) : e.Recorded (e.link l) (e.recording.link l) := by
  refine (e.recorded_single l.command).bind fun o => ?_
  show e.Recorded _ (if !l.pipes.isEmpty && o.success then _ else _)
  split
  · exact e.recorded_mk _
  · exact e.recorded_pure o

theorem recorded_chainFrom (e : Engine σ) (last : Outcome) (log : List String)
    (links : List Link) :
    e.Recorded (e.chainFrom last log links) (e.recording.chainFrom last log links) := by
  induction links generalizing last log with
  | nil => exact e.recorded_pure _
  | cons l links ih =>
    rw [chainFrom, chainFrom]
    split
    · exact ih last log
    · exact (e.recorded_link l).bind fun o => ih o _

theorem recorded_plainLine (e : Engine σ) (line : String) :
    e.Recorded (e.plainLine line) (e.recording.plainLine line) := by
  unfold plainLine
  split
  · exact e.recorded_pure _
  · exact e.recorded_pure _
  · exact e.recorded_single _
  · exact e.recorded_chainFrom _ _ _

/-- **All that a line does to the state is to make its calls.** -/
theorem recorded_execute (e : Engine σ) (state : Value) (line : String) :
    e.Recorded (e.execute state line) (e.recording.execute state line) := by
  rcases execute_cases state line with ⟨-, hplain⟩ | ⟨answer, hanswer⟩
  · rw [hplain, hplain]
    exact e.recorded_plainLine _
  · rw [hanswer, hanswer]
    exact e.recorded_mk answer

/-- A line that cannot be read, and a conditional none of whose branches is run, do nothing. -/
theorem execute_of_idle {state : Value} {line : String}
    (h : isConditional (leaf state line) = true ∨
      ∃ error, Chain.parse (leaf state line) = .error error) :
    ∃ answer, ∀ {σ : Type} (e : Engine σ), e.execute state line = ExceptT.mk (pure answer) := by
  rcases execute_cases state line with ⟨hline, hplain⟩ | hidle
  · obtain hcond | ⟨error, hparse⟩ := h
    · rw [hline] at hcond
      cases hcond
    · refine ⟨.ok (.fail error.message), fun e => ?_⟩
      rw [hplain, plainLine, hparse]
      rfl
  · exact hidle

/-- A link that is left out might as well not be there. -/
theorem on_chain_of_skips {e : Engine σ} {before after : List Link} {l : Link} {s t : σ}
    {o : Outcome} (h : Run.on (e.chain before) s = (.ok o, t))
    (hskip : skips o l.operator = true) :
    Run.on (e.chain (before ++ l :: after)) s = Run.on (e.chain (before ++ after)) s := by
  obtain ⟨ran, hran, rfl⟩ := chain_eq_ok_iff.1 h
  rw [skips_outcome] at hskip
  have hl : e.advance ran l = pure ran := by rw [advance, if_pos hskip]
  have htranscript : Run.on (e.transcript (before ++ l :: after)) s =
      Run.on (e.transcript (before ++ after)) s := by
    unfold transcript at hran ⊢
    rw [List.foldlM_append, List.foldlM_append, Run.on_bind_of_ok hran, Run.on_bind_of_ok hran,
      List.foldlM_cons, hl, pure_bind]
  rw [chain_eq_transcript, chain_eq_transcript, Run.on_map, Run.on_map, htranscript]

/-- What a chain does to the state, the line that it is made of does. -/
theorem state_on_execute {state : Value} {line : String} {links : List Link}
    (hline : isConditional (leaf state line) = false)
    (hparse : Chain.parse (leaf state line) = .ok links) (e : Engine σ) (s : σ) :
    (Run.on (e.execute state line) s).2 = (Run.on (e.chain links) s).2 := by
  rw [← e.execute_leaf state line, e.execute_of_not_isConditional state hline]
  by_cases hblank : Text.trim (leaf state line) = ""
  · rw [parse_of_blank hblank] at hparse
    cases hparse
    rw [if_pos hblank]
    rfl
  · rw [if_neg hblank, plainLine, hparse]
    split
    · next h => cases h
    · next h =>
      cases h
      rfl
    · next command operator h =>
      cases h
      have hoperator : operator = none := (Chain.wellFormed_of_parse hparse).first _ rfl
      rw [hoperator, chain_lone, Run.on_map]
    · next h =>
      cases h
      rfl

end Engine

/-! ## What single commands do to the fields -/

/-- The command keeps the fields as they are. -/
def Handler.KeepsFields (handler : Handler) : Prop :=
  ∀ args console, (handler args console).2.context = console.context

namespace Command

theorem get_bind_apply (k : Console → StateM Console (Except Fault Reply)) (console : Console) :
    (get >>= k) console = k console console := rfl

theorem keepsFields_echo : Handler.KeepsFields echo := fun _ _ => rfl

theorem keepsFields_message (text : String) : Handler.KeepsFields (message text) := fun _ _ => rfl

theorem keepsFields_state : Handler.KeepsFields state := by
  intro args console
  rw [state, get_bind_apply]
  dsimp only
  split <;> rfl

theorem keepsFields_config : Handler.KeepsFields config := by
  intro args console
  unfold config
  split
  · rfl
  · rfl
  · rw [showSetting, get_bind_apply]
    split <;> rfl
  · rw [changeSetting_eq]
  · rw [reloadSettings, get_bind_apply]
    cases Settings.load console.settings.file <;> rfl
  · rfl

/-- The field and the integer of a command that sets a field: `set`, with two arguments the second
of which reads as an integer. -/
def assignment? (command : String) : Option (String × Int) :=
  match words command with
  | ["set", field, raw] =>
    match readInt raw with
    | .ok n => some (field, n)
    | .error _ => none
  | _ => none

theorem assignment?_eq_some_iff {command field : String} {n : Int} :
    assignment? command = some (field, n) ↔
      ∃ raw, words command = ["set", field, raw] ∧ readInt raw = .ok n := by
  unfold assignment?
  split
  · next field' raw hwords =>
    rw [hwords]
    cases hraw : readInt raw with
    | error f => simp [hraw]
    | ok m => simp [hraw]
  · next hother =>
    constructor
    · nofun
    · rintro ⟨raw, hwords, -⟩
      exact absurd hwords (hother field raw)

/-- `set` keeps the fields, unless it is given a name and an integer. -/
theorem context_set_of_not {args : List String}
    (h : ∀ field raw n, args = [field, raw] → readInt raw ≠ .ok n) (console : Console) :
    (Command.set args console).2.context = console.context := by
  unfold Command.set
  split
  · next field raw =>
    cases hraw : readInt raw with
    | error f => rfl
    | ok n => exact absurd hraw (h field raw n rfl)
  · rfl

theorem keepsFields_of_get? {name : String} {handler : Handler}
    (h : Dict.get? Commands.builtin name = some handler) (hname : name ≠ "set") :
    handler.KeepsFields := by
  have hall : ∀ p ∈ Commands.builtin, p.1 ≠ "set" → Handler.KeepsFields p.2 := by
    simp [Commands.builtin, keepsFields_config, keepsFields_echo, keepsFields_message,
      keepsFields_state]
  exact hall _ ((Dict.get?_eq_some_iff_mem (by decide)).1 h) hname

end Command

/-- The state after a field has been set to an integer. -/
def Context.assign (c : Context) (a : String × Int) : Context := c.set a.1 (.int a.2)

namespace Commands

open Command

/-- A built-in command that sets no field keeps the fields. -/
theorem context_runner_of_not {command : String} (h : assignment? command = none)
    (console : Console) : (builtin.runner command console).2.context = console.context := by
  unfold runner
  cases hwords : words command with
  | nil => rfl
  | cons name args =>
    dsimp only
    cases hget : Dict.get? builtin name with
    | none => rfl
    | some handler =>
      by_cases hname : name = "set"
      · subst hname
        cases hget
        refine context_set_of_not (fun field raw n hargs hraw => ?_) console
        rw [assignment?_eq_some_iff.2 ⟨raw, hargs ▸ hwords, hraw⟩] at h
        cases h
      · exact keepsFields_of_get? hget hname args console

theorem context_runner_of_assignment {command : String} {a : String × Int}
    (h : assignment? command = some a) (console : Console) :
    (builtin.runner command console).2.context = console.context.assign a := by
  obtain ⟨raw, hwords, hraw⟩ := assignment?_eq_some_iff.1 h
  rw [runner, hwords]
  exact context_set hraw console a.1

theorem context_effect (console : Console) (command : String) :
    (builtin.engine.effect console command).context =
      (assignment? command).elim console.context console.context.assign := by
  have heffect : builtin.engine.effect console command = (builtin.runner command console).2 := by
    rw [Engine.effect, Engine.on_single]
    rfl
  rw [heffect]
  cases h : assignment? command with
  | none => exact context_runner_of_not h console
  | some a => exact context_runner_of_assignment h console

/-- **Of a list of calls, those that set a field count.** -/
theorem context_foldl_effect (calls : List String) (console : Console) :
    (calls.foldl builtin.engine.effect console).context =
      (calls.filterMap assignment?).foldl Context.assign console.context := by
  induction calls generalizing console with
  | nil => rfl
  | cons command calls ih =>
    rw [List.foldl_cons, ih, context_effect]
    cases h : assignment? command with
    | none => rw [List.filterMap_cons_none h]; rfl
    | some a => rw [List.filterMap_cons_some h]; rfl

theorem on_runLine (commands : Commands) (line : String) (console : Console) :
    Run.on (commands.runLine line) console =
      Run.on (commands.engine.execute console.context.snapshot line) console := rfl

/-- A line makes calls, and the fields after it are what these calls leave. -/
theorem exists_calls (console : Console) (line : String) :
    ∃ calls, Run.on (builtin.engine.recording.execute console.context.snapshot line) (console, []) =
        ((Run.on (builtin.runLine line) console).1, (Run.on (builtin.runLine line) console).2,
          calls) ∧
      (Run.on (builtin.runLine line) console).2.context =
        (calls.filterMap assignment?).foldl Context.assign console.context := by
  obtain ⟨calls, hrecorded, hstate⟩ :=
    builtin.engine.recorded_execute console.context.snapshot line console []
  rw [on_runLine]
  refine ⟨calls, by simpa using hrecorded, ?_⟩
  rw [← context_foldl_effect, ← hstate]

end Commands

/-! ## Fields that are integers -/

namespace Context

/-- All fields are integers. -/
def IsIntegral (c : Context) : Prop := ∀ field ∈ c.fields, ∃ n : Int, field.2 = .int n

theorem IsIntegral.assign {c : Context} (h : c.IsIntegral) (a : String × Int) :
    (c.assign a).IsIntegral := by
  intro field hfield
  rcases Dict.mem_of_mem_put hfield with hold | rfl
  · exact h field hold
  · exact ⟨a.2, rfl⟩

theorem IsIntegral.foldl_assign {c : Context} (h : c.IsIntegral) (as : List (String × Int)) :
    (as.foldl Context.assign c).IsIntegral := by
  induction as generalizing c with
  | nil => exact h
  | cons a as ih => exact ih (h.assign a)

theorem keys_prefix_foldl_assign (c : Context) (as : List (String × Int)) :
    Dict.keys c.fields <+: Dict.keys (as.foldl assign c).fields := by
  induction as generalizing c with
  | nil => exact List.prefix_refl _
  | cons a as ih => exact (Dict.keys_prefix_put c.fields _ _).trans (ih (c.assign a))

end Context

namespace Commands

open Command

theorem isIntegral_after {console : Console} (h : console.context.IsIntegral)
    (lines : List String) : (Run.after builtin.runLine lines console).context.IsIntegral := by
  induction lines using List.reverseRecOn with
  | nil => exact h
  | append_singleton lines line ih =>
    obtain ⟨calls, -, hcontext⟩ := exists_calls (Run.after builtin.runLine lines console) line
    rw [Run.after_concat, hcontext]
    exact ih.foldl_assign _

/-- **Only assignments change the fields.** After each of any number of lines, the fields are those
before the line, updated in order by the assignments among the calls that the line made, whether it
returned or was given up. So they are integers if they were, and none is lost.

A line that cannot be read makes no call, and a link that is left out might as well not be there. A
command that is not `set` with a name and an integer keeps the fields as they are. -/
theorem context_after_each_line {console : Console} (hconsole : console.context.IsIntegral)
    (before : List String) (line : String) :
    let previous := Run.after builtin.runLine before console
    let next := Run.after builtin.runLine (before ++ [line]) console
    let last := leaf previous.context.snapshot line
    next.context.IsIntegral ∧
    Dict.keys previous.context.fields <+: Dict.keys next.context.fields ∧
    (∃ answer calls, Run.on (builtin.runLine line) previous = (answer, next) ∧
      Run.on (builtin.engine.recording.execute previous.context.snapshot line) (previous, []) =
        (answer, next, calls) ∧
      next.context = (calls.filterMap assignment?).foldl Context.assign previous.context ∧
      ((isConditional last = true ∨ ∃ error, Chain.parse last = .error error) → calls = []) ∧
      ∀ links l links' o t, isConditional last = false →
        Chain.parse last = .ok (links ++ l :: links') →
        Run.on (builtin.engine.chain links) previous = (.ok o, t) →
        Engine.skips o l.operator = true →
        (Run.on (builtin.engine.recording.chain (links ++ links')) (previous, [])).2 =
          (next, calls)) ∧
    ∀ command, (∀ field raw n, words command = ["set", field, raw] → readInt raw ≠ .ok n) →
      ∀ console, (builtin.runner command console).2.context = console.context := by
  intro previous next last
  have hnext : next = (Run.on (builtin.runLine line) previous).2 := Run.after_concat ..
  obtain ⟨calls, hcalls, hcontext⟩ := exists_calls previous line
  rw [← hnext] at hcalls hcontext
  refine ⟨isIntegral_after hconsole _, ?_, ⟨_, calls, by rw [hnext], hcalls, hcontext, ?_, ?_⟩, ?_⟩
  · rw [hcontext]
    exact Context.keys_prefix_foldl_assign _ _
  · intro hidle
    obtain ⟨answer, hanswer⟩ := Engine.execute_of_idle hidle
    rw [hanswer] at hcalls
    exact (congrArg (·.2.2) hcalls).symm
  · intro links l links' o t hline hparse hlinks hskip
    obtain ⟨made, hmade, -⟩ := builtin.engine.recorded_chainFrom (.ok "") [] links previous []
    have hrecorded : Run.on (builtin.engine.recording.chain links) (previous, []) =
        (.ok o, t, [] ++ made) := by
      rw [Engine.chain] at hlinks
      rw [Engine.chain, hmade, hlinks]
    rw [← Engine.on_chain_of_skips hrecorded hskip, ← Engine.state_on_execute hline hparse, hcalls]
  · intro command hcommand console
    refine context_runner_of_not (Option.eq_none_iff_forall_ne_some.2 ?_) console
    rintro ⟨field, n⟩ hassign
    obtain ⟨raw, hwords, hraw⟩ := assignment?_eq_some_iff.1 hassign
    exact hcommand field raw n hwords hraw

/-- A chain that leaves its second link out, has a third one that is refused, and is given up before
the last one. -/
def faultyAssignments : List Link := [
  ⟨"set heat 60", [], none⟩, ⟨"set cash 0", [], some .or⟩, ⟨"set cash x", [], some .sequence⟩,
  ⟨"set Heat 7", [], some .sequence⟩,
  ⟨"echo a", ["grep a\x7b99999999999\x7d"], some .sequence⟩,
  ⟨"set cash 1", [], some .sequence⟩]

/-- The second line is given up after it has set the heat twice. -/
theorem context_after_each_line_given_up :
    let settings : Settings := ⟨Settings.packaged, .packaged⟩
    let console : Console := ⟨⟨[("heat", .int 0), ("cash", .int 500)]⟩, settings⟩
    let previous : Console :=
      ⟨⟨[("heat", .int 0), ("cash", .int 500), ("level", .int 2)]⟩, settings⟩
    let line := "set heat 60 || set cash 0 ; set cash x ; set Heat 7 ; " ++
      "echo a | grep a\x7b99999999999\x7d ; set cash 1"
    let next := Run.after builtin.runLine ["set level 2", line] console
    console.context.IsIntegral ∧ Run.after builtin.runLine ["set level 2"] console = previous ∧
    Chain.parse line = .ok faultyAssignments ∧
    (∃ answer, Run.on (builtin.engine.recording.execute previous.context.snapshot line)
      (previous, []) = (answer, next, ["set heat 60", "set cash x", "set Heat 7", "echo a"])) ∧
    next.context.IsIntegral ∧
    next.context.fields = [("heat", .int 7), ("cash", .int 500), ("level", .int 2)] := by
  intro settings console previous line next
  have hconsole : console.context.IsIntegral := by simp [console, Context.IsIntegral]
  have hlevel : Calls "set level 2" ["set", "level", "2"] :=
    ⟨rfl, "set level 2", by decide +kernel, by decide +kernel⟩
  have hset : Dict.get? builtin "set" = some Command.set := rfl
  have hprevious : Run.after builtin.runLine ["set level 2"] console = previous := by
    obtain ⟨command, hcommand⟩ := hlevel.exists_on_runLine hset
    show (Run.on (builtin.runLine "set level 2") console).2 = previous
    rw [hcommand]
    rfl
  have hparse : Chain.parse line = .ok faultyAssignments := by decide +kernel
  have hchain : builtin.engine.recording.execute previous.context.snapshot line =
      builtin.engine.recording.chain faultyAssignments := by
    rw [Engine.execute_of_not_isConditional _ _ (by decide +kernel), if_neg (by decide +kernel),
      Engine.plainLine, hparse]
    rfl
  obtain ⟨hintegral, -, ⟨answer, calls, -, hcalls, hcontext, -⟩, -⟩ :=
    context_after_each_line hconsole ["set level 2"] line
  rw [hprevious] at hcalls hcontext
  have hmade : calls = ["set heat 60", "set cash x", "set Heat 7", "echo a"] := by
    have hrecorded := congrArg (·.2.2) hcalls
    rw [hchain] at hrecorded
    rw [← show _ = calls from hrecorded]
    decide +kernel
  have hassignments : calls.filterMap assignment? = [("heat", 60), ("Heat", 7)] := by
    rw [hmade]
    decide +kernel
  have hheat : Text.lower "heat" = "heat" ∧ Text.lower "Heat" = "heat" := by decide +kernel
  refine ⟨hconsole, hprevious, hparse, ⟨answer, hmade ▸ hcalls⟩, hintegral, ?_⟩
  have hfields : next.context = _ := hcontext
  rw [hfields, hassignments]
  simp [previous, Context.assign, Context.set, hheat, Dict.put]

end Commands

end StreetConsole
