import StreetConsole.Command.Builtin
import StreetConsole.Proofs.Assignment
import StreetConsole.Proofs.Escape
import StreetConsole.Proofs.Normalization
import StreetConsole.Proofs.Rendering

/-!
# Settings are read back as they were written

What `Assigned` says of an assignment, in terms of what can be looked up afterwards. A look-up cannot
tell a null from nothing at all, and gives the default for both.

**Theorem (`set_read_back`).** After an assignment, its path leads to the value that was stored. No
path is read differently unless it leads up to the path of the assignment, and all that is above it
is a section. At the console, a setting that has been changed by `config set` is shown by
`config get` in the same words.

For the console it has to be known what a line does that is a lone command (`Calls`): the engine
hands it to the runner, the runner to its command, and what the command answers is shown.
-/

namespace StreetConsole

/-! ## Looking up after an assignment -/

namespace Settings

variable {keys : List String} {v w stored root root' : Value}

theorem lookup_eq (root : Value) (path : String) (d : Value) :
    lookup root path d =
      if ((find? (keysOf path) root).getD .null).isNull then d
      else (find? (keysOf path) root).getD .null := by
  rw [lookup, valueAt_eq_find?]

/-- What a text is read as is stored as a value of one kind. -/
theorem exists_of_map_eq_ok {α : Type} {m : Except Fault α} {g : α → Value}
    (h : m.map g = .ok stored) : ∃ a, stored = g a := by
  cases m with
  | error f => cases h
  | ok a => exact ⟨a, (Except.ok.inj h).symm⟩

/-- What is stored is the value itself, or what a text was read as. -/
theorem eq_or_of_convert (h : convert w v = .ok stored) :
    stored = v ∨ (∃ b, stored = .bool b) ∨ (∃ n, stored = .int n) ∨ ∃ x, stored = .double x := by
  unfold convert at h
  split at h
  · exact Or.inr (Or.inl (exists_of_map_eq_ok h))
  · exact Or.inr (Or.inr (Or.inl (exists_of_map_eq_ok h)))
  · exact Or.inr (Or.inr (Or.inr (exists_of_map_eq_ok h)))
  · exact Or.inl (Except.ok.inj h).symm

theorem not_isSection_of_convert (h : convert w v = .ok stored) (hv : ¬ v.IsSection) :
    ¬ stored.IsSection := by
  rcases eq_or_of_convert h with rfl | ⟨b, rfl⟩ | ⟨n, rfl⟩ | ⟨x, rfl⟩
  · exact hv
  all_goals rintro ⟨_, ⟨⟩⟩

theorem isNull_of_convert_text {s : String} (h : convert w (.text s) = .ok stored) :
    stored.isNull = false := by
  rcases eq_or_of_convert h with rfl | ⟨b, rfl⟩ | ⟨n, rfl⟩ | ⟨x, rfl⟩ <;> rfl

namespace Assigned

theorem find?_self (h : Assigned keys v stored root root') : find? keys root' = some stored := by
  simpa [find?] using h.below []

/-- A path that does not lead up to the assignment is apart from it, or goes on below it. There was
nothing below it before, and there is nothing now. -/
theorem find?_of_not_above (h : Assigned keys v stored root root') (hv : ¬ v.IsSection)
    {other : List String} (hother : ¬ other <+: keys) : find? other root' = find? other root := by
  by_cases hkeys : keys <+: other
  · obtain ⟨more, rfl⟩ := hkeys
    have hmore : more ≠ [] := by
      rintro rfl
      rw [List.append_nil] at hother
      exact hother (List.prefix_refl keys)
    have hafter : find? (keys ++ more) root' = none := by
      rw [h.below more, find?_of_not_isSection (not_isSection_of_convert h.converted hv) hmore]
    have hbefore : find? (keys ++ more) root = none := by
      rw [find?_append]
      cases hw : find? keys root with
      | none => rfl
      | some w => rw [Option.bind_some, find?_of_not_isSection (h.setting w hw) hmore]
    rw [hafter, hbefore]
  · exact h.apart other hother hkeys

theorem isSection_valueAt (h : Assigned keys v stored root root') {before : List String}
    (hbefore : before <+: keys) (hne : before ≠ keys) : (valueAt before root').IsSection := by
  obtain ⟨w, hw, hsection⟩ := h.above before hbefore hne
  rwa [valueAt_eq_find?, hw, Option.getD_some]

end Assigned

theorem get_of_set {s s' : Settings} {path : String} (h : s.set path v = (.ok stored, s'))
    (d : Value) : s'.get path d = if stored.isNull then d else stored := by
  rw [get, lookup_eq, (assigned_of_set h).find?_self, Option.getD_some]

end Settings

/-! ## Lines that are lone commands -/

/-- The line is a lone command, made of the given words. -/
structure Calls (line : String) (words : List String) : Prop where
  plain : Conditional.isConditional line = false
  lone : ∃ command, Chain.parse line = .ok [⟨command, [], none⟩] ∧ Command.words command = words

/-- A line that is a lone command is run as this command. -/
theorem Engine.execute_of_lone {σ : Type} (e : Engine σ) {line command : String}
    (hplain : Conditional.isConditional line = false)
    (hparse : Chain.parse line = .ok [⟨command, [], none⟩]) (state : Value) :
    e.execute state line = e.single command := by
  have hblank : Text.trim line ≠ "" := by
    intro hblank
    rw [parse_of_blank hblank] at hparse
    cases hparse
  rw [execute_of_not_isConditional _ _ hplain, if_neg hblank, plainLine, hparse]

/-- A command is handed its arguments by the runner, once, and its answer is settled. -/
theorem Engine.on_single_of_words {e : Engine Console} {commands : Commands} {command name : String}
    {args : List String} {handler : Handler} (he : e.runner = some commands.runner)
    (hwords : Command.words command = name :: args) (hname : Dict.get? commands name = some handler)
    (console : Console) :
    Run.on (e.single command) console =
      (settle command (handler args console).1, (handler args console).2) := by
  have hrunner : commands.runner command = handler args := by
    rw [Commands.runner, hwords]
    dsimp only
    rw [hname]
  rw [on_single, he]
  dsimp only
  rw [hrunner]

/-- A line that is a lone command does what its command does. -/
theorem Calls.exists_on_runLine {line name : String} {args : List String}
    (h : Calls line (name :: args)) {commands : Commands} {handler : Handler}
    (hname : Dict.get? commands name = some handler) :
    ∃ command, ∀ console, Run.on (commands.runLine line) console =
      (Engine.settle command (handler args console).1, (handler args console).2) := by
  obtain ⟨hplain, command, hparse, hwords⟩ := h
  refine ⟨command, fun console => ?_⟩
  show Run.on (commands.engine.execute console.context.snapshot line) console = _
  rw [Engine.execute_of_lone _ hplain hparse, Engine.on_single_of_words rfl hwords hname]

/-- Only an answer with a success comes to a success. -/
theorem Engine.bind_normalize_of_settle {command : String} {answer : Except Fault Reply}
    {o : Outcome} (h : settle command answer = .ok o) (ho : o.success = true) :
    answer.bind Reply.normalize = .ok o := by
  unfold settle at h
  split at h
  · obtain ⟨m, -, rfl⟩ := exists_fail_of_failureOf h
    cases ho
  · next o' hanswer =>
    split at h
    · next hfailed =>
      -- The outcome that is given a message is a failure, and stays one.
      cases h
      have hsuccess : o'.success = true := ho
      simp [hsuccess] at hfailed
    · rw [hanswer, h]

/-! ## Changing and showing a setting -/

namespace Command

variable {path value : String} {console : Console} {v : Value}

theorem get?_builtin_config : Dict.get? Commands.builtin "config" = some config := rfl

theorem config_set (key word : String) (words : List String) :
    config ("set" :: key :: word :: words) = changeSetting key (Text.unwords (word :: words)) := rfl

theorem config_get (key : String) : config ["get", key] = showSetting key := rfl

theorem written_of_settingLine {line : String} (h : settingLine (path, v) = .ok line) :
    ∃ text, v.written = .ok text ∧ line = path ++ " = " ++ text := by
  rw [settingLine] at h
  cases hwritten : v.written with
  | error f =>
    rw [hwritten] at h
    cases h
  | ok text =>
    rw [hwritten] at h
    cases h
    exact ⟨text, rfl, rfl⟩

/-- What `config set` does: it takes over the settings as they are after the assignment, and shows
the setting or reports the refusal. -/
theorem changeSetting_eq (path value : String) (console : Console) :
    changeSetting path value console =
      (match (console.settings.set path (.text value)).1 with
        | .ok stored => (settingLine (path, stored)).map fun line => .outcome (.ok line)
        | .error f =>
          if isRefusal f then
            f.message.map fun m => .outcome (.fail ("Cannot set " ++ path ++ ": " ++ m))
          else .error f,
        { console with settings := (console.settings.set path (.text value)).2 }) := by
  show (match (console.settings.set path (.text value)).1 with
    | .ok stored => _
    | .error f => _ : StateM Console (Except Fault Reply))
      { console with settings := (console.settings.set path (.text value)).2 } = _
  cases (console.settings.set path (.text value)).1 with
  | ok stored => rfl
  | error f =>
    show (if isRefusal f then _ else _ : StateM Console (Except Fault Reply)) _ = _
    dsimp only
    split <;> rfl

theorem showSetting_of_get (h : (console.settings.get path .null).isNull = false) :
    showSetting path console =
      ((settingLine (path, console.settings.get path .null)).map fun line => .outcome (.ok line),
        console) := by
  show (if (console.settings.get path .null).isNull then _ else _ : StateM Console _) console = _
  rw [h]
  rfl

/-- A success of `config set` means that the setting was stored and could be written. -/
theorem exists_of_changeSetting {o : Outcome}
    (h : (changeSetting path value console).1.bind Reply.normalize = .ok o)
    (ho : o.success = true) :
    ∃ stored text, (console.settings.set path (.text value)).1 = .ok stored ∧
      stored.written = .ok text ∧ o = .ok (path ++ " = " ++ text) := by
  rw [changeSetting_eq] at h
  cases hset : (console.settings.set path (.text value)).1 with
  | ok stored =>
    rw [hset] at h
    cases hline : settingLine (path, stored) with
    | error f => simp [hline, Except.map, Except.bind] at h
    | ok line =>
      obtain ⟨text, hwritten, rfl⟩ := written_of_settingLine hline
      simp only [hline] at h
      exact ⟨stored, text, rfl, hwritten, (Except.ok.inj h).symm⟩
  | error f =>
    rw [hset] at h
    dsimp only at h
    split at h
    · cases hmessage : f.message with
      | error g => simp [hmessage, Except.map, Except.bind] at h
      | ok m =>
        rw [hmessage] at h
        cases h
        cases ho
    · cases h

/-- **What `config set` reports is what `config get` shows.** -/
theorem showSetting_of_changeSetting {o : Outcome}
    (h : (changeSetting path value console).1.bind Reply.normalize = .ok o)
    (ho : o.success = true) :
    let after := (changeSetting path value console).2
    ∃ text, (after.settings.get path .null).written = .ok text ∧ o = .ok (path ++ " = " ++ text) ∧
      showSetting path after = (.ok (.outcome o), after) := by
  intro after
  obtain ⟨stored, text, hset, hwritten, rfl⟩ := exists_of_changeSetting h ho
  have hafter : console.settings.set path (.text value) = (.ok stored, after.settings) := by
    refine Prod.ext hset ?_
    rw [show after = (changeSetting path value console).2 from rfl, changeSetting_eq]
  have hconverted := (Settings.assigned_of_set hafter).converted
  have hget : after.settings.get path .null = stored := by
    rw [Settings.get_of_set hafter, Settings.isNull_of_convert_text hconverted]
    rfl
  refine ⟨text, by rw [hget, hwritten], rfl, ?_⟩
  rw [showSetting_of_get (by rw [hget, Settings.isNull_of_convert_text hconverted]), hget,
    settingLine, hwritten]
  rfl

end Command

theorem Outcome.rendered_ok (output : String) : (Outcome.ok output).rendered = output := by
  rw [rendered_eq, if_neg (by simp [Outcome.ok])]
  rfl

/-- **At the console**, a line that changes a setting with success and a line that shows it
afterwards have the same outcome. -/
theorem Calls.on_runLine_get {line line' key word : String} {words : List String}
    {console after : Console} {o : Outcome}
    (hline : Calls line ("config" :: "set" :: key :: word :: words))
    (hline' : Calls line' ["config", "get", key])
    (hon : Run.on (Commands.builtin.runLine line) console = (.ok o, after))
    (ho : o.success = true) :
    ∃ text, (after.settings.get key .null).written = .ok text ∧ o = .ok (key ++ " = " ++ text) ∧
      Run.on (Commands.builtin.runLine line') after = (.ok o, after) := by
  obtain ⟨command, hset⟩ := hline.exists_on_runLine Command.get?_builtin_config
  obtain ⟨command', hget⟩ := hline'.exists_on_runLine Command.get?_builtin_config
  rw [hset console, Command.config_set] at hon
  obtain ⟨hsettle, rfl⟩ := Prod.mk.inj hon
  obtain ⟨text, hwritten, rfl, hshow⟩ :=
    Command.showSetting_of_changeSetting (Engine.bind_normalize_of_settle hsettle ho) ho
  refine ⟨text, hwritten, rfl, ?_⟩
  rw [hget, Command.config_get, hshow, Engine.settle_outcome (Outcome.not_silent_of_success ho)]

namespace Settings

/-- **Settings are read back as they were written.** After an assignment that returns, its path leads
to the value that was stored, or to the default if that is null. A path that does not lead up to the
path of the assignment, be it apart from it or below it, is read as before. All that is above it is a
section, so what was a section there still is one. In particular, a line that changes a setting with
success and a line that shows it afterwards have the same outcome and print the same text. -/
theorem set_read_back :
    (∀ {s s' : Settings} {path : String} {v stored : Value}, ¬ v.IsSection →
      s.set path v = (.ok stored, s') →
      (∀ d, s'.get path d = if stored.isNull then d else stored) ∧
      (∀ other, ¬ keysOf other <+: keysOf path → ∀ d, s'.get other d = s.get other d) ∧
      (∀ before, before <+: keysOf path → before ≠ keysOf path →
        (valueAt before s'.root).IsSection)) ∧
    (∀ {line line' key word : String} {words : List String} {console after : Console}
      {o : Outcome}, Calls line ("config" :: "set" :: key :: word :: words) →
      Calls line' ["config", "get", key] →
      Run.on (Commands.builtin.runLine line) console = (.ok o, after) → o.success = true →
      ∃ text, (after.settings.get key .null).written = .ok text ∧
        o.rendered = key ++ " = " ++ text ∧
        Run.on (Commands.builtin.runLine line') after = (.ok o, after)) := by
  refine ⟨fun hv hset => ⟨get_of_set hset, fun other hother d => ?_, fun before hbefore hne => ?_⟩,
    fun hline hline' hon ho => ?_⟩
  · rw [get, get, lookup_eq, lookup_eq, (assigned_of_set hset).find?_of_not_above hv hother]
  · exact (assigned_of_set hset).isSection_valueAt hbefore hne
  · obtain ⟨text, hwritten, rfl, hafter⟩ := hline.on_runLine_get hline' hon ho
    exact ⟨text, hwritten, Outcome.rendered_ok _, hafter⟩

/-- The settings that come with the console: a new section is made, and a switch is turned off. -/
theorem set_read_back_packaged :
    let s : Settings := ⟨packaged, .packaged⟩
    let s' := (s.set "shell.theme.colour" (.text "red")).2
    let shown : Outcome := .ok "autocomplete.enabled = False"
    s.set "shell.theme.colour" (.text "red") = (.ok (.text "red"), s') ∧
    s'.get "shell.theme.colour" .null = .text "red" ∧
    s'.get "shell.prompt" .null = s.get "shell.prompt" .null ∧
    s'.get "shell.theme.colour.dark" .null = s.get "shell.theme.colour.dark" .null ∧
    (valueAt ["shell", "theme"] s'.root).IsSection ∧
    ∃ after, Run.on (Commands.builtin.runLine "config set autocomplete.enabled off") ⟨⟨[]⟩, s⟩ =
        (.ok shown, after) ∧
      Run.on (Commands.builtin.runLine "config get autocomplete.enabled") after =
        (.ok shown, after) := by
  intro s s' shown
  have hset : s.set "shell.theme.colour" (.text "red") = (.ok (.text "red"), s') := rfl
  obtain ⟨hown, hothers, hsections⟩ := set_read_back.1 (by rintro ⟨_, ⟨⟩⟩) hset
  refine ⟨hset, hown .null, hothers "shell.prompt" (by decide +kernel) .null,
    hothers "shell.theme.colour.dark" (by decide +kernel) .null,
    hsections ["shell", "theme"] (by decide +kernel) (by decide +kernel), ?_⟩
  have hline : Calls "config set autocomplete.enabled off"
      ["config", "set", "autocomplete.enabled", "off"] :=
    ⟨rfl, "config set autocomplete.enabled off", by decide +kernel, by decide +kernel⟩
  have hline' : Calls "config get autocomplete.enabled" ["config", "get", "autocomplete.enabled"] :=
    ⟨rfl, "config get autocomplete.enabled", by decide +kernel, by decide +kernel⟩
  obtain ⟨command, hcommand⟩ := hline.exists_on_runLine Command.get?_builtin_config
  have hon := hcommand ⟨⟨[]⟩, s⟩
  have hanswer : (Command.config ["set", "autocomplete.enabled", "off"] ⟨⟨[]⟩, s⟩).1 =
      .ok (.outcome shown) := rfl
  rw [hanswer, Engine.settle_outcome (Outcome.not_silent_of_success rfl)] at hon
  obtain ⟨text, -, -, hafter⟩ := set_read_back.2 hline hline' hon rfl
  exact ⟨_, hon, hafter⟩

end Settings

end StreetConsole
