import StreetConsole.Proofs.Arguments

/-!
# Lines of plain words

Most lines have nothing special in them: words of plain characters, with spaces and tabs between
them (`SpacedLine`). Such a line is still cut twice, by the scan into tokens and then by the runner
into words, and the two do not agree on what a blank is.

**Theorem (`spacedLine_dispatches`).** A line of plain words that is no conditional calls the
command named by its first word, once and with the other words as they are, and its answer is
settled as that of a single command. Where there is no such command, no other one is called, and the
line fails.

The scan finds nothing to stop at and takes the line as one word (`tokenize_of_inert`), without the
blanks around it. What is left begins and ends with a plain character, and the gaps in it are of
spaces and tabs, at which the runner cuts as well (`words_core`).

That a command is called once can be seen in a record of the calls. The way in which a runner finds
a command does not depend on what commands work on, so it is the same for commands that also note
their calls (`Commands.noting`).
-/

namespace StreetConsole

/-! ## Commands that note their calls -/

namespace Commands

variable {σ : Type}

/-- What a command does with its arguments, on a state of any kind. -/
abbrev Action (σ : Type) := List String → StateM σ (Except Fault Reply)

/-- Looks a command up by name and hands it its arguments. -/
def dispatch (actions : Dict (Action σ)) : Runner σ := fun command =>
  match Command.words command with
  | [] => pure (.ok (failure "Empty command"))
  | name :: args =>
    match Dict.get? actions name with
    | none => pure (.ok (failure ("Unknown command: " ++ name)))
    | some action => action args

theorem runner_eq_dispatch (commands : Commands) : commands.runner = dispatch commands := by
  funext command
  rw [runner, dispatch]
  cases Command.words command with
  | nil => rfl
  | cons name args =>
    dsimp only
    cases Dict.get? commands name <;> rfl

/-- A call of a command: its name and its arguments. -/
abbrev Call := String × List String

/-- The commands, each of which notes its calls. -/
def noting (commands : Commands) : Dict (Action (Console × List Call)) :=
  commands.map fun p => (p.1, fun args s =>
    ((p.2 args s.1).1, (p.2 args s.1).2, s.2 ++ [(p.1, args)]))

/-- The engine whose commands note their calls. -/
def notingEngine (commands : Commands) (filters : FilterRegistry) :
    Engine (Console × List Call) where
  runner := some (dispatch commands.noting)
  filters := filters

theorem get?_noting (commands : Commands) (name : String) :
    Dict.get? commands.noting name = (Dict.get? commands name).map fun handler args s =>
      ((handler args s.1).1, (handler args s.1).2, s.2 ++ [(name, args)]) := by
  induction commands with
  | nil => rfl
  | cons p rest ih =>
    rw [noting, List.map_cons, Dict.get?, Dict.get?]
    by_cases hname : p.1 = name
    · subst hname
      simp
    · rw [if_neg hname, if_neg hname]
      exact ih

/-- A failure that the runner reports is settled as it is. -/
theorem settle_failure (command : String) {error : String} (h : error ≠ "") :
    Engine.settle command (.ok (failure error)) = .ok (.fail error) := by
  have houtcome : Reply.normalize (failure error) = .ok (.fail error) := by
    simp [failure, Reply.normalize, Reply.ofFields, Reply.field, Dict.get?, Reply.isFalse,
      Value.truthy, Value.shown, h, Outcome.fail, bind, Except.bind, pure, Except.pure,
      Functor.map, Except.map]
  have hanswer : (Except.ok (failure error) : Except Fault Reply).bind Reply.normalize =
      .ok (.fail error) := houtcome
  rw [← Engine.settle_normalizedAnswer, Engine.normalizedAnswer_of_ok hanswer,
    Engine.settle_outcome (Outcome.not_silent_fail h)]

/-- **A command is found by its first word**, whatever commands work on. -/
theorem on_single_dispatch {e : Engine σ} {actions : Dict (Action σ)} {command name : String}
    {args : List String} (he : e.runner = some (dispatch actions))
    (hwords : Command.words command = name :: args) (s : σ) :
    Run.on (e.single command) s = match Dict.get? actions name with
      | none => (.ok (.fail ("Unknown command: " ++ name)), s)
      | some action => (Engine.settle command (action args s).1, (action args s).2) := by
  rw [Engine.on_single, he]
  dsimp only
  rw [dispatch, hwords]
  dsimp only
  cases Dict.get? actions name with
  | none =>
    have hne : "Unknown command: " ++ name ≠ "" := by simp
    exact Prod.ext (settle_failure command hne) rfl
  | some action => rfl

end Commands

/-! ## Lines without anything special -/

namespace Token

/-- **A line without quotes and operators is one word**, or none if it is blank. -/
theorem tokenize_of_inert {line : String} (h : ∀ c ∈ line.toList, isInert c = true) :
    tokenize line = wordOf line := by
  have hscan := scan_inert_append h [] []
  rw [List.append_nil, List.append_nil, scan, flush_eq_wordOf] at hscan
  rw [tokenize_eq_scan, hscan, List.reverse_reverse, String.ofList_toList]

theorem isInert_of_isBlank {c : Char} (h : Text.isBlank c = true) : isInert c = true := by
  obtain ⟨hquote, hand, hpipe, hsequence⟩ := ne_of_isBlank h
  simp [isInert, hquote, hand, hpipe, hsequence]

end Token

/-! ## Words and gaps -/

/-- Words with gaps between them are found again as pieces. -/
theorem Text.pieces_spaced {p : Char → Bool} {w : List Char} {others : List (List Char × String)}
    (hne : w ≠ []) (hw : ∀ c ∈ w, p c = false)
    (hgaps : ∀ q ∈ others, q.1 ≠ [] ∧ ∀ c ∈ q.1, p c = true)
    (hwords : ∀ q ∈ others, q.2 ≠ "" ∧ ∀ c ∈ q.2.toList, p c = false) :
    pieces p (w ++ others.flatMap fun q => q.1 ++ q.2.toList) =
      w :: others.map (·.2.toList) := by
  induction others generalizing w with
  | nil => simpa using pieces_eq_singleton hw hne
  | cons q others ih =>
    obtain ⟨hgap, hgaps⟩ := List.forall_mem_cons.1 hgaps
    obtain ⟨hword, hwords⟩ := List.forall_mem_cons.1 hwords
    have hrest := ih (by simpa using hword.1) hword.2 hgaps hwords
    obtain ⟨c, gap, hcons⟩ := List.exists_cons_of_ne_nil hgap.1
    rw [hcons] at hgap
    have hc : p c = true := hgap.2 c List.mem_cons_self
    have hmore : ∀ d ∈ gap, p d = true := fun d hd => hgap.2 d (List.mem_cons_of_mem c hd)
    -- The first character of the gap cuts the text, and the others have nothing in front of them.
    rw [List.flatMap_cons, List.append_assoc, hcons, List.cons_append, pieces_append_cons _ hc,
      pieces_append hmore, pieces_eq_singleton hw hne, hrest]
    rfl

/-- A gap between two words: some spaces and tabs, at least one. -/
def IsSpacing (gap : List Char) : Prop := gap ≠ [] ∧ ∀ c ∈ gap, c = ' ' ∨ c = '\t'

/-- A line of plain words with gaps between them and blanks of any kind around them. -/
structure SpacedLine where
  lead : List Char
  first : String
  /-- The other words, each with the gap in front of it. -/
  others : List (List Char × String)
  trail : List Char
  isBlank_lead : ∀ c ∈ lead, Text.isBlank c = true
  isBlank_trail : ∀ c ∈ trail, Text.isBlank c = true
  plain_first : PlainWord first
  spacing : ∀ p ∈ others, IsSpacing p.1
  plain_others : ∀ p ∈ others, PlainWord p.2

namespace SpacedLine

variable (l : SpacedLine)

/-- The words after the first one. -/
def args : List String := l.others.map (·.2)

/-- The words and the gaps between them. -/
def core : List Char := l.first.toList ++ l.others.flatMap fun p => p.1 ++ p.2.toList

/-- The line as it is typed. -/
def text : String := String.ofList (l.lead ++ (l.core ++ l.trail))

/-- What holds of the characters of plain words, and of a space and a tab, holds throughout. -/
theorem forall_mem_core {P : Char → Prop} (hwords : ∀ w, PlainWord w → ∀ c ∈ w.toList, P c)
    (hspace : P ' ') (htab : P '\t') : ∀ c ∈ l.core, P c := by
  intro c hc
  rcases List.mem_append.1 hc with hc | hc
  · exact hwords l.first l.plain_first c hc
  · obtain ⟨p, hp, hc⟩ := List.mem_flatMap.1 hc
    rcases List.mem_append.1 hc with hc | hc
    · rcases (l.spacing p hp).2 c hc with rfl | rfl
      · exact hspace
      · exact htab
    · exact hwords p.2 (l.plain_others p hp) c hc

theorem isInert_of_mem_text : ∀ c ∈ l.text.toList, Token.isInert c = true := by
  intro c hc
  rw [text, String.toList_ofList, List.mem_append, List.mem_append] at hc
  rcases hc with hc | hc | hc
  · exact Token.isInert_of_isBlank (l.isBlank_lead c hc)
  · exact l.forall_mem_core (fun w hw => hw.isInert) rfl rfl c hc
  · exact Token.isInert_of_isBlank (l.isBlank_trail c hc)

theorem first_ne_nil : l.first.toList ≠ [] := by simpa using l.plain_first.1

/-- The words and gaps begin and end with a plain character. -/
theorem trimmed_core : Text.Trimmed l.core := by
  constructor
  · intro c hc
    rw [core, List.head?_append_of_ne_nil _ l.first_ne_nil] at hc
    exact l.plain_first.isBlank c (List.mem_of_mem_head? hc)
  · intro c hc
    rw [core] at hc
    rcases List.eq_nil_or_concat l.others with hnone | ⟨front, p, hothers⟩
    · rw [hnone, List.flatMap_nil, List.append_nil] at hc
      exact l.plain_first.isBlank c (List.mem_of_getLast? hc)
    · have hp : PlainWord p.2 := l.plain_others p (by simp [hothers])
      have hne : p.2.toList ≠ [] := by simpa using hp.1
      rw [hothers, List.concat_eq_append, List.flatMap_append, List.flatMap_singleton,
        ← List.append_assoc, ← List.append_assoc, List.getLast?_append_of_ne_nil _ hne] at hc
      exact hp.isBlank c (List.mem_of_getLast? hc)

/-- The blanks around the words are taken off, and nothing else. -/
theorem trim_text : Text.trim l.text = String.ofList l.core := by
  rw [Text.trim, text, String.toList_ofList, Text.trimChars_blanks_append l.isBlank_lead,
    Text.trimChars_append_blanks _ l.isBlank_trail, Text.trimChars_eq_self l.trimmed_core]

/-- **The scan takes the line as one word.** -/
theorem parse_text : Chain.parse l.text = .ok [⟨String.ofList l.core, [], none⟩] := by
  refine Chain.parse_of_word ?_
  have hne : String.ofList l.core ≠ "" := by simp [core, l.plain_first.1]
  rw [Token.tokenize_of_inert l.isInert_of_mem_text, Token.wordOf, l.trim_text, if_neg hne]

/-- **The runner cuts it into its words.** -/
theorem words_core : Command.words (String.ofList l.core) = l.first :: l.args := by
  have hliteral : ∀ c ∈ (String.ofList l.core).toList, Command.isLiteral c = true := by
    rw [String.toList_ofList]
    exact l.forall_mem_core (fun w hw => hw.isLiteral) rfl rfl
  have hplain : ∀ w, PlainWord w → ∀ c ∈ w.toList, Command.isSeparator c = false :=
    fun w hw c hc => Command.isSeparator_of_isBlank_eq_false (hw.isBlank c hc)
  have hgaps : ∀ p ∈ l.others, p.1 ≠ [] ∧ ∀ c ∈ p.1, Command.isSeparator c = true := by
    intro p hp
    refine ⟨(l.spacing p hp).1, fun c hc => ?_⟩
    rcases (l.spacing p hp).2 c hc with rfl | rfl <;> rfl
  have hothers : ∀ p ∈ l.others, p.2 ≠ "" ∧ ∀ c ∈ p.2.toList, Command.isSeparator c = false :=
    fun p hp => ⟨(l.plain_others p hp).1, hplain p.2 (l.plain_others p hp)⟩
  rw [Command.words_eq_pieces hliteral, Text.map_ofList_eq_iff, String.toList_ofList, core,
    Text.pieces_spaced l.first_ne_nil (hplain l.first l.plain_first) hgaps hothers]
  simp [args]

end SpacedLine

/-! ## Running the line -/

/-- **A line of plain words is run by the command that it names**, whatever commands work on. -/
theorem SpacedLine.on_execute {σ : Type} (l : SpacedLine)
    (hline : Conditional.isConditional l.text = false) {actions : Dict (Commands.Action σ)}
    {e : Engine σ} (he : e.runner = some (Commands.dispatch actions)) (state : Value) (s : σ) :
    Run.on (e.execute state l.text) s = match Dict.get? actions l.first with
      | none => (.ok (.fail ("Unknown command: " ++ l.first)), s)
      | some action =>
        (Engine.settle (Text.trim l.text) (action l.args s).1, (action l.args s).2) := by
  rw [Engine.execute_of_lone e hline l.parse_text, l.trim_text]
  exact Commands.on_single_dispatch he l.words_core s

/-- **Plain lines dispatch word for word.** A line of plain words, with spaces and tabs between them
and any blanks around them, that is no conditional, calls the command under its first word once,
with the other words as its arguments. What the command answers or raises is settled as for a single
command, and the console is as the command left it. If there is no such command, none is called, and
the line fails. The calls are those that the commands note. -/
theorem spacedLine_dispatches (l : SpacedLine) (hline : Conditional.isConditional l.text = false)
    {commands : Commands} {e : Engine Console} (he : e.runner = some commands.runner)
    (state : Value) (console : Console) :
    (∀ handler, Dict.get? commands l.first = some handler → ∀ answer after,
      handler l.args console = (answer, after) →
      Run.on (e.execute state l.text) console =
        (Engine.settle (Text.trim l.text) answer, after) ∧
      Run.on ((commands.notingEngine e.filters).execute state l.text) (console, []) =
        (Engine.settle (Text.trim l.text) answer, after, [(l.first, l.args)])) ∧
    (Dict.get? commands l.first = none →
      Run.on (e.execute state l.text) console =
        (.ok (.fail ("Unknown command: " ++ l.first)), console) ∧
      Run.on ((commands.notingEngine e.filters).execute state l.text) (console, []) =
        (.ok (.fail ("Unknown command: " ++ l.first)), console, [])) := by
  rw [commands.runner_eq_dispatch] at he
  have hnoting : (commands.notingEngine e.filters).runner =
      some (Commands.dispatch commands.noting) := rfl
  rw [l.on_execute hline he, l.on_execute hline hnoting, Commands.get?_noting]
  constructor
  · intro handler hname answer after hanswer
    rw [hname, Option.map_some]
    dsimp only
    rw [hanswer]
    exact ⟨rfl, rfl⟩
  · intro hname
    rw [hname]
    exact ⟨rfl, rfl⟩

/-- A line with a tab, a run of spaces, and blanks of other kinds around it. -/
def sampleLine : SpacedLine where
  lead := ['\u00a0', '\n']
  first := "list"
  others := [(['\t'], "if"), ([' ', ' ', '\t'], "x=-1")]
  trail := [' ', '\u3000']
  isBlank_lead := List.all_eq_true.1 (by decide)
  isBlank_trail := List.all_eq_true.1 (by decide)
  plain_first := ⟨by decide, List.all_eq_true.1 (by decide)⟩
  spacing := by simp [IsSpacing]
  plain_others := by
    intro p hp
    simp only [List.mem_cons, List.not_mem_nil, or_false] at hp
    rcases hp with rfl | rfl <;> exact ⟨by decide, List.all_eq_true.1 (by decide)⟩

/-- The line calls `list` with its two arguments; where there is no `list`, it fails. -/
theorem spacedLine_dispatches_sampleLine :
    let commands : Commands := [("set", argumentLines), ("list", argumentLines)]
    let others : Commands := [("set", argumentLines)]
    let console : Console := ⟨⟨[]⟩, ⟨Settings.packaged, .packaged⟩⟩
    sampleLine.text = "\u00a0\nlist\tif  \tx=-1 \u3000" ∧
    Conditional.isConditional sampleLine.text = false ∧
    Run.on (commands.engine.execute .null sampleLine.text) console =
      (.ok (.ok "if\nx=-1"), console) ∧
    Run.on ((commands.notingEngine .builtin).execute .null sampleLine.text) (console, []) =
      (.ok (.ok "if\nx=-1"), console, [("list", ["if", "x=-1"])]) ∧
    Run.on (others.engine.execute .null sampleLine.text) console =
      (.ok (.fail "Unknown command: list"), console) := by
  intro commands others console
  have hline : Conditional.isConditional sampleLine.text = false := by decide +kernel
  have hrunner : commands.engine.runner = some commands.runner := rfl
  have hrunner' : others.engine.runner = some others.runner := rfl
  have hcalled := (spacedLine_dispatches sampleLine hline hrunner .null console).1
    argumentLines rfl (.ok (.outcome (.ok "if\nx=-1"))) console rfl
  have hunknown := (spacedLine_dispatches sampleLine hline hrunner' .null console).2 rfl
  exact ⟨by decide, hline, hcalled.1, hcalled.2, hunknown.1⟩

end StreetConsole
