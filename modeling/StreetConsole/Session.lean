import StreetConsole.Command.Builtin
import StreetConsole.Completion

/-!
# Sessions

A session at the console: a banner, then one line after another, each at a prompt, until the user
leaves. What happens is a list of events. A session does not look at the state that lines are run
on: a terminal runs a line, has a prompt for the next one, and offers names.

A session ends at the end of the input, at an interrupt, and at a line that says `quit` or `exit` in
any case. A fault ends it too. In each case the console says goodbye.
-/

namespace StreetConsole.Session

/-- What a user does. -/
inductive Input where
  /-- Types a line. -/
  | line (text : String)
  /-- Ends the input. -/
  | endOfInput
  /-- Interrupts the console. -/
  | interrupt
  /-- Asks how a text may go on. -/
  | complete (text : String)
deriving DecidableEq, Repr

/-- What a console does. -/
inductive Event where
  /-- Asks for a line. -/
  | prompt (text : Value)
  /-- Prints a text and ends the line. -/
  | print (text : String)
  /-- Offers names; nothing when it does not complete at all. -/
  | offer (names : Option (List String))

/-- How a session went. -/
structure Report where
  events : List Event
  /-- Whether the console completes what is typed; unknown if it never came to that. -/
  completes : Option Bool
  fault : Option Fault

/-- Whether a line without blanks at its ends asks to leave. -/
def isQuit (line : String) : Bool := ["quit", "exit"].contains (Text.lower line)

/-- The last words of a session. -/
def goodbye : Event := .print "Bye!"

/-- What is offered at the end of a text. -/
def offered (commands : Commands) (text : String) : List String :=
  (Completion.suggestions (Dict.keys commands) (FilterRegistry.builtin.map (·.name)) text).map
    (·.name)

/-- What a session needs to know: how a line is run, which prompt comes next, and what is offered at
the end of a text. -/
structure Terminal (σ : Type) where
  runLine : String → Run σ Outcome
  prompt : σ → Value
  /-- The names to offer; nothing when it does not complete at all. -/
  offer : String → Option (List String)

/-- What a typed line comes to. -/
inductive Reaction (σ : Type) where
  /-- The line is blank. -/
  | nothing
  /-- The user leaves. -/
  | leave
  /-- The line was run. -/
  | answer (o : Outcome) (after : σ)
  /-- Running the line was given up. -/
  | giveUp (f : Fault) (after : σ)

/-- How the rest of a session goes, and the state after it. -/
structure Course (σ : Type) where
  events : List Event
  fault : Option Fault
  after : σ

/-- The course with events in front of it. -/
def Course.following {σ : Type} (events : List Event) (course : Course σ) : Course σ :=
  { course with events := events ++ course.events }

namespace Terminal

variable {σ : Type}

/-- What a typed line comes to. -/
def react (t : Terminal σ) (s : σ) (text : String) : Reaction σ :=
  let line := Text.trim text
  if line.isEmpty then .nothing
  else if isQuit line then .leave
  else match (t.runLine line).run.run s with
    | (.error f, after) => .giveUp f after
    | (.ok o, after) => .answer o after

/-- What is printed for an outcome: its text, unless that is empty. -/
def shownFor (o : Outcome) : List Event :=
  if o.rendered.isEmpty then [] else [.print o.rendered]

/-- The rest of a session, once the prompt for the next line has been shown. -/
def converse (t : Terminal σ) (s : σ) : List Input → Course σ
  | [] | .endOfInput :: _ | .interrupt :: _ => ⟨[goodbye], none, s⟩
  | .complete text :: rest => (converse t s rest).following [.offer (t.offer text)]
  | .line text :: rest =>
    match t.react s text with
    | .leave => ⟨[goodbye], none, s⟩
    | .giveUp f after => ⟨[goodbye], some f, after⟩
    | .nothing => (converse t s rest).following [.prompt (t.prompt s)]
    | .answer o after =>
      (converse t after rest).following (shownFor o ++ [.prompt (t.prompt after)])

/-- The session from its first prompt on. -/
def session (t : Terminal σ) (s : σ) (inputs : List Input) : Course σ :=
  (t.converse s inputs).following [.prompt (t.prompt s)]

end Terminal

/-- The terminal at which commands are typed. Its prompt is the one that the settings ask for at the
time. -/
def terminal (commands : Commands) (completes : Bool) : Terminal Console where
  runLine := commands.runLine
  prompt console := console.settings.get "shell.prompt" (.text "> ")
  offer text := if completes then some (offered commands text) else none

/-- The greeting that the settings ask for. -/
def banner (settings : Settings) : Except Fault String :=
  (settings.get "shell.banner" (.text "Street Console")).shown

/-- Whether the settings ask for completion. -/
def completes (settings : Settings) : Bool :=
  (settings.get "autocomplete.enabled" (.bool true)).truthy

/-- The console at the beginning of a session, and its greeting. -/
def start (settings : Settings) : Except Fault (Console × String) := do
  let context ← Context.start settings .null
  return ({ context, settings }, ← banner settings)

/-- A whole session. -/
def run (settings : Settings) (inputs : List Input) : Report :=
  match start settings with
  | .error f => { events := [], completes := none, fault := some f }
  | .ok (console, greeting) =>
    let course := (terminal .builtin (completes settings)).session console inputs
    { events := .print greeting :: course.events, completes := some (completes settings),
      fault := course.fault }

/-- The texts that a session prints. -/
def texts (events : List Event) : List String :=
  events.filterMap fun e => match e with
    | .print text => some text
    | _ => none

/-- Everything that a session prints. -/
def printed (events : List Event) : String := String.join ((texts events).map (· ++ "\n"))

/-- The prompts of a session. -/
def prompts (events : List Event) : List Value :=
  events.filterMap fun e => match e with
    | .prompt text => some text
    | _ => none

/-- What a session offered. -/
def offers (events : List Event) : List (Option (List String)) :=
  events.filterMap fun e => match e with
    | .offer names => some names
    | _ => none

end StreetConsole.Session
