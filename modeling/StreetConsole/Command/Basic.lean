import StreetConsole.Command.Words
import StreetConsole.Context
import StreetConsole.Engine

/-!
# Commands

A command is called by name with a list of arguments. It may read and change the console: its state
and its settings. The runner made of a dictionary of commands splits a command's text into words and
calls the command that the first one names.
-/

namespace StreetConsole

/-- What commands work on. -/
structure Console where
  context : Context
  settings : Settings

/-- What a command does with its arguments. -/
abbrev Handler := List String → StateM Console (Except Fault Reply)

/-- The commands known by name. -/
abbrev Commands := Dict Handler

namespace Commands

/-- The reply that reports a failure. -/
def failure (error : String) : Reply :=
  .value (.table [("success", .bool false), ("error", .text error)])

/-- The runner that looks commands up by name. -/
def runner (commands : Commands) : Runner Console := fun command =>
  match Command.words command with
  | [] => pure (.ok (failure "Empty command"))
  | name :: args =>
    match Dict.get? commands name with
    | none => pure (.ok (failure ("Unknown command: " ++ name)))
    | some handler => handler args

/-- The engine that runs these commands, with the built-in filters. -/
def engine (commands : Commands) : Engine Console :=
  { runner := some commands.runner, filters := .builtin }

/-- Runs a console line on the state as it is before the line. -/
def runLine (commands : Commands) (line : String) : Run Console Outcome := do
  let console ← get
  commands.engine.execute console.context.snapshot line

end Commands

end StreetConsole
