import StreetConsole.Dict
import StreetConsole.Filter.Registry

/-!
# Help texts

The text that `help` shows, made of a fixed part and the help texts of the commands in the order of
their names, and the text that `filters` shows.
-/

namespace StreetConsole.Help

/-- The fixed part of the help text. -/
def header : String := Text.unlines [
  "Street Console - Help",
  "",
  "Combine commands with pipes, chains and a single if-clause.",
  "",
  "---",
  "OPERATORS",
  "---",
  "  A ; B               Execute B after A, regardless of the outcome.",
  "  A && B              Execute B only if A was successful.",
  "  A || B              Execute B only if A failed.",
  "  A | filter          Pass the output of A through a text filter.",
  "",
  "---",
  "CONDITIONALS",
  "---",
  "  if <field> <op> <n> then <command> [else <command>]",
  "  Fields come from your current state (heat, cash, level, energy).",
  "  Operators: >  <  >=  <=  ==  !=    Literals: true, false",
  "",
  "---",
  "COMMANDS",
  "---",
  "GENERAL:",
  "  help                Show this help text.",
  "  filters             List the available pipe filters.",
  "  quit                Exit the console."]

/-- The help text of the command `config`. -/
def config : String := Text.unlines [
  "CONFIG:",
  "  config show                 List all settings as 'key = value'.",
  "  config get <key>            Show one setting, e.g. 'config get shell.prompt'.",
  "  config set <key> <value>    Change a setting for this session.",
  "  config reset                Reload settings.json, dropping session changes."]

/-- The help text of the command `echo`. -/
def echo : String := Text.unlines [
  "ECHO:",
  "  echo <text...>              Display the specified text.",
  "  echo --code <N> <text...>   Display the text and fail when N is not 0."]

/-- The help text of the commands `state` and `set`. -/
def state : String := Text.unlines [
  "STATE:",
  "  state                       Show all state fields (usable in if-conditions).",
  "  set <field> <integer>       Change a state field, e.g. 'set heat 60'."]

/-- The help texts of the built-in commands. -/
def builtin : Dict String := [("config", config), ("echo", echo), ("state", state)]

/-- The whole help text. -/
def text (commands : Dict String) : String :=
  let sorted := commands.mergeSort fun a b => decide (a.1 ≤ b.1)
  "\n\n".intercalate (header :: sorted.map (·.2))

/-- A text with spaces after it up to a width. -/
def padRight (width : Nat) (s : String) : String :=
  s ++ String.ofList (List.replicate (width - s.length) ' ')

/-- The line that describes a filter. -/
def filterLine (entry : FilterRegistry.Entry) : String :=
  "  " ++ padRight 20 entry.usage ++ " - " ++ entry.description

/-- The text on filters, operators and conditionals. -/
def filterText (r : FilterRegistry) : String := Text.unlines <|
  ["Available pipe filters:", ""] ++ r.available.map filterLine ++ [
  "",
  "Chain operators:",
  "  cmd1 | filter      - Pipe output to filter",
  "  cmd1 && cmd2       - Run cmd2 only if cmd1 succeeds",
  "  cmd1 ; cmd2        - Run both commands",
  "  cmd1 || cmd2       - Run cmd2 only if cmd1 fails",
  "",
  "Conditionals:",
  "  if heat > 50 then hideout",
  "  if cash < 100 then crime else status"]

end StreetConsole.Help
