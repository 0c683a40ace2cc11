import StreetConsole.Command.Basic
import StreetConsole.Help

/-!
# The built-in commands

`echo`, `state`, `set`, `config`, `help` and `filters`.
-/

namespace StreetConsole.Command

/-- A reply with an outcome, nothing else done. -/
def reply (o : Outcome) : StateM Console (Except Fault Reply) := pure (.ok (.outcome o))

/-! ## Echo -/

/-- The arguments to be displayed and the exit code. A flag `--code` takes the argument after it as
exit code, if that is an integer; the last one counts. -/
def echoArgs (code : Int) : List String → List String × Int
  | [] => ([], code)
  | [arg] => ([arg], code)
  | arg :: next :: rest =>
    let plain :=
      let (texts, code) := echoArgs code (next :: rest)
      (arg :: texts, code)
    if arg = "--code" then
      match readInt next with
      | .ok n => echoArgs n rest
      | .error _ => plain
    else plain

/-- Displays its arguments, and fails if an exit code other than zero is given. -/
def echo : Handler := fun args =>
  let (texts, code) := echoArgs 0 args
  let fields : Table := [("success", .bool (code == 0)), ("output", .text (Text.unwords texts))]
  pure do
    if code == 0 then return .value (.table fields)
    let digits ← writtenInt code
    return .value (.table (fields ++ [("error", .text ("echo exited with code " ++ digits))]))

/-! ## State -/

/-- The line that shows a state field. -/
def fieldLine (field : String × Value) : Except Fault String := do
  return field.1 ++ ": " ++ (← field.2.shown)

/-- Shows all state fields in the order of their names. -/
def state : Handler := fun _ => do
  let fields := (← get).context.fields
  if fields.isEmpty then reply (.ok "No state fields set.")
  else
    let sorted := fields.mergeSort fun a b => decide (a.1 ≤ b.1)
    pure do return .outcome (.ok (Text.unlines (← sorted.mapM fieldLine)))

/-- What `set` reports: the new value, after the one it replaces if there was one. -/
def changeLine (name : String) (previous : Value) (new : Int) : Except Fault String := do
  let name := Text.lower name
  if previous.isNull then return name ++ ": " ++ (← writtenInt new)
  return name ++ ": " ++ (← previous.shown) ++ " -> " ++ (← writtenInt new)

/-- Sets a state field to an integer. -/
def set : Handler := fun args => do
  match args with
  | [name, raw] =>
    match readInt raw with
    | .error _ => reply (.fail ("Not an integer: " ++ raw))
    | .ok n =>
      let previous := (← get).context.get name
      modify fun c => { c with context := c.context.set name (.int n) }
      pure do return .outcome (.ok (← changeLine name previous n))
  | _ => reply (.fail "Usage: set <field> <integer>")

/-! ## Settings -/

/-- The line that shows a setting. -/
def settingLine (setting : String × Value) : Except Fault String := do
  return setting.1 ++ " = " ++ (← setting.2.written)

/-- Lists all settings. -/
def showSettings : StateM Console (Except Fault Reply) := do
  let items := (← get).settings.items
  pure do
    let text := Text.unlines (← items.mapM settingLine)
    return .outcome (.ok (if text.isEmpty then "No settings loaded." else text))

/-- Shows one setting. -/
def showSetting (path : String) : StateM Console (Except Fault Reply) := do
  let v := (← get).settings.get path .null
  if v.isNull then reply (.fail ("No such setting: " ++ path))
  else pure do return .outcome (.ok (← settingLine (path, v)))

/-- Whether a fault is one of the refusals that `config set` reports by itself. -/
def isRefusal (f : Fault) : Bool := f.name == "ValueError"

/-- Changes a setting. -/
def changeSetting (path value : String) : StateM Console (Except Fault Reply) := do
  let (result, settings) := (← get).settings.set path (.text value)
  modify fun c => { c with settings }
  match result with
  | .ok stored => pure do return .outcome (.ok (← settingLine (path, stored)))
  | .error f =>
    if isRefusal f then
      pure do return .outcome (.fail ("Cannot set " ++ path ++ ": " ++ (← f.message)))
    else return .error f

/-- Loads the settings again. -/
def reloadSettings : StateM Console (Except Fault Reply) := do
  match Settings.load (← get).settings.file with
  | .ok settings =>
    modify fun c => { c with settings }
    reply (.ok "Configuration reloaded.")
  | .error f => return .error f

/-- Shows and changes settings. -/
def config : Handler := fun args =>
  match args with
  | [] | "show" :: _ => showSettings
  | ["get", path] => showSetting path
  | "set" :: path :: word :: rest => changeSetting path (Text.unwords (word :: rest))
  | ["reset"] => reloadSettings
  | _ => reply (.fail "Usage: config [show | get <key> | set <key> <value> | reset]")

/-! ## Help -/

/-- A command that shows a text. -/
def message (text : String) : Handler := fun _ =>
  pure (.ok (.value (.table [("success", .bool true), ("message", .text text)])))

end StreetConsole.Command

namespace StreetConsole

/-- The built-in commands. -/
def Commands.builtin : Commands := [
  ("config", Command.config), ("echo", Command.echo),
  ("filters", Command.message (Help.filterText .builtin)),
  ("help", Command.message (Help.text Help.builtin)), ("set", Command.set),
  ("state", Command.state)]

end StreetConsole
