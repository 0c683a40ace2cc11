import StreetConsole.Settings.Reader
import StreetConsole.Settings.Tree
import StreetConsole.Text.Utf8

/-!
# Settings

The settings of a console and the file they come from. Changes live until the settings are loaded
again. Where there is no file, or it cannot be read or understood, there are no settings.
-/

namespace StreetConsole

/-- A settings file. -/
inductive SettingsFile where
  /-- The file that comes with the console. -/
  | packaged
  | text (s : String)
  | bytes (bs : List Nat)
  | missing
  | unreadable

/-- The settings, and where they come from. -/
structure Settings where
  root : Value
  file : SettingsFile

namespace Settings

/-- The settings that come with the console. -/
def packaged : Value := .table [
  ("debug", .table [("level", .text "WARNING")]),
  ("shell", .table [
    ("prompt", .text "street> "),
    ("banner", .text
      "Street Console 1.0 (type 'help' for commands, 'filters' for pipe filters)")]),
  ("autocomplete", .table [("enabled", .bool true)]),
  ("state", .table [
    ("heat", .int 0), ("cash", .int 500), ("level", .int 1), ("energy", .int 100)])]

/-- The settings in a text; none if they cannot be understood. -/
def ofText (s : String) : Except Fault Value :=
  match read s with
  | .ok v => .ok v
  | .error .malformed => .ok (.table [])
  | .error (.fault f) => .error f

/-- The contents of a settings file. -/
def contents : SettingsFile → Except Fault Value
  | .packaged => .ok packaged
  | .text s => ofText s
  | .bytes bs => do ofText (← Text.decode bs)
  | .missing | .unreadable => .ok (.table [])

/-- Loads settings from a file. -/
def load (file : SettingsFile) : Except Fault Settings := do
  return { root := ← contents file, file }

/-- The setting with a name, or the default where there is none. -/
def get (s : Settings) (path : String) (default : Value) : Value := lookup s.root path default

/-- Puts a value under a name. Gives the value as it was stored, or the cause for which none was, and
the settings as they are then. -/
def set (s : Settings) (path : String) (v : Value) : Except Fault Value × Settings :=
  let (result, root) := assign s.root path v
  (result, { s with root })

/-- All settings with their names. -/
def items (s : Settings) : List (String × Value) := listing s.root

end Settings

end StreetConsole
