import StreetConsole.Settings.Basic

/-!
# The console's state

The fields that commands may set and conditions may ask for. Names of fields are kept in lower case.
A line is run on a snapshot, the state as it was before the line.
-/

namespace StreetConsole

/-- The state fields of a console. -/
structure Context where
  fields : Table

namespace Context

/-- A state with the given fields. Of names that differ in case only, the last one counts. -/
def ofTable (t : Table) : Context :=
  ⟨Dict.ofPairs (t.map fun (name, v) => (Text.lower name, v))⟩

/-- A state that begins as the given value, which has to be a table; with null it begins as the
settings say. -/
def start (settings : Settings) (initial : Value) : Except Fault Context :=
  let initial := if initial.isNull then settings.get "state" (.table []) else initial
  match initial with
  | .table t => .ok (ofTable t)
  | v => .error (.missingMember v.kindName "items")

/-- Sets a field. -/
def set (c : Context) (name : String) (v : Value) : Context :=
  ⟨Dict.put c.fields (Text.lower name) v⟩

/-- The value of a field; null if there is none. -/
def get (c : Context) (name : String) : Value := (Dict.get? c.fields (Text.lower name)).getD .null

/-- The state as it is now. -/
def snapshot (c : Context) : Value := .table c.fields

/-- A short description of the state. -/
def description (c : Context) : String :=
  "<ShellContext fields=" ++ toString c.fields.length ++ ">"

end Context

end StreetConsole
