import StreetConsole.Dict
import StreetConsole.Number.Double

/-!
# Values

What a state field, a setting or a field of a command's answer may hold: the values of the settings
format. The entries of a table keep the order in which they were first put there, and no operation
of this library puts one key there twice.
-/

namespace StreetConsole

/-- A dynamic value. -/
inductive Value where
  | null
  | bool (b : Bool)
  | int (n : Int)
  | double (x : Double)
  | text (s : String)
  | list (items : List Value)
  | table (entries : List (String × Value))
deriving Inhabited

/-- The entries of a table. -/
abbrev Table := Dict Value

/-! ## Kinds of values -/

namespace Value

/-- Whether the value counts as true: all do but null, false, zero and what is empty. -/
def truthy : Value → Bool
  | .null => false
  | .bool b => b
  | .int n => n != 0
  | .double x => !x.isZero
  | .text s => !s.isEmpty
  | .list items => !items.isEmpty
  | .table entries => !entries.isEmpty

/-- Whether there is no value. -/
def isNull : Value → Bool
  | .null => true
  | _ => false

/-- The name of the value's kind, as it appears in messages. -/
def kindName : Value → String
  | .null => "NoneType"
  | .bool _ => "bool"
  | .int _ => "int"
  | .double _ => "float"
  | .text _ => "str"
  | .list _ => "list"
  | .table _ => "dict"

end Value

end StreetConsole
