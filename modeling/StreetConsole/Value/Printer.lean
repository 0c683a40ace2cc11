import StreetConsole.Fault
import StreetConsole.Number.Shortest
import StreetConsole.Text.Quoted

/-!
# Values as text

`Value.written` is the form in which settings are listed: texts in quotes, lists in brackets, tables
in braces. `Value.shown` is the same but for a text, which is shown as it is. Both fail on integers
of more than 4300 digits, at any depth.
-/

namespace StreetConsole

/-- The most decimal digits of an integer that are read or written. -/
def maxDigits : Nat := 4300

/-- An integer in decimal digits. -/
def writtenInt (n : Int) : Except Fault String :=
  let digits := Nat.toDigits 10 n.natAbs
  if maxDigits < digits.length then .error .integerTooLong
  else .ok (String.ofList (if n < 0 then '-' :: digits else digits))

namespace Value

mutual

/-- The written form of a value. -/
def written : Value → Except Fault String
  | .null => .ok "None"
  | .bool true => .ok "True"
  | .bool false => .ok "False"
  | .int n => writtenInt n
  | .double x => .ok x.written
  | .text s => .ok (Text.quoted s)
  | .list items => do
    let parts ← writtenItems items
    return "[" ++ ", ".intercalate parts ++ "]"
  | .table entries => do
    let parts ← writtenEntries entries
    return "\x7b" ++ ", ".intercalate parts ++ "\x7d"

/-- The written forms of the items of a list. -/
def writtenItems : List Value → Except Fault (List String)
  | [] => .ok []
  | v :: rest => do
    let part ← written v
    let parts ← writtenItems rest
    return part :: parts

/-- The written forms of the entries of a table. -/
def writtenEntries : List (String × Value) → Except Fault (List String)
  | [] => .ok []
  | (k, v) :: rest => do
    let part ← written v
    let parts ← writtenEntries rest
    return (Text.quoted k ++ ": " ++ part) :: parts

end

/-- The value as shown to the user. -/
def shown : Value → Except Fault String
  | .text s => .ok s
  | v => v.written

end Value

end StreetConsole
