import StreetConsole.Number.Reading
import StreetConsole.Text.LetterCase
import StreetConsole.Text.Word

/-!
# Conditions

A condition is `true`, `false`, or the comparison of a state field with an integer. Fields are
looked up in lower case. A text that is no condition does not hold, nor does a comparison with a
field that is missing or not a number.
-/

namespace StreetConsole

/-- A way to compare two numbers. -/
inductive Comparator where
  | gt
  | lt
  | ge
  | le
  | eq
  | ne
deriving DecidableEq, Repr

namespace Comparator

/-- The spelling of a comparator. -/
def symbol : Comparator → String
  | .gt => ">"
  | .lt => "<"
  | .ge => ">="
  | .le => "<="
  | .eq => "=="
  | .ne => "!="

/-- The comparator in front, the longer spellings first, and the rest. -/
def take? : List Char → Option (Comparator × List Char)
  | '>' :: '=' :: cs => some (.ge, cs)
  | '<' :: '=' :: cs => some (.le, cs)
  | '=' :: '=' :: cs => some (.eq, cs)
  | '!' :: '=' :: cs => some (.ne, cs)
  | '>' :: cs => some (.gt, cs)
  | '<' :: cs => some (.lt, cs)
  | _ => none

/-- Whether a comparison with the given result succeeds. Where there is no order, only inequality
does. -/
def accepts : Comparator → Option Ordering → Bool
  | .gt, r => r == some .gt
  | .lt, r => r == some .lt
  | .ge, r => r == some .gt || r == some .eq
  | .le, r => r == some .lt || r == some .eq
  | .eq, r => r == some .eq
  | .ne, r => r != some .eq

end Comparator

/-- The comparison of a state field with an integer. -/
structure Clause where
  field : String
  comparator : Comparator
  value : Int
deriving DecidableEq, Repr

/-- A condition that has been read. -/
inductive Condition where
  | literal (b : Bool)
  | clause (c : Clause)
deriving DecidableEq, Repr

namespace Condition

/-- The integer at the end of a clause: an optional minus and digits, nothing else. -/
def clauseValue? (cs : List Char) : Option (Except Fault Int) :=
  let (negative, ds) := match cs with
    | '-' :: rest => (true, rest)
    | rest => (false, rest)
  if ds.isEmpty || !ds.all Text.isDigit then none
  else if maxDigits < ds.length then some (.error (.numeralTooLong ds.length))
  else
    let n := natOfDigits (ds.filterMap Text.digit?)
    some (.ok (if negative then -(n : Int) else n))

/-- The clause that a text without blanks at its ends spells; an integer that is too long to read is
a fault. -/
def clause? (cs : List Char) : Option (Except Fault Clause) := do
  let field := cs.takeWhile Text.isWordChar
  if field.isEmpty then none
  let (comparator, rest) ← Comparator.take? (Text.dropBlanks (cs.dropWhile Text.isWordChar))
  let value ← clauseValue? (Text.dropBlanks rest)
  some (value.map fun n => ⟨Text.lower (String.ofList field), comparator, n⟩)

/-- Reads a condition; gives nothing for a text that is none. -/
def parse (text : String) : Except Fault (Option Condition) :=
  let text := Text.trim text
  let word := Text.lower text
  if word = "true" then .ok (some (.literal true))
  else if word = "false" then .ok (some (.literal false))
  else match clause? text.toList with
    | none => .ok none
    | some (.ok c) => .ok (some (.clause c))
    | some (.error f) => .error f

/-- The value of a field in a state, which may be empty or missing altogether. -/
def fieldOf? (state : Value) (field : String) : Except Fault (Option Value) :=
  match state with
  | .table entries => .ok (Dict.get? entries field)
  | v => if v.truthy then .error (.missingMember v.kindName "get") else .ok none

/-- How the value of a field compares with an integer; not at all if it is no number. -/
def compareValue? : Value → Int → Option (Option Ordering)
  | .int m, n => some (some (compare m n))
  | .double x, n => some (x.compareInt n)
  | _, _ => none

/-- Whether a condition that has been read holds in a state. -/
def holdsIn (state : Value) : Condition → Except Fault Bool
  | .literal b => .ok b
  | .clause c => do
    let some v ← fieldOf? state c.field | return false
    match compareValue? v c.value with
    | some r => return c.comparator.accepts r
    | none => return false

/-- Whether the text of a condition holds in a state. -/
def evaluate (text : String) (state : Value) : Except Fault Bool := do
  match (← parse text) with
  | some c => c.holdsIn state
  | none => return false

end Condition

end StreetConsole
