import StreetConsole.Text.Blank

/-!
# Outcomes

What comes of a command, a filter or a whole console line: whether it succeeded, its output, and an
error message if there is one. A success may carry an error message too, and a failure an output.
-/

namespace StreetConsole

/-- What comes of a command, a filter or a console line. -/
structure Outcome where
  success : Bool
  output : String
  error : Option String
deriving DecidableEq, Repr

namespace Outcome

/-- A success with an output. -/
def ok (output : String) : Outcome := ⟨true, output, none⟩

/-- A failure with an error message and no output. -/
def fail (error : String) : Outcome := ⟨false, "", some error⟩

/-- The error message, where an empty one counts as none. -/
def errorText (o : Outcome) : String := o.error.getD ""

/-- The line that reports an error message. -/
def errorLine (error : String) : String := "Error: " ++ error

/-- The text shown to the user for one console line: the output, and after a failure the line that
reports its error, unless the output ends with it already. -/
def rendered (o : Outcome) : String :=
  let shown := if o.output.isEmpty then [] else [o.output]
  let line := errorLine o.errorText
  let reported := !o.output.isEmpty && line.toList.isSuffixOf o.output.toList
  Text.unlines <|
    if !o.success && !o.errorText.isEmpty && !reported then shown ++ [line] else shown

end Outcome

end StreetConsole
