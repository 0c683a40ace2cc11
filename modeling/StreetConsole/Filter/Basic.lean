import StreetConsole.Fault
import StreetConsole.Outcome

/-!
# Filters

A filter turns the output of a command into another text, or fails. It is used by name after a
pipe, with the words after the name as its arguments.
-/

namespace StreetConsole

/-- A named transformation of texts. -/
structure Filter where
  name : String
  /-- How to call the filter. -/
  usage : String
  description : String
  /-- What the filter makes of a text, given its arguments. -/
  apply : String → List String → Except Fault Outcome

end StreetConsole
