import StreetConsole.Text.Letter
import StreetConsole.Text.Numeral

/-!
# Word characters

The characters that names of state fields are made of: letters and numerals of every script, and
the underscore.
-/

namespace StreetConsole.Text

/-- Whether the character is a letter, a numeral or the underscore. -/
def isWordChar (c : Char) : Bool :=
  c == '_' || isLetter c || isNumeralCode c.toNat

end StreetConsole.Text
