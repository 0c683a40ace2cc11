import StreetConsole.Text.Blank
import StreetConsole.Text.Names.Accented
import StreetConsole.Text.Names.Ancient
import StreetConsole.Text.Names.Brahmic
import StreetConsole.Text.Names.Dingbat
import StreetConsole.Text.Names.EastAsian
import StreetConsole.Text.Names.Emoticon
import StreetConsole.Text.Names.European
import StreetConsole.Text.Names.Further
import StreetConsole.Text.Names.Gesture
import StreetConsole.Text.Names.Indian
import StreetConsole.Text.Names.Mathematical
import StreetConsole.Text.Names.Minority
import StreetConsole.Text.Names.Musical
import StreetConsole.Text.Names.NearEastern
import StreetConsole.Text.Names.Pictograph
import StreetConsole.Text.Names.Pictorial
import StreetConsole.Text.Names.Presentation
import StreetConsole.Text.Names.Regional
import StreetConsole.Text.Names.Syllabic
import StreetConsole.Text.Names.Technical
import StreetConsole.Text.Ranges

/-!
# Names of characters

Characters by their names in the character database. Ideographs and Korean syllables are named by
rule, and so are some families whose names end in the code point; all other names are in lists.

A list is a text of entries with semicolons between them; an entry may begin on a new line. An
entry of `@` and a hexadecimal number gives the code point of the name that follows it. Any other
entry is a name, one code point further on than the name before: its first digit tells how many
words it has in common with the beginning of the name before, and its own words follow.
-/

namespace StreetConsole.Text

/-! ## Lists -/

/-- The number with the given hexadecimal digits, whose letters are capitals. -/
def capitalHex? (ds : List Char) : Option Nat :=
  ds.foldlM (fun n d =>
    if d.isDigit then some (16 * n + (d.toNat - 48))
    else if 'A' ≤ d && d ≤ 'F' then some (16 * n + (d.toNat - 55))
    else none) 0

/-- The words of a name, which stand between single spaces. -/
def nameWords (name : List Char) : List (List Char) := splitWhere (· == ' ') name

/-- The code point of the name with the given words, among entries of which the first name has the
given code point and comes after the name `before`. -/
def codeInEntries? (name : List (List Char)) :
    (entries : List (List Char)) → (code : Nat) → (before : List (List Char)) → Option Nat
  | [], _, _ => none
  | [] :: rest, code, before => codeInEntries? name rest code before
  | ('@' :: ds) :: rest, code, before =>
    codeInEntries? name rest ((capitalHex? ds).getD code) before
  | (digit :: own) :: rest, code, before =>
    let shared := before.take (digit.toNat - 48)
    let words := if own.isEmpty then shared else shared ++ nameWords own
    if words == name then some code else codeInEntries? name rest (code + 1) words

/-- The code point of the name with the given words in a list. -/
def codeInList? (name : List (List Char)) (list : String) : Option Nat :=
  codeInEntries? name ((splitWhere (· == ';') list.toList).map dropBlanks) 0 []

/-- All lists. -/
def nameLists : List String := [
  europeanNames, nearEasternNames, indianNames, regionalNames, accentedNames, mathematicalNames,
  technicalNames, dingbatNames, eastAsianNames, syllabicNames, presentationNames, ancientNames,
  brahmicNames, pictorialNames, minorityNames, musicalNames, gestureNames, pictographNames,
  emoticonNames, furtherNames]

/-! ## Rules -/

/-- The code point at the end of a name, if the name begins as given and the code point has four or
five hexadecimal digits and is in the ranges. -/
def codeOfNumber? (name : List Char) (start : String) (ranges : Ranges) : Option Nat := do
  let ds ← afterStart? start.toList name
  let code ← capitalHex? ds
  if (ds.length == 4 || ds.length == 5) && ranges.has code then some code else none

/-- The ideographs that are named by their number. -/
def ideographRanges : Ranges := [
  (0x3400, 0x4dbf), (0x4e00, 0x9fff), (0x20000, 0x2a6df), (0x2a700, 0x2b738), (0x2b740, 0x2b81d),
  (0x2b820, 0x2cea1), (0x2ceb0, 0x2ebe0), (0x30000, 0x3134a)]

/-- The ideograph with the given name. -/
def ideographOfName? (name : List Char) : Option Nat :=
  codeOfNumber? name "CJK UNIFIED IDEOGRAPH-" ideographRanges

/-- Further families of names that end in the code point, by how they begin. -/
def numberedFamilies : List (String × Ranges) := [
  ("CJK COMPATIBILITY IDEOGRAPH-", [(0xf900, 0xfa6d), (0xfa70, 0xfad9), (0x2f800, 0x2fa1d)]),
  ("KHITAN SMALL SCRIPT CHARACTER-", [(0x18b00, 0x18cd5)]),
  ("NUSHU CHARACTER-", [(0x1b170, 0x1b2fb)])]

/-- The character with the given name in one of the families, where no number begins with zero. -/
def numberedOfName? (name : List Char) : Option Nat :=
  numberedFamilies.findSome? fun (start, ranges) =>
    if (afterStart? (start ++ "0").toList name).isSome then none
    else codeOfNumber? name start ranges

/-- The sounds that Korean syllables begin with. -/
def syllableStarts : List String := [
  "G", "GG", "N", "D", "DD", "R", "M", "B", "BB", "S", "SS", "", "J", "JJ", "C", "K", "T", "P",
  "H"]

/-- The sounds in the middle of Korean syllables. -/
def syllableMiddles : List String := [
  "A", "AE", "YA", "YAE", "EO", "E", "YEO", "YE", "O", "WA", "WAE", "OE", "YO", "U", "WEO", "WE",
  "WI", "YU", "EU", "YI", "I"]

/-- The sounds that Korean syllables end with. -/
def syllableEnds : List String := [
  "", "G", "GG", "GS", "N", "NJ", "NH", "D", "L", "LG", "LM", "LB", "LS", "LT", "LP", "LH", "M",
  "B", "BS", "S", "SS", "NG", "J", "C", "K", "T", "P", "H"]

/-- The longest of the sounds with which the characters begin, by its index, and what follows it. -/
def longestSound (sounds : List String) (cs : List Char) : Option (Nat × List Char) :=
  let hits := sounds.zipIdx.filterMap fun (sound, index) =>
    (afterStart? sound.toList cs).map fun rest => (index, rest)
  hits.foldl (fun best hit => match best with
    | some (_, rest) => if hit.2.length < rest.length then some hit else best
    | none => some hit) none

/-- The Korean syllable with the given name. -/
def syllableOfName? (name : List Char) : Option Nat := do
  let cs ← afterStart? "HANGUL SYLLABLE ".toList name
  let (start, cs) ← longestSound syllableStarts cs
  let (middle, cs) ← longestSound syllableMiddles cs
  let (last, cs) ← longestSound syllableEnds cs
  if cs.isEmpty then some (0xac00 + (start * 21 + middle) * 28 + last) else none

/-! ## Look-up -/

/-- The code point of the character with the given name. Case matters only in the names of
ideographs and syllables. -/
def codeOfName? (name : String) : Option Nat :=
  let cs := name.toList
  let capitals := cs.map Char.toUpper
  ideographOfName? cs
    <|> syllableOfName? cs
    <|> numberedOfName? capitals
    <|> nameLists.findSome? (codeInList? (nameWords capitals))

end StreetConsole.Text
