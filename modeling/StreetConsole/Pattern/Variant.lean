import StreetConsole.Pattern.Syntax
import StreetConsole.Text.Blank
import StreetConsole.Text.LetterCase
import StreetConsole.Text.Word

/-!
# Which characters a part of a pattern stands for

The tests of single characters: against a code, against a class, against a set; and all of these
without regard to case. Two characters are then the same when they are the same in lower case, or
when their lower-case forms share an upper-case form, such as the two small sigmas.
-/

namespace StreetConsole.Pattern

/-! ## Case -/

/-- Lower-case letters with other lower-case letters that have the same upper-case form. -/
def sharedUpper : List (Nat × List Nat) := [
  (0x69, [0x131]), (0x73, [0x17f]), (0xb5, [0x3bc]), (0x131, [0x69]), (0x17f, [0x73]),
  (0x345, [0x3b9, 0x1fbe]), (0x390, [0x1fd3]), (0x3b0, [0x1fe3]), (0x3b2, [0x3d0]),
  (0x3b5, [0x3f5]), (0x3b8, [0x3d1]), (0x3b9, [0x345, 0x1fbe]), (0x3ba, [0x3f0]), (0x3bc, [0xb5]),
  (0x3c0, [0x3d6]), (0x3c1, [0x3f1]), (0x3c2, [0x3c3]), (0x3c3, [0x3c2]), (0x3c6, [0x3d5]),
  (0x3d0, [0x3b2]), (0x3d1, [0x3b8]), (0x3d5, [0x3c6]), (0x3d6, [0x3c0]), (0x3f0, [0x3ba]),
  (0x3f1, [0x3c1]), (0x3f5, [0x3b5]), (0x432, [0x1c80]), (0x434, [0x1c81]), (0x43e, [0x1c82]),
  (0x441, [0x1c83]), (0x442, [0x1c84, 0x1c85]), (0x44a, [0x1c86]), (0x463, [0x1c87]),
  (0x1c80, [0x432]), (0x1c81, [0x434]), (0x1c82, [0x43e]), (0x1c83, [0x441]),
  (0x1c84, [0x442, 0x1c85]), (0x1c85, [0x442, 0x1c84]), (0x1c86, [0x44a]), (0x1c87, [0x463]),
  (0x1c88, [0xa64b]), (0x1e61, [0x1e9b]), (0x1e9b, [0x1e61]), (0x1fbe, [0x345, 0x3b9]),
  (0x1fd3, [0x390]), (0x1fe3, [0x3b0]), (0xa64b, [0x1c88]), (0xfb05, [0xfb06]),
  (0xfb06, [0xfb05])]

/-- The other lower-case letters that have the same upper-case form. -/
def kin (n : Nat) : List Nat := (sharedUpper.lookup n).getD []

/-- The code in lower case, in the first script only. -/
def asciiLower (n : Nat) : Nat := if 65 ≤ n && n ≤ 90 then n + 32 else n

/-- The code in lower case, in the repertoire that the switches choose. -/
def Flags.lower (flags : Flags) (n : Nat) : Nat :=
  if flags.contains .ascii then asciiLower n else Text.lowerCode n

/-- The lower-case codes that count as the lower-case code `n`. -/
def Flags.kin (flags : Flags) (n : Nat) : List Nat :=
  if flags.contains .ascii then [n] else n :: Pattern.kin n

/-- All codes that stand as `n` in lower case. -/
def Flags.sources (flags : Flags) (n : Nat) : List Nat :=
  if flags.contains .ascii then
    if 97 ≤ n && n ≤ 122 then [n, n - 32] else [n]
  else Text.lowerSources n

/-- The last code that character sets hold in either case. -/
def lastFolded : Nat := 0xffff

/-- Whether case is disregarded and makes a difference somewhere among the codes from `lo` to
`hi`. -/
def Flags.hasCase (flags : Flags) (lo hi : Nat) : Bool :=
  flags.contains .ignoreCase &&
    if flags.contains .ascii then (lo ≤ 90 && 65 ≤ hi) || (lo ≤ 122 && 97 ≤ hi)
    else Text.hasCase lo hi

/-- Whether a code stands for more than the two cases of a letter. -/
def Flags.hasKin (flags : Flags) (n : Nat) : Bool :=
  flags.hasCase n n && 1 < (flags.kin (flags.lower n)).length

/-- Whether case is disregarded and makes a difference for an item of a set. Of a range that reaches
beyond `lastFolded` this is taken for granted. -/
def SetItem.hasCase (flags : Flags) : SetItem → Bool
  | .code n => flags.hasCase n n
  | .range lo hi => flags.hasCase lo hi || (flags.contains .ignoreCase && lastFolded < hi)
  | .category .. => false

/-- Whether characters have to be put in lower case before they are looked up in a set. -/
def isFoldedSet (flags : Flags) (items : List SetItem) : Bool :=
  items.any fun item => item.hasCase flags || match item with
    | .code n => flags.contains .ignoreCase && lastFolded < n
    | _ => false

/-! ## Tests -/

/-- Whether a character is the one with the given code. -/
def isCode (flags : Flags) (n : Nat) (c : Char) : Bool :=
  if flags.contains .ignoreCase then (flags.kin (flags.lower n)).contains (flags.lower c.toNat)
  else c.toNat == n

/-- Whether a character belongs to a class. -/
def Category.has (flags : Flags) (cat : Category) (c : Char) : Bool :=
  if flags.contains .ascii then
    match cat with
    | .digit => c.isDigit
    | .space => c == ' ' || (0x09 ≤ c.toNat && c.toNat ≤ 0x0d)
    | .word => c.isAlphanum || c == '_'
  else
    match cat with
    | .digit => Text.isDigit c
    | .space => Text.isBlank c
    | .word => Text.isWordChar c

/-- Whether an item of a set stands for a character, case regarded. -/
def SetItem.has (flags : Flags) (c : Char) : SetItem → Bool
  | .code n => c.toNat == n
  | .range lo hi => lo ≤ c.toNat && c.toNat ≤ hi
  | .category cat negated => cat.has flags c != negated

/-- Whether an item of a set stands for a character, given in lower case, without regard to case. A
letter beyond `lastFolded` stands for itself only, and a range that reaches beyond it also for what
it holds in upper case. -/
def SetItem.hasFolded (flags : Flags) (c : Char) : SetItem → Bool
  | .code n =>
    let folded := flags.lower n
    if folded ≤ lastFolded then (flags.kin folded).contains c.toNat else c.toNat == n
  | .range lo hi =>
    let within (n : Nat) : Bool := lo ≤ n && n ≤ hi
    within c.toNat
      || (((flags.kin c.toNat).flatMap flags.sources).any fun n => n ≤ lastFolded && within n)
      || (lastFolded < hi && within (Text.upperCode c.toNat))
  | .category cat negated => cat.has flags c != negated

/-- Whether a set stands for a character. -/
def isInSet (flags : Flags) (negated : Bool) (items : List SetItem) (c : Char) : Bool :=
  let found :=
    if flags.contains .ignoreCase then
      items.any (SetItem.hasFolded flags (Char.ofNat (flags.lower c.toNat)))
    else items.any (SetItem.has flags c)
  found != negated

end StreetConsole.Pattern
