import StreetConsole.Pattern.Source
import StreetConsole.Text.CharacterName

/-!
# Escapes and character sets

What a backslash and the character after it stand for, alone and inside a character set, and the
reading of character sets.
-/

namespace StreetConsole.Pattern

/-! ## Escapes -/

/-- The control character, or the backslash, that an escape names. -/
def controlCode? : Char → Option Nat
  | 'a' => some 7
  | 'b' => some 8
  | 'f' => some 12
  | 'n' => some 10
  | 'r' => some 13
  | 't' => some 9
  | 'v' => some 11
  | '\\' => some 92
  | _ => none

/-- The class of characters that an escape names. -/
def category? : Char → Option SetItem
  | 'd' => some (.category .digit false)
  | 'D' => some (.category .digit true)
  | 's' => some (.category .space false)
  | 'S' => some (.category .space true)
  | 'w' => some (.category .word false)
  | 'W' => some (.category .word true)
  | _ => none

/-- The condition on a place that an escape names. -/
def anchor? : Char → Option Anchor
  | 'A' => some .textStart
  | 'b' => some .boundary
  | 'B' => some .nonBoundary
  | 'Z' => some .textEnd
  | _ => none

/-- Whether the character is a hexadecimal digit. -/
def isHexDigit (c : Char) : Bool :=
  c.isDigit || ('a' ≤ c && c ≤ 'f') || ('A' ≤ c && c ≤ 'F')

/-- Whether the character is an octal digit. -/
def isOctalDigit (c : Char) : Bool := '0' ≤ c && c ≤ '7'

/-- The value of a digit in a base up to sixteen. -/
def digitValue (c : Char) : Nat :=
  if c.isDigit then c.toNat - 48 else if 'a' ≤ c then c.toNat - 87 else c.toNat - 55

/-- The natural with the given digits. -/
def natInBase (base : Nat) (ds : List Char) : Nat :=
  ds.foldl (fun n d => base * n + digitValue d) 0

/-- The text of an escape. -/
def escapeText (cs : List Char) : String := String.ofList ('\\' :: cs)

/-- A code of exactly `count` hexadecimal digits after the letter `lead`. -/
def hexEscape (lead : Char) (count : Nat) : Read Nat := do
  let ds ← takeWhileAtMost isHexDigit count
  let escape := lead :: ds
  if ds.length < count then refuse (escape.length + 1) (.incompleteEscape (escapeText escape))
  let code := natInBase 16 ds
  if code ≤ 0x10ffff then return code
  else if 0x7fffffff < code then giveUp .codeTooLarge
  else refuse (escape.length + 1) (.badEscape (escapeText escape))

/-- A code by the name of its character, which stands in braces. -/
def namedEscape : Read Nat := do
  unless (← accept '\x7b') do refuse 0 .missingBrace
  let name ← takeName '\x7d' "character name"
  match Text.codeOfName? (String.ofList name) with
  | some code => return code
  | none => refuse (name.length + 4) (.unknownCharacterName (String.ofList name))

/-- The code of an escape that means the same inside a character set and outside. -/
def commonEscape? (c : Char) : Read (Option Nat) := do
  match c with
  | 'x' => return some (← hexEscape 'x' 2)
  | 'u' => return some (← hexEscape 'u' 4)
  | 'U' => return some (← hexEscape 'U' 8)
  | 'N' => return some (← namedEscape)
  | _ => return none

/-- The code of an escape without a meaning of its own: the character itself, unless it is a letter
or a digit of the first script. -/
def literalEscape (c : Char) : Read Nat := do
  if c.isAlpha || c.isDigit then refuse 2 (.badEscape (escapeText [c]))
  return c.toNat

/-- An escape inside a character set. -/
def setEscape (c : Char) : Read SetItem := do
  if let some code := controlCode? c then return .code code
  if let some item := category? c then return item
  if let some code ← commonEscape? c then return .code code
  if isOctalDigit c then
    let ds := c :: (← takeWhileAtMost isOctalDigit 2)
    let code := natInBase 8 ds
    if 0o377 < code then refuse (ds.length + 1) (.octalOutOfRange (escapeText ds))
    return .code code
  return .code (← literalEscape c)

/-- A reference to a group by the one or two digits of its number. -/
def groupReference (ds : List Char) : Read Node := do
  let group := natInBase 10 ds
  if (← nextGroup) ≤ group then refuse ds.length (.invalidGroup group)
  unless (← isClosed group) do refuse (ds.length + 1) .openGroup
  checkBehind group
  return .backref group

/-- An escape of a digit other than zero: three octal digits are a code, all else is a reference. -/
def digitEscape (c : Char) : Read Node := do
  match (← takeWhileAtMost Char.isDigit 1) with
  | [d] =>
    if isOctalDigit c && isOctalDigit d then
      match (← takeWhileAtMost isOctalDigit 1) with
      | [e] =>
        let code := natInBase 8 [c, d, e]
        if 0o377 < code then refuse 4 (.octalOutOfRange (escapeText [c, d, e]))
        return .code code
      | _ => groupReference [c, d]
    else groupReference [c, d]
  | _ => groupReference [c]

/-- An escape outside a character set. -/
def nodeEscape (c : Char) : Read Node := do
  if let some a := anchor? c then return .anchor a
  if let some item := category? c then return .oneOf false [item]
  if let some code := controlCode? c then return .code code
  if let some code ← commonEscape? c then return .code code
  if c == '0' then
    return .code (natInBase 8 (c :: (← takeWhileAtMost isOctalDigit 2)))
  if c.isDigit then digitEscape c
  else return .code (← literalEscape c)

/-! ## Character sets -/

/-- The item that a sign begins inside a character set. -/
def setItem : Sign → Read SetItem
  | .plain c => return .code c.toNat
  | .escaped c => setEscape c

/-- The items up to the closing bracket, after those in `done`, which are in reverse. The set began
at `start`. -/
def setItems (start : Nat) (done : List SetItem) : (fuel : Nat) → Read (List SetItem)
  | 0 => return done.reverse
  | fuel + 1 => do
    let some sign ← take | refuseAt start .unterminatedSet
    if sign == .plain ']' && !done.isEmpty then return done.reverse
    let item ← setItem sign
    unless (← accept '-') do return ← setItems start (item :: done) fuel
    let some last ← take | refuseAt start .unterminatedSet
    if last == .plain ']' then return (.code '-'.toNat :: item :: done).reverse
    match item, (← setItem last) with
    | .code lo, .code hi =>
      if hi < lo then refuse (sign.size + 1 + last.size) (.badRange sign.text last.text)
      setItems start (.range lo hi :: done) fuel
    | _, _ => refuse (sign.size + 1 + last.size) (.badRange sign.text last.text)

/-- The character set after an opening bracket. A set of one character is that character. -/
def characterSet : Read Node := do
  let start := (← here) - 1
  let negated ← accept '^'
  let items := (← setItems start [] ((← get).rest.length + 1)).eraseDups
  match items with
  | [.code n] => return if negated then .notCode n else .code n
  | _ => return .oneOf negated items

end StreetConsole.Pattern
