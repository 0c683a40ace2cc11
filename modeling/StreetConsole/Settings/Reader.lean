import StreetConsole.Number.Reading

/-!
# Reading settings

The text form of settings: objects, lists, texts in double quotes, numbers, and the words `true`,
`false`, `null`, `NaN` and `Infinity`. Of several entries with one key the last one counts. A text
may hold no control characters as they are.

Each step takes a character or follows one that has been taken, so a fuel of two steps for each
character is never used up.
-/

namespace StreetConsole.Settings

/-- Why settings were not read. -/
inductive ReadError where
  /-- The text is not of the right form. -/
  | malformed
  /-- Reading was given up. -/
  | fault (f : Fault)

/-- Drops what may stand between any two signs. -/
def skipSpace (cs : List Char) : List Char :=
  cs.dropWhile fun c => c == ' ' || c == '\t' || c == '\n' || c == '\r'

/-! ## Texts -/

/-- The value of a hexadecimal digit. -/
def hexValue? (c : Char) : Option Nat :=
  if c.isDigit then some (c.toNat - 48)
  else if 'a' ≤ c && c ≤ 'f' then some (c.toNat - 87)
  else if 'A' ≤ c && c ≤ 'F' then some (c.toNat - 55)
  else none

/-- The code of four hexadecimal digits in front, and the rest. -/
def hexCode? : List Char → Option (Nat × List Char)
  | a :: b :: c :: d :: cs => do
    let a ← hexValue? a
    let b ← hexValue? b
    let c ← hexValue? c
    let d ← hexValue? d
    return (a * 4096 + b * 256 + c * 16 + d, cs)
  | _ => none

/-- The second half of a character written in two halves, and the rest. -/
def lowHalf? : List Char → Option (Nat × List Char)
  | '\\' :: 'u' :: cs =>
    match hexCode? cs with
    | some (n, rest) => if 0xdc00 ≤ n && n < 0xe000 then some (n, rest) else none
    | none => none
  | _ => none

/-- The character of an escape with a code, and the rest. A half without its other half becomes the
replacement character. -/
def codeEscape? (cs : List Char) : Option (Char × List Char) :=
  match hexCode? cs with
  | none => none
  | some (n, rest) =>
    if 0xd800 ≤ n && n < 0xdc00 then
      match lowHalf? rest with
      | some (m, rest) => some (Char.ofNat (0x10000 + (n - 0xd800) * 0x400 + (m - 0xdc00)), rest)
      | none => some (Char.ofNat 0xfffd, rest)
    else if 0xdc00 ≤ n && n < 0xe000 then some (Char.ofNat 0xfffd, rest)
    else some (Char.ofNat n, rest)

/-- The character that an escape of one letter stands for. -/
def letterEscape? : Char → Option Char
  | '"' => some '"'
  | '\\' => some '\\'
  | '/' => some '/'
  | 'b' => some '\x08'
  | 'f' => some '\x0c'
  | 'n' => some '\n'
  | 'r' => some '\r'
  | 't' => some '\t'
  | _ => none

/-- The rest of a text, after those characters, in reverse, that have been read. -/
def readText (done : List Char) : (fuel : Nat) → List Char → Except ReadError (String × List Char)
  | 0, _ => .error .malformed
  | _, [] => .error .malformed
  | fuel + 1, c :: cs =>
    if c == '"' then .ok (String.ofList done.reverse, cs)
    else if c == '\\' then
      match cs with
      | 'u' :: rest =>
        match codeEscape? rest with
        | some (d, rest) => readText (d :: done) fuel rest
        | none => .error .malformed
      | d :: rest =>
        match letterEscape? d with
        | some d => readText (d :: done) fuel rest
        | none => .error .malformed
      | [] => .error .malformed
    else if c.toNat < 0x20 then .error .malformed
    else readText (c :: done) fuel cs

/-! ## Numbers -/

/-- The whole part of a number: a zero, or digits of which the first is none. -/
def wholePart? (cs : List Char) : Option (List Char × List Char) :=
  match cs with
  | '0' :: rest => some (['0'], rest)
  | c :: _ =>
    if c.isDigit then some (cs.takeWhile Char.isDigit, cs.dropWhile Char.isDigit) else none
  | [] => none

/-- A point and digits in front, if they are there, and the rest. -/
def fractionPart (cs : List Char) : List Char × List Char :=
  match cs with
  | '.' :: rest =>
    let ds := rest.takeWhile Char.isDigit
    if ds.isEmpty then ([], cs) else ('.' :: ds, rest.dropWhile Char.isDigit)
  | _ => ([], cs)

/-- An exponent in front, if there is one, and the rest. -/
def exponentPart (cs : List Char) : List Char × List Char :=
  match cs with
  | c :: rest =>
    if c == 'e' || c == 'E' then
      let (sign, rest) := match rest with
        | '+' :: rest => (['+'], rest)
        | '-' :: rest => (['-'], rest)
        | rest => ([], rest)
      let ds := rest.takeWhile Char.isDigit
      if ds.isEmpty then ([], cs) else (c :: sign ++ ds, rest.dropWhile Char.isDigit)
    else ([], cs)
  | [] => ([], cs)

/-- A number: an integer, unless it has a point or an exponent. -/
def readNumber (cs : List Char) : Except ReadError (Value × List Char) :=
  let (sign, rest) := match cs with
    | '-' :: rest => (['-'], rest)
    | rest => ([], rest)
  match wholePart? rest with
  | none => .error .malformed
  | some (whole, rest) =>
    let (fraction, rest) := fractionPart rest
    let (exponent, rest) := exponentPart rest
    let text := String.ofList (sign ++ whole ++ fraction ++ exponent)
    if fraction.isEmpty && exponent.isEmpty then
      match readInt text with
      | .ok n => .ok (.int n, rest)
      | .error f => .error (.fault f)
    else match readDouble text with
      | .ok x => .ok (.double x, rest)
      | .error f => .error (.fault f)

/-! ## Values -/

/-- The words that are values. -/
def wordValues : List (List Char × Value) := [
  ("null".toList, .null), ("true".toList, .bool true), ("false".toList, .bool false),
  ("NaN".toList, .double .nan), ("Infinity".toList, .double (.infinite false)),
  ("-Infinity".toList, .double (.infinite true))]

/-- A word in front that is a value, and the rest. -/
def readWord? (cs : List Char) : Option (Value × List Char) :=
  wordValues.findSome? fun (word, v) => (Text.afterStart? word cs).map fun rest => (v, rest)

mutual

/-- A value, which has no space in front. -/
def readValue : (fuel : Nat) → List Char → Except ReadError (Value × List Char)
  | 0, _ => .error .malformed
  | fuel + 1, cs =>
    match cs with
    | '"' :: rest => do
      let (s, rest) ← readText [] (rest.length + 1) rest
      return (.text s, rest)
    | '\x7b' :: rest =>
      match skipSpace rest with
      | '\x7d' :: rest => .ok (.table [], rest)
      | rest => do
        let (entries, rest) ← readEntries fuel rest
        return (.table (Dict.ofPairs entries), rest)
    | '[' :: rest =>
      match skipSpace rest with
      | ']' :: rest => .ok (.list [], rest)
      | rest => do
        let (items, rest) ← readItems fuel rest
        return (.list items, rest)
    | cs =>
      match readWord? cs with
      | some found => .ok found
      | none => readNumber cs

/-- The entries of an object, one at least, up to its end. -/
def readEntries : (fuel : Nat) → List Char → Except ReadError (List (String × Value) × List Char)
  | 0, _ => .error .malformed
  | fuel + 1, cs =>
    match cs with
    | '"' :: rest => do
      let (key, rest) ← readText [] (rest.length + 1) rest
      match skipSpace rest with
      | ':' :: rest =>
        let (v, rest) ← readValue fuel (skipSpace rest)
        match skipSpace rest with
        | '\x7d' :: rest => return ([(key, v)], rest)
        | ',' :: rest =>
          let (entries, rest) ← readEntries fuel (skipSpace rest)
          return ((key, v) :: entries, rest)
        | _ => .error .malformed
      | _ => .error .malformed
    | _ => .error .malformed

/-- The items of a list, one at least, up to its end. -/
def readItems : (fuel : Nat) → List Char → Except ReadError (List Value × List Char)
  | 0, _ => .error .malformed
  | fuel + 1, cs => do
    let (v, rest) ← readValue fuel cs
    match skipSpace rest with
    | ']' :: rest => return ([v], rest)
    | ',' :: rest =>
      let (items, rest) ← readItems fuel (skipSpace rest)
      return (v :: items, rest)
    | _ => .error .malformed

end

/-- Reads settings from their text. -/
def read (text : String) : Except ReadError Value := do
  let cs := text.toList
  let (v, rest) ← readValue (2 * cs.length + 2) (skipSpace cs)
  if (skipSpace rest).isEmpty then return v else .error .malformed

end StreetConsole.Settings
