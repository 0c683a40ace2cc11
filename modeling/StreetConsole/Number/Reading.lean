import StreetConsole.Fault
import StreetConsole.Text.Blank
import StreetConsole.Text.Numeral
import StreetConsole.Value.Printer

/-!
# Reading numbers

How texts are read as integers and as doubles. Both forms may be surrounded by blanks, take decimal
digits of any script, and allow a single underscore between two digits.

* An integer is an optional sign and digits, at most 4300 of them.
* A double is an optional sign and either a decimal, with a point and an exponent if wanted, or one
  of the words `inf`, `infinity` and `nan`.
-/

namespace StreetConsole

/-- The blanks that may surround a number: all but the four information separators. -/
def isNumberBlank (c : Char) : Bool :=
  Text.isBlank c && !(0x1c ≤ c.toNat && c.toNat ≤ 0x1f)

/-- The natural with the given decimal digits. -/
def natOfDigits (ds : List Nat) : Nat := ds.foldl (fun n d => 10 * n + d) 0

/-! ## Integers -/

/-- Digits in front, single underscores between them allowed, and the rest; nothing when there is no
digit in front or an underscore is out of place. -/
def digitRun? : List Char → Option (List Nat × List Char)
  | [] => none
  | c :: rest =>
    match Text.digit? c with
    | none => none
    | some d =>
      match rest with
      | [] => some ([d], [])
      | '_' :: more => (digitRun? more).map fun (ds, r) => (d :: ds, r)
      | c' :: more =>
        if Text.isDigit c' then (digitRun? (c' :: more)).map fun (ds, r) => (d :: ds, r)
        else some ([d], c' :: more)

/-- A sign in front, `true` for minus, and the rest. -/
def takeSign : List Char → Bool × List Char
  | '-' :: rest => (true, rest)
  | '+' :: rest => (false, rest)
  | rest => (false, rest)

/-- Reads an integer. A run of digits that is too long is refused before what follows it is looked
at. -/
def readInt (s : String) : Except Fault Int :=
  let (negative, rest) := takeSign (s.toList.dropWhile isNumberBlank)
  match digitRun? rest with
  | none => .error (.notInteger s)
  | some (ds, rest) =>
    if maxDigits < ds.length then .error (.numeralTooLong ds.length)
    else if rest.all isNumberBlank then
      .ok (if negative then -(natOfDigits ds : Int) else natOfDigits ds)
    else .error (.notInteger s)

/-! ## Doubles -/

/-- Decimal digits of any script as those of the first one. -/
def plainDigit (c : Char) : Char :=
  match Text.digit? c with
  | some d => Char.ofNat (48 + d)
  | none => c

/-- Takes out underscores, each of which has to stand between two digits. -/
def dropUnderscores? (afterDigit : Bool) : List Char → Option (List Char)
  | [] => some []
  | '_' :: rest =>
    match rest with
    | c :: _ =>
      if afterDigit && c.isDigit then dropUnderscores? false rest else none
    | [] => none
  | c :: rest => (dropUnderscores? c.isDigit rest).map (c :: ·)

/-- The digits in front and the rest. -/
def takeDigits (cs : List Char) : List Nat × List Char :=
  ((cs.takeWhile Char.isDigit).map fun c => c.toNat - 48, cs.dropWhile Char.isDigit)

/-- The exponent that a decimal ends with; a decimal without one has exponent zero. -/
def readExponent? : List Char → Option Int
  | [] => some 0
  | c :: rest =>
    if c == 'e' || c == 'E' then
      let (negative, rest) := takeSign rest
      match takeDigits rest with
      | ([], _) => none
      | (ds, []) => some (if negative then -(natOfDigits ds : Int) else natOfDigits ds)
      | _ => none
    else none

/-- Reads a decimal: digits, a point with further digits if wanted, an exponent if wanted. -/
def readDecimal? (negative : Bool) (cs : List Char) : Option Double :=
  let (whole, rest) := takeDigits cs
  let (fraction, rest) := match rest with
    | '.' :: rest => takeDigits rest
    | rest => ([], rest)
  if whole.isEmpty && fraction.isEmpty then none
  else (readExponent? rest).map fun e =>
    Double.ofDecimal negative (natOfDigits (whole ++ fraction)) (e - fraction.length)

/-- Reads a double without blanks and underscores. -/
def readPlainDouble? (cs : List Char) : Option Double :=
  let (negative, rest) := takeSign cs
  let word := rest.map Char.toLower
  if word == "inf".toList || word == "infinity".toList then some (.infinite negative)
  else if word == "nan".toList then some .nan
  else readDecimal? negative rest

/-- Reads a double. -/
def readDouble (s : String) : Except Fault Double :=
  let dropNumberBlanks (cs : List Char) := cs.dropWhile isNumberBlank
  let cs := (dropNumberBlanks (dropNumberBlanks s.toList).reverse).reverse.map plainDigit
  match (dropUnderscores? false cs).bind readPlainDouble? with
  | some x => .ok x
  | none => .error (.notNumber s)

end StreetConsole
