import StreetConsole.Fault

/-!
# Bytes as text

Decoding of UTF-8, one character at a time. Bytes that are no text are refused with the place and
the reason: a byte that cannot begin a character, a byte that cannot go on with one, or the end of
the bytes inside a character.
-/

namespace StreetConsole.Text

/-- Whether a byte can go on with a character. -/
def isContinuation (b : Nat) : Bool := 0x80 ≤ b && b < 0xc0

/-- How many bytes a character has that begins with `b`; zero if none does. -/
def sequenceLength (b : Nat) : Nat :=
  if b < 0x80 then 1
  else if b < 0xc2 then 0
  else if b < 0xe0 then 2
  else if b < 0xf0 then 3
  else if b < 0xf5 then 4
  else 0

/-- Whether `c` can be the second byte of a character that begins with `b`: overlong forms,
surrogates and codes beyond the last one are no characters. -/
def isSecond (b c : Nat) : Bool :=
  isContinuation c && !(b == 0xe0 && c < 0xa0) && !(b == 0xed && 0xa0 ≤ c)
    && !(b == 0xf0 && c < 0x90) && !(b == 0xf4 && 0x90 ≤ c)

/-- The first of the bytes after the first one that is out of place, by its number. -/
def misplaced? (b : Nat) : List Nat → Option Nat
  | [] => none
  | c :: rest =>
    if !isSecond b c then some 1
    else (rest.findIdx? (! isContinuation ·)).map (· + 2)

/-- The code that the bytes of a character stand for. -/
def codeOfBytes : List Nat → Nat
  | [] => 0
  | b :: rest =>
    let lead := match rest.length with
      | 0 => b
      | 1 => b % 0x20
      | 2 => b % 0x10
      | _ => b % 0x08
    rest.foldl (fun n c => n * 64 + c % 64) lead

/-- Decodes bytes from place `start` on. -/
def decodeFrom (start : Nat) : (fuel : Nat) → List Nat → Except Fault (List Char)
  | _, [] => .ok []
  | 0, _ => .ok []
  | fuel + 1, b :: rest =>
    let length := sequenceLength b
    let more := rest.take (length - 1)
    if length == 0 then .error (.undecodable .invalidStart start (start + 1) b)
    else match misplaced? b more with
      | some k => .error (.undecodable .invalidContinuation start (start + k) b)
      | none =>
        if more.length + 1 < length then
          .error (.undecodable .unexpectedEnd start (start + 1 + more.length) b)
        else do
          let cs ← decodeFrom (start + length) fuel (rest.drop (length - 1))
          return Char.ofNat (codeOfBytes (b :: more)) :: cs

/-- The text that bytes encode. -/
def decode (bytes : List Nat) : Except Fault String := do
  return String.ofList (← decodeFrom 0 bytes.length bytes)

end StreetConsole.Text
