import StreetConsole.Text.CaseTable

/-!
# Letter case

Putting a text in lower or upper case. Both mappings are per character, and one character may give
several, with one exception: a capital sigma that ends a word becomes the final form of the small
sigma, so its neighbours decide.

`lowerCode` and `upperCode` are the mappings from one character to one, the first character of the
full image; comparison without regard to case is built on them.
-/

namespace StreetConsole.Text

/-! ## One character -/

/-- The full image of a code point in lower case. -/
def lowerImage (n : Nat) : List Nat :=
  (lowerExpansions.lookup n).getD [lowerRuns.apply n]

/-- The full image of a code point in upper case. -/
def upperImage (n : Nat) : List Nat :=
  (upperExpansions.lookup n).getD [upperRuns.apply n]

/-- The code point that stands for `n` in lower case. -/
def lowerCode (n : Nat) : Nat := (lowerImage n).headD n

/-- The code point that stands for `n` in upper case. -/
def upperCode (n : Nat) : Nat := (upperImage n).headD n

/-- All code points that stand as `n` in lower case. -/
def lowerSources (n : Nat) : List Nat :=
  (if lowerCode n == n then [n] else []) ++ lowerRuns.sources n
    ++ (lowerExpansions.filter fun e => e.2.headD e.1 == n).map (·.1)

/-- Whether case makes a difference somewhere among the code points from `lo` to `hi`. -/
def hasCase (lo hi : Nat) : Bool :=
  lowerRuns.meet lo hi || upperRuns.meet lo hi
    || (lowerExpansions ++ upperExpansions).any fun e => lo ≤ e.1 && e.1 ≤ hi

/-! ## Texts -/

/-- Whether the first of the characters that is not looked through is a letter with a case. -/
def meetsCased (cs : List Char) : Bool :=
  match cs.dropWhile fun c => caseIgnorableRanges.has c.toNat with
  | [] => false
  | c :: _ => casedRanges.has c.toNat

/-- The small sigma for a capital one, given what stands before it, nearest first, and after it. -/
def smallSigma (before after : List Char) : Char :=
  if meetsCased before && !meetsCased after then 'ς' else 'σ'

/-- Lower case for the characters after `before`, which is given nearest first. -/
def lowerAfter (before : List Char) : List Char → List Char
  | [] => []
  | c :: rest =>
    let image := if c == 'Σ' then [smallSigma before rest] else (lowerImage c.toNat).map Char.ofNat
    image ++ lowerAfter (c :: before) rest

/-- The text in lower case. -/
def lower (s : String) : String := String.ofList (lowerAfter [] s.toList)

/-- The text in upper case. -/
def upper (s : String) : String :=
  String.ofList (s.toList.flatMap fun c => (upperImage c.toNat).map Char.ofNat)

end StreetConsole.Text
