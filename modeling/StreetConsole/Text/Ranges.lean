/-!
# Ranges of code points

Sets of characters are given as ascending lists of closed intervals of code points. A look-up walks
the list and stops at the first interval that begins beyond the code point.
-/

namespace StreetConsole.Text

/-- Closed intervals `(lo, hi)` of code points, in ascending order. -/
abbrev Ranges := List (Nat × Nat)

/-- The lower end of the interval that holds `n`, if one does. -/
def Ranges.find? : Ranges → Nat → Option Nat
  | [], _ => none
  | (lo, hi) :: rest, n =>
    if n < lo then none else if n ≤ hi then some lo else Ranges.find? rest n

/-- Whether some interval holds `n`. -/
def Ranges.has (rs : Ranges) (n : Nat) : Bool := (rs.find? n).isSome

end StreetConsole.Text
