import StreetConsole.Number.Double

/-!
# The shortest decimal of a double

A double is written with the fewest digits that read back as the same double, and of those with the
digits nearest to it. On the grid of decimals with `k` digits only the two neighbours of the number
can be nearest, so the search tries these for `k = 1, 2, …` until one reads back; seventeen digits
always suffice.

Numbers from `0.0001` up to below `10 ^ 16` are written positionally, with at least one digit after
the point; all others with an exponent of at least two digits.
-/

namespace StreetConsole

/-- The decimal `0.d₁d₂…dₖ · 10 ^ point`, by its digits and the place of its point. -/
structure Decimal where
  digits : List Char
  point : Int
deriving DecidableEq, Repr

namespace Double

/-- The numerator and denominator of `mantissa · 2 ^ exponent`. -/
def ratio (mantissa : Nat) (exponent : Int) : Nat × Nat :=
  match exponent with
  | .ofNat k => (mantissa * Nat.pow 2 k, 1)
  | .negSucc k => (mantissa, Nat.pow 2 (k + 1))

/-- The least `p` with `num / den < 10 ^ p`. -/
def decimalPoint (num den : Nat) : Int :=
  if den ≤ num then (Nat.toDigits 10 (num / den)).length
  else 1 - ((Nat.toDigits 10 (den / num)).length : Int)

/-- The numerator and denominator of `num / den · 10 ^ shift`. -/
def scaleTen (num den : Nat) (shift : Int) : Nat × Nat :=
  match shift with
  | .ofNat k => (num * Nat.pow 10 k, den)
  | .negSucc k => (num, den * Nat.pow 10 (k + 1))

/-- The natural that stands for `num / den` on the grid of `10 ^ -shift`: one of its two neighbours
that reads back as `x`, the nearer one if both do. -/
def gridDigits? (x : Double) (num den : Nat) (shift : Int) : Option Nat :=
  let (n, d) := scaleTen num den shift
  let below := n / d
  let reads (c : Nat) : Bool := ofDecimal false c (-shift) == x
  let nearest := roundDiv n d
  let other := if nearest == below then below + 1 else below
  if reads nearest then some nearest else if reads other then some other else none

/-- The first grid of at least `k` digits, `fuel` of them tried, that has a decimal for `x`. -/
def searchGrid (x : Double) (num den : Nat) (point : Int) : (fuel k : Nat) → Nat × Int
  | 0, k => (num * Nat.pow 10 k / den, point - k)
  | fuel + 1, k =>
    match gridDigits? x num den (k - point) with
    | some c => (c, point - k)
    | none => searchGrid x num den point fuel (k + 1)

/-- Drops the zeros at the end of a list of digits. -/
def dropTrailingZeros (ds : List Char) : List Char := (ds.reverse.dropWhile (· == '0')).reverse

/-- The shortest decimal that reads back as the positive double `mantissa · 2 ^ exponent`. -/
def shortest (mantissa : Nat) (exponent : Int) : Decimal :=
  let (num, den) := ratio mantissa exponent
  let (c, scale) := searchGrid (.finite false mantissa exponent) num den (decimalPoint num den) 17 1
  let ds := Nat.toDigits 10 c
  ⟨dropTrailingZeros ds, ds.length + scale⟩

end Double

namespace Decimal

/-- Writes the decimal without an exponent, with at least one digit on each side of the point. -/
def positional (x : Decimal) : List Char :=
  if x.point ≤ 0 then '0' :: '.' :: List.replicate (-x.point).toNat '0' ++ x.digits
  else
    let k := x.point.toNat
    let whole := x.digits.take k ++ List.replicate (k - x.digits.length) '0'
    let fraction := x.digits.drop k
    whole ++ '.' :: (if fraction.isEmpty then ['0'] else fraction)

/-- Writes the decimal with one digit before the point and an exponent of at least two digits. -/
def scientific (x : Decimal) : List Char :=
  let e := x.point - 1
  let ds := Nat.toDigits 10 e.natAbs
  let mantissa := match x.digits with
    | [] => ['0']
    | [d] => [d]
    | d :: rest => d :: '.' :: rest
  mantissa ++ 'e' :: (if e < 0 then '-' else '+') ::
    (if ds.length < 2 then '0' :: ds else ds)

/-- Writes the decimal, positionally unless it is very large or very small. -/
def written (x : Decimal) : List Char :=
  if -4 < x.point && x.point ≤ 16 then x.positional else x.scientific

end Decimal

/-- The written form of a double. -/
def Double.written : Double → String
  | .nan => "nan"
  | .infinite negative => if negative then "-inf" else "inf"
  | .finite negative m e =>
    let magnitude := if m == 0 then ['0', '.', '0'] else (shortest m e).written
    String.ofList (if negative then '-' :: magnitude else magnitude)

end StreetConsole
