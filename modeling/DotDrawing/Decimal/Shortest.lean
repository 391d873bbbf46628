/-!
The shortest decimal of a binary number.

A number `m · 2 ^ q` is the nearest of its kind for all reals between the midpoints to its two
neighbours, and for the midpoints too when `m` is even. Its shortest decimal is the one of fewest
digits in that band, and of those the nearest one to the number, the larger one on a tie.
-/

namespace DotDrawing.Decimal

/-- The decimal number `digits · 10 ^ exponent`. -/
structure Scaled where
  digits : Nat
  exponent : Int
  deriving DecidableEq, Repr

/-- The reals that round to a number: `low`, `value` and `high` stand over one denominator. -/
structure Band where
  low : Nat
  value : Nat
  high : Nat
  denominator : Nat
  /-- The ends round to the number too. -/
  closed : Bool
  deriving DecidableEq, Repr

namespace Band

/-- The band of `m · 2 ^ q`. When `narrow`, the neighbour below is half as far as the one above. -/
def ofBinary (m : Nat) (q : Int) (narrow : Bool) : Band :=
  let unit := Nat.pow 2 (q - 2).toNat
  { low := (if narrow then 4 * m - 1 else 4 * m - 2) * unit
    value := 4 * m * unit
    high := (4 * m + 2) * unit
    denominator := Nat.pow 2 (2 - q).toNat
    closed := m % 2 == 0 }

/-- The band with its four numbers times `n`, which is the same band. -/
def scale (b : Band) (n : Nat) : Band :=
  { b with low := b.low * n, value := b.value * n, high := b.high * n }

/-- The real `n / denominator` is in the band. -/
def holds (b : Band) (n : Nat) : Bool :=
  if b.closed then b.low ≤ n && n ≤ b.high else b.low < n && n < b.high

/-- The number of decimal digits of a positive number. -/
def digitCount (n : Nat) : Nat := (Nat.toDigits 10 n).length

/-- The power of ten above a positive value: `10 ^ (p - 1) ≤ value < 10 ^ p`. -/
def magnitude (b : Band) : Int :=
  if b.denominator ≤ b.value then digitCount (b.value / b.denominator)
  else 1 - (digitCount ((b.denominator - 1) / b.value) : Int)

/-- The multiple of `10 ^ exponent` that is nearest to the value, of its two neighbours on that
grid that are in the band. -/
def onGrid? (b : Band) (exponent : Int) : Option Nat :=
  let unit := b.denominator * Nat.pow 10 exponent.toNat
  let b := b.scale (Nat.pow 10 (-exponent).toNat)
  let below := b.value / unit
  let above := below + 1
  match b.holds (below * unit), b.holds (above * unit) with
  | true, true =>
    if b.value - below * unit < above * unit - b.value then some below else some above
  | true, false => some below
  | false, true => some above
  | false, false => none

/-- The shortest decimal in the band, of up to `limit` digits. -/
def shortest? (b : Band) (limit : Nat) : Option Scaled :=
  (List.range limit).findSome? fun (n : Nat) =>
    let exponent := b.magnitude - (n + 1)
    (b.onGrid? exponent).map (⟨·, exponent⟩)

end Band

/-- The characters of `digits · 10 ^ exponent` without an exponent: a point only in front of
digits, and a zero in front of a point that would come first. -/
def Scaled.positional (s : Scaled) : List Char :=
  let ds := Nat.toDigits 10 s.digits
  if 0 ≤ s.exponent then ds ++ List.replicate s.exponent.toNat '0'
  else
    let places := (-s.exponent).toNat
    let padded := List.replicate (places + 1 - ds.length) '0' ++ ds
    let (whole, fraction) := padded.splitAt (padded.length - places)
    let fraction := (fraction.reverse.dropWhile (· == '0')).reverse
    if fraction.isEmpty then whole else whole ++ '.' :: fraction

end DotDrawing.Decimal
