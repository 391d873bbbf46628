/-!
The value of a decimal number.

A decimal number is read as the nearest 64-bit number. What is too great for any is infinite.
-/

namespace DotDrawing.Decimal

def infinity : Float := 1.0 / 0.0

/-- The number that a run of digits spells. -/
def ofDigits (ds : List Char) : Nat := ds.foldl (fun n c => 10 * n + (c.toNat - '0'.toNat)) 0

/-- The 64-bit number nearest to `digits · 10 ^ exponent`. Far outside their range no power of ten
is worked out. -/
def nearest (digits : Nat) (exponent : Int) : Float :=
  if digits = 0 then 0.0
  else if 400 < exponent then infinity
  else if exponent + (digits.log2 / 3 + 1 : Nat) < -400 then 0.0
  else Float.ofScientific digits (exponent < 0) exponent.natAbs

/-- A decimal number in the parts in which it is written. -/
structure Written where
  negative : Bool := false
  whole : List Char
  fraction : List Char := []
  exponent : Int := 0
  deriving DecidableEq, Repr

def Written.value (w : Written) : Float :=
  let size := nearest (ofDigits (w.whole ++ w.fraction)) (w.exponent - w.fraction.length)
  if w.negative then -size else size

/-- The parts of a number at the start of a text: an optional sign, digits with or without a
fraction, and an optional exponent that has digits. -/
def scan? (cs : List Char) : Option (Written × List Char) :=
  let (negative, cs) := match cs with
    | '-' :: r => (true, r)
    | '+' :: r => (false, r)
    | r => (false, r)
  let whole := cs.takeWhile Char.isDigit
  let cs := cs.dropWhile Char.isDigit
  let (fraction, cs) := match cs with
    | '.' :: r =>
      match r.takeWhile Char.isDigit with
      | [] => ([], cs)
      | ds => (ds, r.dropWhile Char.isDigit)
    | _ => ([], cs)
  if whole.isEmpty && fraction.isEmpty then none
  else
    let (exponent, cs) := scanExponent cs
    some (⟨negative, whole, fraction, exponent⟩, cs)
where
  /-- An exponent, zero when there is none. -/
  scanExponent (cs : List Char) : Int × List Char :=
    match cs with
    | e :: r =>
      if e = 'e' ∨ e = 'E' then
        let (negative, r) := match r with
          | '-' :: r => (true, r)
          | '+' :: r => (false, r)
          | r => (false, r)
        match r.takeWhile Char.isDigit with
        | [] => (0, cs)
        | ds =>
          let n : Int := ofDigits ds
          (if negative then -n else n, r.dropWhile Char.isDigit)
      else (0, cs)
    | [] => (0, [])

end DotDrawing.Decimal
