import DotDrawing.Decimal.Shortest

/-!
The text of a 32-bit number.

Numbers are written with the fewest digits that read back, never with an exponent. Zero keeps its
sign, and what is no number is written `NaN`.
-/

namespace DotDrawing.Decimal

/-- One more than the greatest fraction, which has 23 bits. -/
def fractionBound : Nat := 0x800000

/-- A positive finite 32-bit number `m · 2 ^ q`, by the bits of its exponent and its fraction. -/
def bandOfBits (exponent fraction : Nat) : Band :=
  if exponent = 0 then Band.ofBinary fraction (-149) false
  else Band.ofBinary (fraction + fractionBound) (exponent - 150) (fraction = 0 ∧ 1 < exponent)

/-- The text of a 32-bit number without its sign. -/
def magnitudeText (exponent fraction : Nat) : String :=
  if exponent = 255 then if fraction = 0 then "inf" else "NaN"
  else if exponent = 0 ∧ fraction = 0 then "0"
  else ((bandOfBits exponent fraction).shortest? 9).elim "" fun s => String.ofList s.positional

def text (x : Float32) : String :=
  let bits := x.toBits.toNat
  let exponent := bits / fractionBound % 256
  let fraction := bits % fractionBound
  let size := magnitudeText exponent fraction
  if bits < 0x80000000 ∨ size = "NaN" then size else "-" ++ size

end DotDrawing.Decimal
