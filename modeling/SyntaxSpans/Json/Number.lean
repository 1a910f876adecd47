import SyntaxSpans.Decimal.Shortest

set_option autoImplicit false

namespace SyntaxSpans.Json

/-- `negative n` is minus `n`; there `n` is positive. -/
inductive Number where
  | natural (value : Nat)
  | negative (value : Nat)
  | float (value : Float)

namespace Number

/-- Floats are written in place up to sixteen digits before the point and four zeros after it, and
otherwise with a power of ten that always bears a sign. -/
def layout : Decimal.Layout := ⟨-5, 16, true⟩

def floatText (value : Float) : String :=
  let bits := value.toBits.toNat
  let number := Decimal.Binary.ofBits bits
  let size :=
    if number.mantissa = 0 then ['0', '.', '0']
    else Decimal.render layout (Decimal.shortest number)
  String.ofList (if bits / Nat.pow 2 63 = 1 then '-' :: size else size)

private def power (exponent : Nat) : Float := Float.ofScientific 1 false exponent

/-- Divides by a power of ten, in several steps if the power itself is no double. -/
private def divide (value : Float) (exponent : Nat) : Float :=
  if exponent ≤ 308 then value / power exponent
  else if value == 0.0 then value
  else divide (value / power 308) (exponent - 308)
termination_by exponent

/-- `significand * 10 ^ exponent` in floating point, rounded at each step; nothing if that is beyond
the largest double. -/
def scale? (significand : Nat) (exponent : Int) : Option Float :=
  let value := (UInt64.ofNat significand).toFloat
  if exponent < 0 then some (divide value exponent.natAbs)
  else if value == 0.0 then some value
  else if 308 < exponent then none
  else
    let scaled := value * power exponent.toNat
    if scaled.isInf then none else some scaled

def ofWhole (minus : Bool) (size : Nat) : Number :=
  if !minus then natural size
  else if size = 0 ∨ Nat.pow 2 63 < size then float (-(UInt64.ofNat size).toFloat)
  else negative size

end Number

end SyntaxSpans.Json
