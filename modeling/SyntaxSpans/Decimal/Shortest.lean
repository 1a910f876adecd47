set_option autoImplicit false

/- The shortest decimal of a binary fraction. A float stands for all reals that are rounded to it;
the fewest digits that name one of these reals are chosen, and of those the ones nearest to the
float itself. -/
namespace SyntaxSpans.Decimal

/-- `mantissa * 2 ^ exponent`, with a mantissa of at most 53 bits. -/
structure Binary where
  mantissa : Nat
  exponent : Int

/-- The size of a finite float, read off its bits; the sign is left out. -/
def Binary.ofBits (bits : Nat) : Binary :=
  let fraction := bits % Nat.pow 2 52
  let scale := bits / Nat.pow 2 52 % Nat.pow 2 11
  if scale = 0 then ⟨fraction, -1074⟩ else ⟨Nat.pow 2 52 + fraction, (scale : Int) - 1075⟩

/-- `digits * 10 ^ exponent`. -/
structure Scaled where
  digits : Nat
  exponent : Int

/-- The stretch of reals that are rounded to a float, as numerators over one denominator. The ends
belong to it if the mantissa is even. -/
structure Interval where
  low : Nat
  value : Nat
  high : Nat
  denominator : Nat
  closed : Bool

/-- Halfway to the neighbours. Below a power of two the neighbour is half as far. -/
def Interval.of (number : Binary) : Interval :=
  let exponent := number.exponent - 2
  let up := Nat.pow 2 exponent.toNat
  let below := if number.mantissa = Nat.pow 2 52 ∧ -1074 < number.exponent then 1 else 2
  ⟨(4 * number.mantissa - below) * up, 4 * number.mantissa * up, (4 * number.mantissa + 2) * up,
    Nat.pow 2 (-exponent).toNat, number.mantissa % 2 = 0⟩

def Interval.contains (interval : Interval) (numerator scale : Nat) : Bool :=
  if interval.closed then
    interval.low * scale ≤ numerator * interval.denominator &&
      numerator * interval.denominator ≤ interval.high * scale
  else
    interval.low * scale < numerator * interval.denominator &&
      numerator * interval.denominator < interval.high * scale

/-- The power of ten of the first digit of a positive quotient. -/
def leadingPower (numerator denominator : Nat) : Int :=
  if denominator ≤ numerator then
    ((Nat.toDigits 10 (numerator / denominator)).length : Int) - 1
  else -((Nat.toDigits 10 ((denominator - 1) / numerator)).length : Int)

/-- The best decimal of so many digits, if one of that length is in the interval. Of two at the same
distance it is the even one. -/
def onGrid? (interval : Interval) (count : Nat) : Option Scaled :=
  let power := leadingPower interval.value interval.denominator - (count : Int) + 1
  let up := Nat.pow 10 power.toNat
  let down := Nat.pow 10 (-power).toNat
  let dividend := interval.value * down
  let divisor := interval.denominator * up
  let below := dividend / divisor
  let remainder := dividend % divisor
  let fits (digits : Nat) := interval.contains (digits * up) down
  let above := divisor < 2 * remainder || (divisor = 2 * remainder && below % 2 = 1)
  if fits below && !(fits (below + 1) && above) then some ⟨below, power⟩
  else if fits (below + 1) then some ⟨below + 1, power⟩
  else none

/-- The shortest decimal of a positive binary fraction. -/
def shortest (number : Binary) : Scaled :=
  let interval := Interval.of number
  ((List.range 17).findSome? fun fewer => onGrid? interval (fewer + 1)).getD ⟨0, 0⟩

/-- The digits without the zeros behind them, and the power of ten of the last one left. -/
def trimmed (decimal : Scaled) : List Char × Int :=
  let digits := Nat.toDigits 10 decimal.digits
  let zeros := (digits.reverse.takeWhile (· == '0')).length
  (digits.take (digits.length - zeros), decimal.exponent + (zeros : Int))

/-- How decimals are written: the point stands after `point` digits, counted from the first. It is
written in place where that count is above `positionalAbove` and at most `positionalUpTo`. Elsewhere
a power of ten is written, and `plusSign` tells whether one that is not negative bears its sign. -/
structure Layout where
  positionalAbove : Int
  positionalUpTo : Int
  plusSign : Bool

/-- A decimal as text. In place it has a digit on either side of the point; otherwise one digit
stands before the point, a point only where digits follow it, and the power of ten after an `e`. -/
def render (layout : Layout) (decimal : Scaled) : List Char :=
  let parts := trimmed decimal
  let digits := parts.1
  let point := (digits.length : Int) + parts.2
  let zeros (count : Int) := List.replicate count.toNat '0'
  if layout.positionalAbove < point ∧ point ≤ layout.positionalUpTo then
    if 0 < point then
      let whole := digits.take point.toNat ++ zeros (point - digits.length)
      let part := digits.drop point.toNat
      whole ++ '.' :: (if part.isEmpty then ['0'] else part)
    else '0' :: '.' :: zeros (-point) ++ digits
  else
    let size := Nat.toDigits 10 (point - 1).natAbs
    let power :=
      if point < 1 then '-' :: size else if layout.plusSign then '+' :: size else size
    match digits with
    | [] => []
    | first :: rest => first :: (if rest.isEmpty then [] else '.' :: rest) ++ 'e' :: power

end SyntaxSpans.Decimal
