

/-!
# Shortest decimals

The finite binary64 numbers as fractions of natural numbers, and the decimal with the fewest
digits that reads back as a given number.  Among the decimals of that length which lie in the
interval of reals that round to the number, the nearest is taken, and of two that are equally near
the even one.
-/

namespace PromptScript.Decimal

/-- The decimal `digits * 10 ^ exponent`. -/
structure Digits where
  digits : Nat
  exponent : Int
  deriving DecidableEq, Repr

/-- The magnitude `significand * 2 ^ exponent` of a finite binary64 number. -/
structure Magnitude where
  significand : Nat
  exponent : Int
  deriving DecidableEq, Repr

/-- Whether the sign bit is set. -/
def isNegative (x : Float) : Bool :=
  x.toBits.toNat / 0x8000000000000000 == 1

/-- The magnitude of a number, read off its bits. -/
def magnitude (x : Float) : Magnitude :=
  let bits : Nat := x.toBits.toNat
  let fraction : Nat := bits % 0x10000000000000
  let biased : Nat := bits / 0x10000000000000 % 0x800
  if biased = 0 then ⟨fraction, -1074⟩ else ⟨fraction + 0x10000000000000, (biased : Int) - 1075⟩

/-- Three numbers over one denominator: the number itself and the ends of the interval of reals
that round to it.  The ends belong to the interval where `closed` holds. -/
structure Interval where
  low : Nat
  value : Nat
  high : Nat
  denominator : Nat
  closed : Bool

/-- The interval of a magnitude.  Below a power of two the neighbours lie half as far apart, so
the lower end is then nearer. -/
def Magnitude.interval (m : Magnitude) : Interval :=
  let narrow := m.significand = 0x10000000000000 ∧ m.exponent > -1074
  let scale := Nat.pow 2 (m.exponent - 2).toNat
  { low := (4 * m.significand - (if narrow then 1 else 2)) * scale
    value := 4 * m.significand * scale
    high := (4 * m.significand + 2) * scale
    denominator := Nat.pow 2 (2 - m.exponent).toNat
    closed := m.significand % 2 == 0 }

/-- Whether `digits * 10 ^ exponent` lies in the interval. -/
def Interval.contains (i : Interval) (d : Digits) : Bool :=
  let left := d.digits * Nat.pow 10 d.exponent.toNat * i.denominator
  let scale := Nat.pow 10 (-d.exponent).toNat
  if i.closed then i.low * scale ≤ left && left ≤ i.high * scale
  else i.low * scale < left && left < i.high * scale

/-- The distance of a decimal from the interval's number, in a unit that depends on the
decimal's exponent alone. -/
def Interval.distance (i : Interval) (d : Digits) : Nat :=
  let left := d.digits * Nat.pow 10 d.exponent.toNat * i.denominator
  let right := i.value * Nat.pow 10 (-d.exponent).toNat
  (left - right) + (right - left)

/-- The number of decimal digits of a positive number, and one for zero. -/
def digitCount (n : Nat) : Nat :=
  if n < 10 then 1 else digitCount (n / 10) + 1

/-- The exponent `k` with `10 ^ k ≤ value < 10 ^ (k + 1)`. -/
def Interval.order (i : Interval) : Int :=
  if i.denominator ≤ i.value then (digitCount (i.value / i.denominator) : Int) - 1
  else
    let places := digitCount (i.denominator / i.value)
    if i.denominator ≤ i.value * Nat.pow 10 (places - 1) then 1 - (places : Int) else -(places : Int)

/-- Whether the number lies nearer to the first of two neighbours on a grid, or halfway between
them where the first is even. -/
def Interval.prefers (i : Interval) (lower upper : Digits) : Bool :=
  i.distance lower < i.distance upper
    || (i.distance lower == i.distance upper && lower.digits % 2 == 0)

/-- The decimal with `count` significant digits that lies in the interval, the nearer of the two
neighbours of the number on that grid. -/
def Interval.candidate? (i : Interval) (count : Nat) : Option Digits :=
  let exponent := i.order - (count - 1 : Int)
  let below :=
    i.value * Nat.pow 10 (-exponent).toNat / (i.denominator * Nat.pow 10 exponent.toNat)
  let lower : Digits := ⟨below, exponent⟩
  let upper : Digits := ⟨below + 1, exponent⟩
  match i.contains lower, i.contains upper with
  | true, true => some (if i.prefers lower upper then lower else upper)
  | true, false => some lower
  | false, true => some upper
  | false, false => none

/-- The decimal without zeros at its end. -/
def Digits.reduced : Nat → Digits → Digits
  | 0, d => d
  | fuel + 1, d =>
    if d.digits ≠ 0 ∧ d.digits % 10 = 0 then reduced fuel ⟨d.digits / 10, d.exponent + 1⟩ else d

/-- The shortest decimal that reads back as the magnitude.  Seventeen digits always suffice. -/
def shortest (m : Magnitude) : Digits :=
  if m.significand = 0 then ⟨0, 0⟩
  else
    let found := (List.range 17).findSome? fun k => m.interval.candidate? (k + 1)
    (found.getD ⟨m.significand, m.exponent⟩).reduced 20

/-- How a number is written: positionally from `10 ^ low` on and below `10 ^ high`, otherwise
with a mark and an exponent. -/
structure Style where
  low : Int
  high : Int
  exponentMark : Char
  /-- Whether a positive exponent has a sign. -/
  plusSign : Bool

/-- The digits of a decimal with the point behind its first `whole` digits; at least one digit
stands on either side. -/
def placePoint (digits : List Char) (whole : Int) : List Char :=
  if whole ≤ 0 then '0' :: '.' :: (List.replicate (-whole).toNat '0' ++ digits)
  else
    let kept := digits.take whole.toNat
    let padded := kept ++ List.replicate (whole.toNat - kept.length) '0'
    let rest := digits.drop whole.toNat
    padded ++ '.' :: (if rest.isEmpty then ['0'] else rest)

/-- A finite number in the given style. -/
def render (style : Style) (x : Float) : String :=
  let sign := if isNegative x then ['-'] else []
  let d := shortest (magnitude x)
  if d.digits = 0 then String.ofList (sign ++ ['0', '.', '0'])
  else
    let digits := Nat.toDigits 10 d.digits
    let order : Int := d.exponent + digits.length - 1
    let body :=
      if style.low ≤ order ∧ order < style.high then placePoint digits (order + 1)
      else
        let mantissa :=
          match digits with
          | first :: second :: rest => first :: '.' :: second :: rest
          | few => few
        let expSign := if order < 0 then ['-'] else if style.plusSign then ['+'] else []
        mantissa ++ style.exponentMark :: (expSign ++ Nat.toDigits 10 order.natAbs)
    String.ofList (sign ++ body)

/-!
## Rounded decimals

The decimal nearest to a number among those with a given number of places behind the point, and
among those with a given number of digits.  Halves go to the even neighbour.
-/

/-- The quotient rounded to the nearest whole number, halves to the even one. -/
def roundQuotient (numerator denominator : Nat) : Nat :=
  let quotient := numerator / denominator
  let rest := numerator % denominator
  if 2 * rest < denominator then quotient
  else if denominator < 2 * rest then quotient + 1
  else quotient + quotient % 2

/-- A finite number with the given number of decimal places. -/
def renderFixed (places : Nat) (x : Float) : String :=
  let m := magnitude x
  let scaled := roundQuotient (m.significand * Nat.pow 2 m.exponent.toNat * Nat.pow 10 places)
    (Nat.pow 2 (-m.exponent).toNat)
  let digits := Nat.toDigits 10 scaled
  let padded := List.replicate (places + 1 - digits.length) '0' ++ digits
  let whole := padded.take (padded.length - places)
  let fraction := padded.drop (padded.length - places)
  String.ofList ((if isNegative x then ['-'] else []) ++ whole
    ++ if places = 0 then [] else '.' :: fraction)

/-- A magnitude as a fraction of natural numbers. -/
def Magnitude.fraction (m : Magnitude) : Nat × Nat :=
  (m.significand * Nat.pow 2 m.exponent.toNat, Nat.pow 2 (-m.exponent).toNat)

/-- The power of ten of the first digit of a positive fraction. -/
def leadingPower (numerator denominator : Nat) : Int :=
  let guess : Int := (digitCount numerator : Int) - digitCount denominator
  let left := numerator * Nat.pow 10 (-guess).toNat
  let right := denominator * Nat.pow 10 guess.toNat
  if left < right then guess - 1 else guess

/-- The given number of digits of a fraction, and the power of ten of the first one. -/
def scientific (count numerator denominator : Nat) : Nat × Int :=
  if numerator = 0 then (0, 0)
  else
    let power := leadingPower numerator denominator
    let shift : Int := (count : Int) - 1 - power
    let digits := roundQuotient (numerator * Nat.pow 10 shift.toNat)
      (denominator * Nat.pow 10 (-shift).toNat)
    if digits = Nat.pow 10 count then (Nat.pow 10 (count - 1), power + 1) else (digits, power)

end PromptScript.Decimal
