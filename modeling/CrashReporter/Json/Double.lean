/-
**Finite doubles as exact binary fractions, and their shortest decimals.**

A double is kept as its 64 bits; `significand` and `biasedExponent` read the two factors of its magnitude
`significand · 2 ^ exponent`. Every decimal in the interval between the midpoints to the two neighbours
reads back as the double, the ends included when the significand is even. `shortest` finds the decimal
with the fewest digits in that interval and, among those, the nearest to the double: for each number of
digits it looks at the two points of the decimal grid next to the value, in exact arithmetic.
-/

namespace CrashReporter

/-- A finite double, given by its bits. -/
structure Double where
  /-- Sign, eleven bits of exponent and fifty-two of fraction. -/
  bits : UInt64
  /-- The exponent field of infinities and of numbers that are none is left out. -/
  finite : bits.toNat / 0x10000000000000 % 0x800 ≠ 0x7FF
  deriving DecidableEq

namespace Double

/-- The double with the given bits, if it is finite. -/
def ofBits? (bits : UInt64) : Option Double :=
  if finite : bits.toNat / 0x10000000000000 % 0x800 ≠ 0x7FF then some ⟨bits, finite⟩ else none

/-- The machine number as a finite double. -/
def ofFloat? (value : Float) : Option Double :=
  ofBits? value.toBits

/-- The sign bit. -/
def isNegative (double : Double) : Bool :=
  double.bits.toNat / 0x8000000000000000 = 1

/-- The exponent field. -/
def exponentField (double : Double) : Nat :=
  double.bits.toNat / 0x10000000000000 % 0x800

/-- The fraction field. -/
def fractionField (double : Double) : Nat :=
  double.bits.toNat % 0x10000000000000

/-- Either zero. -/
def isZero (double : Double) : Bool :=
  double.bits.toNat % 0x8000000000000000 = 0

/-- The integer factor of the magnitude, with the leading bit that normal numbers leave out. -/
def significand (double : Double) : Nat :=
  if double.exponentField = 0 then double.fractionField else double.fractionField + 0x10000000000000

/-- The exponent of two of the magnitude, plus 1075. -/
def biasedExponent (double : Double) : Nat :=
  max double.exponentField 1

/-- Equality of numbers: the two zeros are equal. -/
def same (first second : Double) : Bool :=
  first.bits = second.bits || (first.isZero && second.isZero)

end Double

/-- A positive decimal: `digits · 10 ^ exponent`. -/
structure Decimal where
  /-- The digits, read as a natural number. -/
  digits : Nat
  /-- The power of ten that they are multiplied with. -/
  exponent : Int
  deriving DecidableEq, Repr

namespace Double

/-! ### A double as a fraction of naturals -/

/-- The value, its lower and its upper limit over a common denominator. -/
structure Interval where
  /-- Numerator of the value. -/
  value : Nat
  /-- Numerator of the midpoint to the next double below. -/
  lower : Nat
  /-- Numerator of the midpoint to the next double above. -/
  upper : Nat
  /-- The common denominator. -/
  denominator : Nat
  /-- Whether the limits themselves read back as the value. -/
  closed : Bool

/-- The interval of the numbers that read back as the double. The gap below a power of two is half
the gap above it. -/
def interval (double : Double) : Interval :=
  let quarter := Nat.pow 2 (double.biasedExponent - 1077)
  let denominator := Nat.pow 2 (1077 - double.biasedExponent)
  let below := if double.fractionField = 0 ∧ 1 < double.exponentField then 1 else 2
  { value := 4 * double.significand * quarter
    lower := (4 * double.significand - below) * quarter
    upper := (4 * double.significand + 2) * quarter
    denominator := denominator
    closed := double.significand % 2 = 0 }

/-- The point `digits · unit / scale` reads back as the double. -/
def Interval.holds (interval : Interval) (digits unit scale : Nat) : Bool :=
  let point := digits * unit * interval.denominator
  if interval.closed then interval.lower * scale ≤ point && point ≤ interval.upper * scale
  else interval.lower * scale < point && point < interval.upper * scale

/-- The decimal exponent of the leading digit of `numerator / denominator`, found from a guess that is not too
small downwards. -/
def leadingExponent (numerator denominator : Nat) : Nat → Int → Int
  | 0, guess => guess
  | fuel + 1, guess =>
    let reached :=
      if 0 ≤ guess then denominator * Nat.pow 10 guess.toNat ≤ numerator
      else denominator ≤ numerator * Nat.pow 10 (-guess).toNat
    if reached then guess else leadingExponent numerator denominator fuel (guess - 1)

/-- Of the two points next to the value on the grid of multiples of `10 ^ exponent`, the nearest
one that reads back. An exact tie goes to the even one. -/
def Interval.onGrid? (interval : Interval) (exponent : Int) : Option Nat :=
  let unit := Nat.pow 10 exponent.toNat
  let scale := Nat.pow 10 (-exponent).toNat
  let below := interval.value * scale / (interval.denominator * unit)
  let above := below + 1
  let rest := 2 * (interval.value * scale - below * (interval.denominator * unit))
  let whole := interval.denominator * unit
  let preferBelow := rest < whole || (rest = whole && below % 2 = 0)
  match 0 < below && interval.holds below unit scale, interval.holds above unit scale with
  | true, true => some (if preferBelow then below else above)
  | true, false => some below
  | false, true => some above
  | false, false => none

/-- Removes trailing zeros into the exponent. -/
def stripZeros : Nat → Decimal → Decimal
  | 0, decimal => decimal
  | fuel + 1, decimal =>
    if decimal.digits % 10 = 0 then
      stripZeros fuel { digits := decimal.digits / 10, exponent := decimal.exponent + 1 }
    else decimal

/-- Tries `count` digits, then one more, up to seventeen in all. -/
def searchDigits (interval : Interval) (leading : Int) : Nat → Int → Decimal
  | 0, count => { digits := (interval.onGrid? (leading - count + 1)).getD 0,
                  exponent := leading - count + 1 }
  | fuel + 1, count =>
    match interval.onGrid? (leading - count + 1) with
    | some digits => { digits := digits, exponent := leading - count + 1 }
    | none => searchDigits interval leading fuel (count + 1)

/-- The shortest decimal that reads back as the magnitude of a non-zero double, without trailing
zeros. -/
def shortest (double : Double) : Decimal :=
  let interval := double.interval
  let leading := leadingExponent interval.value interval.denominator 700 309
  stripZeros 20 (searchDigits interval leading 16 1)

end Double

end CrashReporter
