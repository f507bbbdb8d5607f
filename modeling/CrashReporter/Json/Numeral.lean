/-
**Numerals: how JSON text spells a number, and which number that is.**

A numeral is kept digit by digit, so that reading and writing it lose nothing. Its value is an
integer wherever it has neither fraction nor exponent and fits sixty-four bits (signed or
unsigned), and a double otherwise:

* the digits are collected into a 64-bit significand until the next one would not fit, and further
  digits only count towards the power of ten;
* the significand is then multiplied with or divided by that power, one rounding each, where
  powers beyond the range of doubles are divided out in two steps;
* a value too big for a double is no value at all.
-/

import CrashReporter.Json.Double

namespace CrashReporter.Json

/-- A number as JSON text spells it: digits most significant first. -/
structure Numeral where
  /-- A leading minus sign. -/
  negative : Bool
  /-- The digits before the point. -/
  whole : List Nat
  /-- The digits after the point, none if there is no point. -/
  fraction : List Nat
  /-- The sign (`true` for minus) and the digits of the exponent, if there is one. -/
  exponent : Option (Bool × List Nat)
  deriving DecidableEq, Repr

/-- A number: an exact integer of sixty-four bits or a finite double. -/
inductive Number where
  /-- An integer between the least signed and the greatest unsigned one of sixty-four bits. -/
  | integer (value : Int) (fits : -0x8000000000000000 ≤ value ∧ value < 0x10000000000000000)
  /-- Any other number. -/
  | double (value : Double)
  deriving DecidableEq

namespace Number

/-- The integer, if it fits sixty-four bits. -/
def ofInt? (value : Int) : Option Number :=
  if fits : -0x8000000000000000 ≤ value ∧ value < 0x10000000000000000 then some (.integer value fits)
  else none

/-- Equality of numbers: an integer never equals a double, and the two zeros are equal doubles. -/
def same : Number → Number → Bool
  | .integer first _, .integer second _ => first = second
  | .double first, .double second => first.same second
  | _, _ => false

end Number

namespace Numeral

/-! ### Spelling -/

/-- The value of a decimal digit. -/
def digit? (character : Char) : Option Nat :=
  if '0' ≤ character ∧ character ≤ '9' then some (character.toNat - '0'.toNat) else none

/-- Reads as many digits as there are. -/
def digits : List Char → List Nat × List Char
  | [] => ([], [])
  | character :: rest =>
    match digit? character with
    | some digit =>
      let (more, rest) := digits rest
      (digit :: more, rest)
    | none => ([], character :: rest)

/-- Reads the exponent at the end of a numeral. -/
def readExponent? (numeral : Numeral) (characters : List Char) : Option Numeral :=
  match characters with
  | [] => some numeral
  | marker :: rest =>
    if marker = 'e' ∨ marker = 'E' then
      let (negative, rest) :=
        match rest with
        | '-' :: rest => (true, rest)
        | '+' :: rest => (false, rest)
        | rest => (false, rest)
      match digits rest with
      | (first :: more, []) => some { numeral with exponent := some (negative, first :: more) }
      | _ => none
    else none

/-- Reads the fraction and the exponent at the end of a numeral. -/
def readFraction? (numeral : Numeral) (characters : List Char) : Option Numeral :=
  match characters with
  | '.' :: rest =>
    match digits rest with
    | ([], _) => none
    | (fraction, rest) => readExponent? { numeral with fraction := fraction } rest
  | rest => readExponent? numeral rest

/-- Reads a numeral that takes up all the characters. A leading zero stands alone. -/
def ofCharacters? (characters : List Char) : Option Numeral :=
  let (negative, rest) :=
    match characters with
    | '-' :: rest => (true, rest)
    | rest => (false, rest)
  match digits rest with
  | ([], _) => none
  | (0 :: _ :: _, _) => none
  | (whole, rest) => readFraction? ⟨negative, whole, [], none⟩ rest

/-- The character of a decimal digit. -/
def digitCharacter (digit : Nat) : Char :=
  Char.ofNat ('0'.toNat + digit)

/-- Writes a numeral; the sign of an exponent is always written. -/
def write (numeral : Numeral) : List Char :=
  let sign := if numeral.negative then ['-'] else []
  let fraction :=
    if numeral.fraction = [] then [] else '.' :: numeral.fraction.map digitCharacter
  let exponent :=
    match numeral.exponent with
    | none => []
    | some (negative, digits) => 'e' :: (if negative then '-' else '+') :: digits.map digitCharacter
  sign ++ numeral.whole.map digitCharacter ++ fraction ++ exponent

/-! ### Value -/

/-- The least number that is too big for a 64-bit word. -/
def wordLimit : Nat := 0x10000000000000000

/-- Digits collected so far. -/
structure Significand where
  /-- The digits that fitted, read as one number. -/
  value : Nat
  /-- A digit did not fit, and none is collected any more. -/
  full : Bool
  /-- The power of ten that the collected digits are multiplied with. -/
  scale : Int

/-- Collects a digit before the point. -/
def Significand.pushWhole (collected : Significand) (digit : Nat) : Significand :=
  if collected.full ∨ wordLimit ≤ collected.value * 10 + digit then
    { collected with full := true, scale := collected.scale + 1 }
  else { collected with value := collected.value * 10 + digit }

/-- Collects a digit after the point. -/
def Significand.pushFraction (collected : Significand) (digit : Nat) : Significand :=
  if collected.full ∨ wordLimit ≤ collected.value * 10 + digit then
    { collected with full := true }
  else { collected with value := collected.value * 10 + digit, scale := collected.scale - 1 }

/-- An exponent's digits as a number; none once it passes the signed 32-bit range. -/
def exponentValue? (digits : List Nat) : Option Nat :=
  digits.foldlM (fun value digit =>
    if value * 10 + digit < 0x80000000 then some (value * 10 + digit) else none) 0

/-- `value · 10 ^ scale`, rounded to a double at every step. Powers below the least are divided out
in steps of `10 ^ 308`, after three of which any 64-bit significand has become zero. -/
def scaled? : Nat → Float → Int → Option Float
  | 0, value, _ => some value
  | fuel + 1, value, scale =>
    if scale.natAbs ≤ 308 then
      let power := Float.ofScientific 1 false scale.natAbs
      if 0 ≤ scale then
        let product := value * power
        if product.isInf then none else some product
      else some (value / power)
    else if value == 0 then some value
    else if 0 ≤ scale then none
    else scaled? fuel (value / Float.ofScientific 1 false 308) (scale + 308)

/-- The double of a sign, a significand and a power of ten. -/
def double? (negative : Bool) (significand : Nat) (scale : Int) : Option Number := do
  let magnitude ← scaled? 5 (UInt64.ofNat significand).toFloat scale
  let value ← Double.ofFloat? (if negative then -magnitude else magnitude)
  pure (.double value)

/-- Confines a power of ten to the signed 32-bit range. -/
def saturate (scale : Int) : Int :=
  max (-0x80000000) (min scale 0x7FFFFFFF)

/-- The number that a numeral spells, if there is one. -/
def value? (numeral : Numeral) : Option Number :=
  let whole := numeral.whole.foldl Significand.pushWhole ⟨0, false, 0⟩
  let plain := numeral.fraction = [] ∧ numeral.exponent = none ∧ whole.full = false
  if plain ∧ numeral.negative = false then Number.ofInt? whole.value
  else if plain ∧ 0 < whole.value ∧ whole.value ≤ 0x8000000000000000 then Number.ofInt? (-whole.value)
  else
    let collected :=
      numeral.fraction.foldl Significand.pushFraction { whole with full := false }
    match numeral.exponent with
    | none => double? numeral.negative collected.value collected.scale
    | some (negative, digits) =>
      match exponentValue? digits with
      | none =>
        if collected.value ≠ 0 ∧ negative = false then none
        else double? numeral.negative 0 0
      | some exponent =>
        double? numeral.negative collected.value
          (saturate (if negative then collected.scale - exponent else collected.scale + exponent))

end Numeral

/-! ### Numerals of numbers -/

/-- The decimal digits of a natural number. -/
def decimalDigits (value : Nat) : List Nat :=
  (Nat.toDigits 10 value).map fun character => character.toNat - '0'.toNat

/-- The numeral of an integer. -/
def integerNumeral (value : Int) : Numeral :=
  { negative := value < 0
    whole := decimalDigits value.natAbs
    fraction := []
    exponent := none }

/-- The numeral of a double. Leading digits of order `10 ^ -5` to `10 ^ 15` are written without an
exponent; there is always a fraction or an exponent. -/
def doubleNumeral (value : Double) : Numeral :=
  if value.isZero then ⟨value.isNegative, [0], [0], none⟩
  else
    let decimal := value.shortest
    let digits := decimalDigits decimal.digits
    let order := decimal.exponent + digits.length - 1
    if order < -5 ∨ 15 < order then
      { negative := value.isNegative
        whole := digits.take 1
        fraction := digits.drop 1
        exponent := some (order < 0, decimalDigits order.natAbs) }
    else if order < 0 then
      { negative := value.isNegative
        whole := [0]
        fraction := List.replicate (order.natAbs - 1) 0 ++ digits
        exponent := none }
    else
      let whole := digits.take (order.toNat + 1)
      let fraction := digits.drop (order.toNat + 1)
      { negative := value.isNegative
        whole := whole ++ List.replicate (order.toNat + 1 - whole.length) 0
        fraction := if fraction = [] then [0] else fraction
        exponent := none }

/-- The numeral of a number. -/
def Number.numeral : Number → Numeral
  | .integer value _ => integerNumeral value
  | .double value => doubleNumeral value

end CrashReporter.Json
