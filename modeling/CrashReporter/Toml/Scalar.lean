/-
**Numbers and moments of TOML documents.**

Digits may be separated by single underscores. A number of four digits and a dash starts a date, one
of two digits and a colon a time of day; what looks like one has to be one.
-/

import CrashReporter.Instant.Basic
import CrashReporter.Toml.Item
import CrashReporter.Toml.Text

namespace CrashReporter.Toml

/-! ### Digits -/

/-- The value of a digit in a base of at most sixteen. -/
def digitIn? (base : Nat) (character : Char) : Option Nat :=
  (Json.Token.hexDigit? character).bind fun digit => if digit < base then some digit else none

/-- Reads the digits after a first one, with single underscores between them. -/
def moreDigits? (base : Nat) : Reader (List Nat)
  | [] => some ([], [])
  | '_' :: character :: rest => do
    let digit ← digitIn? base character
    let (digits, rest) ← moreDigits? base rest
    pure (digit :: digits, rest)
  | character :: rest =>
    if character = '_' then none
    else
      match digitIn? base character with
      | some digit => (moreDigits? base rest).map fun (digits, rest) => (digit :: digits, rest)
      | none => some ([], character :: rest)

/-- Reads digits, at least one. -/
def digits? (base : Nat) : Reader (List Nat)
  | [] => none
  | character :: rest => do
    let digit ← digitIn? base character
    let (digits, rest) ← moreDigits? base rest
    pure (digit :: digits, rest)

/-- The number that digits spell. -/
def ofDigits (base : Nat) (digits : List Nat) : Nat :=
  digits.foldl (fun value digit => value * base + digit) 0

/-- Reads a sign. -/
def sign : List Char → Bool × List Char
  | '-' :: rest => (true, rest)
  | '+' :: rest => (false, rest)
  | rest => (false, rest)

/-! ### Numbers -/

/-- An integer of sixty-four bits. -/
def integer? (value : Int) : Option Item :=
  if -0x8000000000000000 ≤ value ∧ value < 0x8000000000000000 then some (.integer value) else none

/-- The midpoint between the greatest double and the next power of two. -/
def doubleLimit : Nat := 0x3FFFFFFFFFFFFF * Nat.pow 2 970

/-- The decimal is too big for a double: it is not below the limit. -/
def isTooBig (significand : Nat) (exponent : Int) : Bool :=
  let order := (Nat.toDigits 10 significand).length + exponent
  if significand = 0 ∨ order < 300 then false
  else if 400 < order then true
  else if 0 ≤ exponent then doubleLimit ≤ significand * Nat.pow 10 exponent.toNat
  else doubleLimit * Nat.pow 10 exponent.natAbs ≤ significand

/-- A float, which may be as small as one likes but not too big. -/
def float? (negative : Bool) (significand : Nat) (exponent : Int) : Option Item :=
  if negative = false ∧ isTooBig significand exponent then none else some .float

/-- Reads an exponent after its letter. -/
def exponent? (characters : List Char) : Option (Int × List Char) := do
  let (negative, rest) := sign characters
  let (digits, rest) ← digits? 10 rest
  let value : Int := ofDigits 10 digits
  pure (if negative then -value else value, rest)

/-- Reads what follows the point of a float. -/
def fraction? (negative : Bool) (whole : List Nat) (characters : List Char) :
    Option (Item × List Char) := do
  let (fraction, rest) ← digits? 10 characters
  let (exponent, rest) ←
    match rest with
    | 'e' :: rest => exponent? rest
    | 'E' :: rest => exponent? rest
    | rest => some (0, rest)
  let item ← float? negative (ofDigits 10 (whole ++ fraction)) (exponent - fraction.length)
  pure (item, rest)

/-- Reads a decimal number after its sign. A zero that leads stands alone. -/
def decimal? (negative : Bool) (characters : List Char) : Option (Item × List Char) := do
  let (whole, rest) ←
    match characters with
    | '0' :: rest => some ([0], rest)
    | characters => digits? 10 characters
  match rest with
  | '.' :: rest => fraction? negative whole rest
  | 'e' :: rest =>
    let (exponent, rest) ← exponent? rest
    let item ← float? negative (ofDigits 10 whole) exponent
    pure (item, rest)
  | 'E' :: rest =>
    let (exponent, rest) ← exponent? rest
    let item ← float? negative (ofDigits 10 whole) exponent
    pure (item, rest)
  | rest =>
    let value : Int := ofDigits 10 whole
    let item ← integer? (if negative then -value else value)
    pure (item, rest)

/-- Reads an integer in another base after its mark. -/
def based? (base : Nat) (characters : List Char) : Option (Item × List Char) := do
  let (digits, rest) ← digits? base characters
  let item ← integer? (ofDigits base digits)
  pure (item, rest)

/-- Reads a number. -/
def number? (characters : List Char) : Option (Item × List Char) :=
  match characters with
  | '0' :: 'x' :: rest => based? 16 rest
  | '0' :: 'o' :: rest => based? 8 rest
  | '0' :: 'b' :: rest => based? 2 rest
  | characters =>
    let (negative, rest) := sign characters
    match rest with
    | 'i' :: 'n' :: 'f' :: rest => some (.float, rest)
    | 'n' :: 'a' :: 'n' :: rest => some (.float, rest)
    | rest => decimal? negative rest

/-! ### Moments -/

/-- Reads exactly as many digits as given onto a value. -/
def fixedDigits? : Nat → Nat → Reader Nat
  | 0, value, rest => some (value, rest)
  | count + 1, value, character :: rest => do
    let digit ← digitIn? 10 character
    fixedDigits? count (value * 10 + digit) rest
  | _ + 1, _, [] => none

/-- Reads two digits that make a number in a range. -/
def pair? (least most : Nat) (characters : List Char) : Option (Nat × List Char) := do
  let (value, rest) ← fixedDigits? 2 0 characters
  if least ≤ value ∧ value ≤ most then pure (value, rest) else none

/-- Skips a character. -/
def mark? (mark : Char) : List Char → Option (List Char)
  | character :: rest => if character = mark then some rest else none
  | [] => none

/-- Skips a date. -/
def date? (characters : List Char) : Option (List Char) := do
  let (year, rest) ← fixedDigits? 4 0 characters
  let rest ← mark? '-' rest
  let (month, rest) ← pair? 1 12 rest
  let rest ← mark? '-' rest
  let (_, rest) ← pair? 1 (daysInMonth year month) rest
  pure rest

/-- Skips the decimals of a second. -/
def skipFraction : List Char → List Char
  | '.' :: digit :: rest =>
    if digit.isDigit then rest.dropWhile Char.isDigit else '.' :: digit :: rest
  | characters => characters

/-- Skips a time of day. -/
def time? (characters : List Char) : Option (List Char) := do
  let (_, rest) ← pair? 0 23 characters
  let rest ← mark? ':' rest
  let (_, rest) ← pair? 0 59 rest
  let rest ← mark? ':' rest
  let (_, rest) ← pair? 0 60 rest
  pure (skipFraction rest)

/-- Skips the offset of a zone in hours and minutes. -/
def offset? (characters : List Char) : Option (List Char) := do
  let (_, rest) ← pair? 0 23 characters
  let rest ← mark? ':' rest
  let (_, rest) ← pair? 0 59 rest
  pure rest

/-- Skips a zone, if there is one. -/
def zone? : List Char → Option (List Char)
  | 'Z' :: rest => some rest
  | 'z' :: rest => some rest
  | '+' :: rest => offset? rest
  | '-' :: rest => offset? rest
  | rest => some rest

/-- Skips the time of day that may follow a date. -/
def skipTime? (characters : List Char) : Option (List Char) :=
  match characters with
  | separator :: rest =>
    if separator = 'T' ∨ separator = 't' ∨ separator = ' ' then
      match time? rest with
      | some rest => zone? rest
      | none => some characters
    else some characters
  | [] => some []

/-- Skips a date with or without a time, or a time of day. -/
def moment? (characters : List Char) : Option (List Char) :=
  match date? characters with
  | some rest => skipTime? rest
  | none => time? characters

/-- Reads a number or a moment. -/
def figure? (characters : List Char) : Option (Item × List Char) :=
  match moment? characters with
  | some rest => some (.moment, rest)
  | none => number? characters

end CrashReporter.Toml
