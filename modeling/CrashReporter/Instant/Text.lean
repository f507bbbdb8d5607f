/-
**Instants as text.**

* `write` gives a date, `T`, a time and `Z`, with the fewest of 0, 3, 6 or 9 decimals that are exact,
  and with a sign for years outside 0 to 9999;
* `parse?` reads that and more: numbers may be shorter than written, white space may stand before
  a number or a separator, the separator of date and time may be `t` or a space, and the zone may
  be an offset in hours and minutes.
-/

import CrashReporter.Instant.Basic
import CrashReporter.Text.Blank

namespace CrashReporter.Instant

open CrashReporter.Text (isBlank trimStart)

/-! ### Writing -/

/-- The decimal digits of a number, filled up with leading zeros. -/
def padded (width value : Nat) : List Char :=
  let digits := Nat.toDigits 10 value
  List.replicate (width - digits.length) '0' ++ digits

/-- A year in four digits, or with a sign where four digits do not hold it. -/
def writeYear (year : Int) : List Char :=
  if 0 ≤ year ∧ year ≤ 9999 then padded 4 year.toNat
  else (if year < 0 then '-' else '+') :: padded 4 year.natAbs

/-- The decimals of a second, in groups of three. -/
def writeFraction (nanosecond : Nat) : List Char :=
  if nanosecond = 0 then []
  else if nanosecond % 1000000 = 0 then '.' :: padded 3 (nanosecond / 1000000)
  else if nanosecond % 1000 = 0 then '.' :: padded 6 (nanosecond / 1000)
  else '.' :: padded 9 nanosecond

/-- The characters of an instant. -/
def characters (instant : Instant) : List Char :=
  writeYear instant.date.year ++ '-' :: padded 2 instant.date.month ++
    '-' :: padded 2 instant.date.day ++ 'T' :: padded 2 instant.time.hour ++
    ':' :: padded 2 instant.time.minute ++ ':' :: padded 2 instant.time.second ++
    writeFraction instant.time.nanosecond ++ ['Z']

/-- The text of an instant. -/
def write (instant : Instant) : String :=
  String.ofList instant.characters

instance : ToString Instant := ⟨write⟩

/-! ### Reading -/

/-- Reads up to `most` digits onto a number, and how many there were. -/
def readDigits : Nat → Nat → List Char → Nat × Nat × List Char
  | most + 1, value, character :: rest =>
    if character.isDigit then
      let (value, count, rest) :=
        readDigits most (value * 10 + (character.toNat - '0'.toNat)) rest
      (value, count + 1, rest)
    else (value, 0, character :: rest)
  | _, value, characters => (value, 0, characters)

/-- Reads a number of one to `most` digits. -/
def readNumber? (most : Nat) (characters : List Char) : Option (Nat × List Char) :=
  match readDigits most 0 characters with
  | (_, 0, _) => none
  | (value, _, rest) => some (value, rest)

/-- Reads a number after white space. -/
def readField? (most : Nat) (characters : List Char) : Option (Nat × List Char) :=
  readNumber? most (trimStart characters)

/-- Reads a year after white space: up to four digits, or any number of them after a sign. -/
def readYear? (characters : List Char) : Option (Int × List Char) :=
  match trimStart characters with
  | '-' :: rest => (readNumber? rest.length rest).map fun (year, rest) => (-(year : Int), rest)
  | '+' :: rest => (readNumber? rest.length rest).map fun (year, rest) => ((year : Int), rest)
  | rest => (readNumber? 4 rest).map fun (year, rest) => ((year : Int), rest)

/-- Reads a mark after white space. -/
def readMark? (mark : Char) (characters : List Char) : Option (List Char) :=
  match trimStart characters with
  | character :: rest => if character = mark then some rest else none
  | [] => none

/-- Reads the decimals of a second, of which nine count. -/
def readFraction? (characters : List Char) : Option (Nat × List Char) :=
  match characters with
  | '.' :: rest =>
    match readDigits 9 0 rest with
    | (_, 0, _) => none
    | (value, count, rest) => some (value * Nat.pow 10 (9 - count), rest.dropWhile Char.isDigit)
  | rest => some (0, rest)

/-- Reads a two-digit number. -/
def readPair? : List Char → Option (Nat × List Char)
  | tens :: ones :: rest =>
    if tens.isDigit ∧ ones.isDigit then
      some ((tens.toNat - '0'.toNat) * 10 + (ones.toNat - '0'.toNat), rest)
    else none
  | _ => none

/-- Reads the hours and minutes of an offset as minutes. Colons and white space may separate them. -/
def readOffset? (characters : List Char) : Option (Nat × List Char) := do
  let (hours, rest) ← readPair? characters
  let (minutes, rest) ←
    readPair? (rest.dropWhile fun character => character = ':' || isBlank character)
  if minutes < 60 ∧ hours < 24 then pure (hours * 60 + minutes, rest) else none

/-- Reads a zone as the minutes that it is ahead of universal time. -/
def readZone? (characters : List Char) : Option (Int × List Char) :=
  match characters with
  | [] => none
  | first :: rest =>
    if (characters.take 3).map Char.toUpper = ['U', 'T', 'C'] then some (0, characters.drop 3)
    else if first = 'Z' ∨ first = 'z' then some (0, rest)
    else if first = '+' then (readOffset? rest).map fun (minutes, rest) => ((minutes : Int), rest)
    else if first = '-' ∨ first = Char.ofNat 0x2212 then
      (readOffset? rest).map fun (minutes, rest) => (-(minutes : Int), rest)
    else none

/-- Reads the separator of date and time. -/
def readSeparator? : List Char → Option (List Char)
  | character :: rest =>
    if character = 'T' ∨ character = 't' ∨ character = ' ' then some rest else none
  | [] => none

/-- Reads an instant that takes up all the characters. -/
def ofCharacters? (characters : List Char) : Option Instant := do
  let (year, rest) ← readYear? characters
  let rest ← readMark? '-' rest
  let (month, rest) ← readField? 2 rest
  let rest ← readMark? '-' rest
  let (day, rest) ← readField? 2 rest
  let rest ← readSeparator? rest
  let (hour, rest) ← readField? 2 rest
  let rest ← readMark? ':' rest
  let (minute, rest) ← readField? 2 rest
  let rest ← readMark? ':' rest
  let (second, rest) ← readField? 2 rest
  let (nanosecond, rest) ← readFraction? rest
  let (offset, rest) ← readZone? (trimStart rest)
  if trimStart rest ≠ [] then none
  let date ← Date.of? year month day
  let time ← TimeOfDay.of? hour minute second nanosecond
  shift? date time offset

/-- The instant that a text spells. -/
def parse? (text : String) : Option Instant :=
  ofCharacters? text.toList

end CrashReporter.Instant
