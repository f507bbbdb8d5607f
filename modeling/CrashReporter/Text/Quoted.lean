/-
**Quoted listings of strings.**

`quote` lists a string between double quotes. Quotes and backslashes are escaped, the common
controls have a letter each, and every other character that cannot be shown stands as its code
point in braces.
-/

import CrashReporter.Text.Unprintable

namespace CrashReporter.Text

/-- The lower-case hexadecimal digits of a number, at least one. -/
def hexadecimal (value : Nat) : List Char :=
  Nat.toDigits 16 value

/-- One character of a quoted listing. -/
def quoteCharacter (character : Char) : List Char :=
  if character = Char.ofNat 0 then ['\\', '0']
  else if character = '\t' then ['\\', 't']
  else if character = '\r' then ['\\', 'r']
  else if character = '\n' then ['\\', 'n']
  else if character = '\\' then ['\\', '\\']
  else if character = '"' then ['\\', '"']
  else if isUnprintable character then
    ['\\', 'u', '\x7b'] ++ hexadecimal character.toNat ++ ['\x7d']
  else [character]

/-- The listing of a string between double quotes. -/
def quote (value : String) : String :=
  String.ofList ('"' :: value.toList.flatMap quoteCharacter ++ ['"'])

end CrashReporter.Text
