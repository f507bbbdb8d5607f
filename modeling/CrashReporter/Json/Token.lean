/-
**Tokens of JSON text.**

JSON text is a sequence of tokens with blanks between them. `scan?` reads the tokens of a text in one
pass, one character at a time; `write` spells one token. A string token keeps its escapes of single
UTF-16 units apart from its characters, because only the use of the string decides whether lone
surrogates matter: `characters?` refuses them.
-/

import CrashReporter.Json.Numeral

namespace CrashReporter.Json

/-- A piece of a string token. -/
inductive Piece where
  /-- A character, written as itself or by one of the short escapes. -/
  | character (character : Char)
  /-- A UTF-16 unit, written by its four hexadecimal digits. -/
  | codeUnit (value : Nat)
  deriving DecidableEq, Repr

/-- A token of JSON text. -/
inductive Token where
  | null
  | bool (value : Bool)
  | numeral (numeral : Numeral)
  | text (pieces : List Piece)
  | openArray
  | closeArray
  | openObject
  | closeObject
  | comma
  | colon
  deriving DecidableEq, Repr

namespace Piece

/-- The UTF-16 units that lead a pair. -/
def isLeading (unit : Nat) : Bool :=
  0xD800 ≤ unit && unit ≤ 0xDBFF

/-- The UTF-16 units that end a pair. -/
def isTrailing (unit : Nat) : Bool :=
  0xDC00 ≤ unit && unit ≤ 0xDFFF

/-- The characters of a string token; none if a surrogate stands alone. -/
def characters? : List Piece → Option (List Char)
  | [] => some []
  | .character symbol :: rest => (characters? rest).map (symbol :: ·)
  | .codeUnit leading :: .codeUnit trailing :: rest =>
    if isLeading leading then
      if isTrailing trailing then
        let code := 0x10000 + (leading - 0xD800) * 0x400 + (trailing - 0xDC00)
        (characters? rest).map (Char.ofNat code :: ·)
      else none
    else if isTrailing leading then none
    else (characters? (.codeUnit trailing :: rest)).map (Char.ofNat leading :: ·)
  | .codeUnit unit :: rest =>
    if isLeading unit || isTrailing unit then none
    else (characters? rest).map (Char.ofNat unit :: ·)

end Piece

namespace Token

/-! ### Reading -/

/-- The value of a hexadecimal digit. -/
def hexDigit? (character : Char) : Option Nat :=
  if '0' ≤ character ∧ character ≤ '9' then some (character.toNat - '0'.toNat)
  else if 'a' ≤ character ∧ character ≤ 'f' then some (character.toNat - 'a'.toNat + 10)
  else if 'A' ≤ character ∧ character ≤ 'F' then some (character.toNat - 'A'.toNat + 10)
  else none

/-- The character that a short escape stands for. -/
def shortEscape? (character : Char) : Option Char :=
  if character = '"' ∨ character = '\\' ∨ character = '/' then some character
  else if character = 'b' then some (Char.ofNat 8)
  else if character = 'f' then some (Char.ofNat 12)
  else if character = 'n' then some '\n'
  else if character = 'r' then some '\r'
  else if character = 't' then some '\t'
  else none

/-- Where the reader stands. Lists of what has been read are newest first. -/
inductive Place where
  /-- Between tokens. -/
  | gap
  /-- Inside a word. -/
  | word (letters : List Char)
  /-- Inside a numeral. -/
  | figure (characters : List Char)
  /-- Inside a string. -/
  | string (pieces : List Piece)
  /-- After a backslash. -/
  | escape (pieces : List Piece)
  /-- Inside the four digits of a UTF-16 unit, of which `owed` are missing. -/
  | codeUnit (pieces : List Piece) (owed value : Nat)

/-- The characters that a numeral is made of. -/
def isFigure (character : Char) : Bool :=
  character.isDigit || character = '-' || character = '+' || character = '.' || character = 'e' ||
    character = 'E'

/-- The blanks between tokens. -/
def isGap (character : Char) : Bool :=
  character = ' ' || character = '\n' || character = '\t' || character = '\r'

/-- The token that a punctuation mark is. -/
def punctuation? (character : Char) : Option Token :=
  if character = '[' then some .openArray
  else if character = ']' then some .closeArray
  else if character = '\x7b' then some .openObject
  else if character = '\x7d' then some .closeObject
  else if character = ',' then some .comma
  else if character = ':' then some .colon
  else none

/-- The token that a word is. -/
def ofWord? (letters : List Char) : Option Token :=
  if letters = ['n', 'u', 'l', 'l'] then some .null
  else if letters = ['t', 'r', 'u', 'e'] then some (.bool true)
  else if letters = ['f', 'a', 'l', 's', 'e'] then some (.bool false)
  else none

/-- Reads a character between tokens. `found` holds the tokens read so far, newest first. -/
def enter? (found : List Token) (character : Char) : Option (List Token × Place) :=
  if isGap character then some (found, .gap)
  else if character = '"' then some (found, .string [])
  else if character.isDigit ∨ character = '-' then some (found, .figure [character])
  else if character.isAlpha then some (found, .word [character])
  else (punctuation? character).map fun token => (token :: found, .gap)

/-- Reads a character. -/
def advance? (found : List Token) (place : Place) (character : Char) :
    Option (List Token × Place) :=
  match place with
  | .gap => enter? found character
  | .word letters =>
    if character.isAlpha then some (found, .word (character :: letters))
    else do
      let token ← ofWord? letters.reverse
      enter? (token :: found) character
  | .figure characters =>
    if isFigure character then some (found, .figure (character :: characters))
    else do
      let numeral ← Numeral.ofCharacters? characters.reverse
      enter? (.numeral numeral :: found) character
  | .string pieces =>
    if character = '"' then some (.text pieces.reverse :: found, .gap)
    else if character = '\\' then some (found, .escape pieces)
    else if character.toNat < 0x20 then none
    else some (found, .string (.character character :: pieces))
  | .escape pieces =>
    if character = 'u' then some (found, .codeUnit pieces 4 0)
    else (shortEscape? character).map fun meant => (found, .string (.character meant :: pieces))
  | .codeUnit pieces owed value => do
    let digit ← hexDigit? character
    let value := value * 16 + digit
    if owed ≤ 1 then pure (found, .string (.codeUnit value :: pieces))
    else pure (found, .codeUnit pieces (owed - 1) value)

/-- Ends the text. -/
def finish? (found : List Token) : Place → Option (List Token)
  | .gap => some found
  | .word letters => (ofWord? letters.reverse).map (· :: found)
  | .figure characters =>
    (Numeral.ofCharacters? characters.reverse).map fun numeral => .numeral numeral :: found
  | _ => none

/-- Reads the remaining characters. -/
def scanFrom? (found : List Token) (place : Place) : List Char → Option (List Token)
  | [] => (finish? found place).map List.reverse
  | character :: rest =>
    match advance? found place character with
    | some (found, place) => scanFrom? found place rest
    | none => none

/-- The tokens of a text, if it is made of tokens and blanks. -/
def scan? (characters : List Char) : Option (List Token) :=
  scanFrom? [] .gap characters

/-! ### Writing -/

/-- A hexadecimal digit in lower case. -/
def hexCharacter (digit : Nat) : Char :=
  if digit < 10 then Char.ofNat ('0'.toNat + digit) else Char.ofNat ('a'.toNat + (digit - 10))

/-- Writes a UTF-16 unit by its four digits. -/
def writeUnit (value : Nat) : List Char :=
  ['\\', 'u', hexCharacter (value / 0x1000 % 16), hexCharacter (value / 0x100 % 16),
    hexCharacter (value / 0x10 % 16), hexCharacter (value % 16)]

/-- Writes a character of a string. Quotes, backslashes and controls are escaped, the controls that
have a short escape by it; all else is written as itself. -/
def writeCharacter (character : Char) : List Char :=
  if character = '"' then ['\\', '"']
  else if character = '\\' then ['\\', '\\']
  else if character = Char.ofNat 8 then ['\\', 'b']
  else if character = Char.ofNat 12 then ['\\', 'f']
  else if character = '\n' then ['\\', 'n']
  else if character = '\r' then ['\\', 'r']
  else if character = '\t' then ['\\', 't']
  else if character.toNat < 0x20 then writeUnit character.toNat
  else [character]

/-- Writes a piece of a string. -/
def writePiece : Piece → List Char
  | .character character => writeCharacter character
  | .codeUnit value => writeUnit value

/-- Writes a token. -/
def write : Token → List Char
  | .null => ['n', 'u', 'l', 'l']
  | .bool true => ['t', 'r', 'u', 'e']
  | .bool false => ['f', 'a', 'l', 's', 'e']
  | .numeral figure => figure.write
  | .text pieces => '"' :: pieces.flatMap writePiece ++ ['"']
  | .openArray => ['[']
  | .closeArray => [']']
  | .openObject => ['\x7b']
  | .closeObject => ['\x7d']
  | .comma => [',']
  | .colon => [':']

end Token

end CrashReporter.Json
