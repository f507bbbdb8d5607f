/-
**Strings, keys and gaps of TOML documents.**

Every reader takes the characters from where it stands and returns what it read with the rest, or
nothing where the document is wrong. A reader of a sequence is given a number of steps: no step is
empty, so the number of characters suffices.
-/

import CrashReporter.Json.Token

namespace CrashReporter.Toml

/-- Reads something and returns it with the remaining characters. -/
abbrev Reader (α : Type) := List Char → Option (α × List Char)

/-! ### Gaps -/

/-- A blank inside a line. -/
def isBlank (character : Char) : Bool :=
  character = ' ' || character = '\t'

/-- A character that may stand in comments and strings: no control but the tab. -/
def isShown (character : Char) : Bool :=
  character = '\t' || (0x20 ≤ character.toNat && character.toNat ≠ 0x7F)

/-- Skips blanks. -/
def skipBlanks (characters : List Char) : List Char :=
  characters.dropWhile isBlank

/-- Skips the end of a line. -/
def newline? : List Char → Option (List Char)
  | '\n' :: rest => some rest
  | '\r' :: '\n' :: rest => some rest
  | _ => none

/-- Skips a comment up to the end of its line. -/
def skipComment : List Char → List Char
  | '#' :: rest => rest.dropWhile isShown
  | characters => characters

/-- Skips what may follow a statement on its line, and the line's end. -/
def lineEnd? (characters : List Char) : Option (List Char) :=
  match skipComment (skipBlanks characters) with
  | [] => some []
  | rest => newline? rest

/-- Skips blanks and line ends. -/
def skipLines : List Char → List Char
  | '\r' :: '\n' :: rest => skipLines rest
  | character :: rest =>
    if isBlank character ∨ character = '\n' then skipLines rest else character :: rest
  | [] => []

/-- Skips blanks, line ends and comments, in as many steps as are given. -/
def skipGapIn : Nat → List Char → List Char
  | 0, characters => characters
  | steps + 1, characters =>
    match skipLines characters with
    | '#' :: rest => skipGapIn steps (rest.dropWhile isShown)
    | rest => rest

/-- Skips blanks, line ends and comments. -/
def skipGap (characters : List Char) : List Char :=
  skipGapIn characters.length characters

/-! ### Strings -/

/-- Reads the given number of hexadecimal digits as a code point onto a value. -/
def codePoint? : Nat → Nat → Reader Char
  | 0, value, rest =>
    if value.isValidChar then some (Char.ofNat value, rest) else none
  | count + 1, value, character :: rest => do
    let digit ← Json.Token.hexDigit? character
    codePoint? count (value * 16 + digit) rest
  | _ + 1, _, [] => none

/-- Reads what follows a backslash. -/
def escape? : Reader Char
  | 'b' :: rest => some (Char.ofNat 8, rest)
  | 't' :: rest => some ('\t', rest)
  | 'n' :: rest => some ('\n', rest)
  | 'f' :: rest => some (Char.ofNat 12, rest)
  | 'r' :: rest => some ('\r', rest)
  | '"' :: rest => some ('"', rest)
  | '\\' :: rest => some ('\\', rest)
  | 'u' :: rest => codePoint? 4 0 rest
  | 'U' :: rest => codePoint? 8 0 rest
  | _ => none

/-- Skips the end of a line after a backslash, with all blanks and empty lines that follow. -/
def continuation? (characters : List Char) : Option (List Char) :=
  (newline? (skipBlanks characters)).map skipLines

/-- Reads a string on one line up to its closing quote. -/
def basicIn? : Nat → Reader (List Char)
  | 0, _ => none
  | steps + 1, characters =>
    match characters with
    | '"' :: rest => some ([], rest)
    | '\\' :: rest => do
      let (symbol, rest) ← escape? rest
      let (symbols, rest) ← basicIn? steps rest
      pure (symbol :: symbols, rest)
    | symbol :: rest =>
      if isShown symbol then (basicIn? steps rest).map fun (symbols, rest) => (symbol :: symbols, rest)
      else none
    | [] => none

/-- Reads a string of several lines up to its three closing quotes, before which two more may stand. -/
def basicLinesIn? : Nat → Reader (List Char)
  | 0, _ => none
  | steps + 1, characters =>
    match characters with
    | '"' :: '"' :: '"' :: '"' :: '"' :: rest => some (['"', '"'], rest)
    | '"' :: '"' :: '"' :: '"' :: rest => some (['"'], rest)
    | '"' :: '"' :: '"' :: rest => some ([], rest)
    | '\\' :: rest =>
      match continuation? rest with
      | some rest => basicLinesIn? steps rest
      | none => do
        let (symbol, rest) ← escape? rest
        let (symbols, rest) ← basicLinesIn? steps rest
        pure (symbol :: symbols, rest)
    | symbol :: rest =>
      match newline? characters with
      | some rest => (basicLinesIn? steps rest).map fun (symbols, rest) => ('\n' :: symbols, rest)
      | none =>
        if isShown symbol then
          (basicLinesIn? steps rest).map fun (symbols, rest) => (symbol :: symbols, rest)
        else none
    | [] => none

/-- Reads a string without escapes on one line up to its closing apostrophe. -/
def literal? : Reader (List Char)
  | '\'' :: rest => some ([], rest)
  | symbol :: rest =>
    if isShown symbol then (literal? rest).map fun (symbols, rest) => (symbol :: symbols, rest)
    else none
  | [] => none

/-- Reads a string of several lines without escapes up to its three closing apostrophes, before which
two more may stand. -/
def literalLines? : Reader (List Char)
  | '\'' :: '\'' :: '\'' :: '\'' :: '\'' :: rest => some (['\'', '\''], rest)
  | '\'' :: '\'' :: '\'' :: '\'' :: rest => some (['\''], rest)
  | '\'' :: '\'' :: '\'' :: rest => some ([], rest)
  | '\r' :: '\n' :: rest => (literalLines? rest).map fun (symbols, rest) => ('\n' :: symbols, rest)
  | symbol :: rest =>
    if isShown symbol ∨ symbol = '\n' then
      (literalLines? rest).map fun (symbols, rest) => (symbol :: symbols, rest)
    else none
  | [] => none

/-- A line end right after the opening quotes of several lines does not count. -/
def skipFirstNewline (characters : List Char) : List Char :=
  (newline? characters).getD characters

/-- Reads a string of one line. -/
def quoted? : Reader String
  | '"' :: rest => (basicIn? rest.length rest).map fun (symbols, rest) => (String.ofList symbols, rest)
  | '\'' :: rest => (literal? rest).map fun (symbols, rest) => (String.ofList symbols, rest)
  | _ => none

/-- Reads a string of one or several lines. -/
def string? : Reader String
  | '"' :: '"' :: '"' :: rest =>
    (basicLinesIn? rest.length (skipFirstNewline rest)).map fun (symbols, rest) =>
      (String.ofList symbols, rest)
  | '\'' :: '\'' :: '\'' :: rest =>
    (literalLines? (skipFirstNewline rest)).map fun (symbols, rest) => (String.ofList symbols, rest)
  | characters => quoted? characters

/-! ### Keys -/

/-- A character of a key without quotes. -/
def isKeyCharacter (character : Char) : Bool :=
  character.isAlphanum || character = '_' || character = '-'

/-- Reads a part of a key. -/
def keyPart? (characters : List Char) : Option (String × List Char) :=
  match quoted? characters with
  | some result => some result
  | none =>
    match characters.takeWhile isKeyCharacter with
    | [] => none
    | part => some (String.ofList part, characters.dropWhile isKeyCharacter)

/-- Reads the parts of a key with the blanks around them, in as many steps as are given. -/
def keyPartsIn? : Nat → Reader (List String)
  | 0, _ => none
  | steps + 1, characters => do
    let (part, rest) ← keyPart? (skipBlanks characters)
    match skipBlanks rest with
    | '.' :: rest =>
      let (parts, rest) ← keyPartsIn? steps rest
      pure (part :: parts, rest)
    | rest => pure ([part], rest)

/-- The number of levels that values may be nested and keys may be dotted. -/
def nestingLimit : Nat := 79

/-- Reads a dotted key as its leading parts and its last one. -/
def key? (characters : List Char) : Option ((List String × String) × List Char) := do
  let (parts, rest) ← keyPartsIn? nestingLimit characters
  let last ← parts.getLast?
  pure ((parts.dropLast, last), rest)

end CrashReporter.Toml
