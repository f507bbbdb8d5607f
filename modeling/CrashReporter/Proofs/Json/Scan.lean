/-
**Written tokens are read back.**

Two words or numerals in a row would run together, so the theorem is about sequences of tokens in which
none stand next to each other (`Token.Apart`). What is read back is not quite what was written: a control
character that has no short escape comes back as the UTF-16 unit that spells it (`Piece.readBack`), which is
the same character in the end (`Piece.characters?_readBack`).

* `scanFrom?_write`: one token is read back before anything that it cannot run together with;
* `scan?_write`: so is a whole sequence of them.
-/

import CrashReporter.Json.Token
import CrashReporter.Proofs.Json.Numeral
import Mathlib.Data.List.Chain

namespace CrashReporter.Json

/-! ### Pieces of strings -/

/-- The characters with a short escape below the blank. -/
def shortControls : List Char := [Char.ofNat 8, Char.ofNat 12, '\n', '\r', '\t']

/-- The piece as which a written piece is read. -/
def Piece.readBack : Piece → Piece
  | .character symbol =>
    if symbol.toNat < 0x20 ∧ symbol ∉ shortControls then .codeUnit symbol.toNat else .character symbol
  | .codeUnit value => .codeUnit value

/-- A unit that is no surrogate is a character of its own, whatever follows. -/
theorem Piece.characters?_codeUnit {unit : Nat} (low : unit < 0xD800) (rest : List Piece) :
    Piece.characters? (.codeUnit unit :: rest) =
      (Piece.characters? rest).map (Char.ofNat unit :: ·) := by
  have notLeading : Piece.isLeading unit = false := by
    unfold Piece.isLeading
    rw [Bool.and_eq_false_iff]
    exact .inl (decide_eq_false (by omega))
  have notTrailing : Piece.isTrailing unit = false := by
    unfold Piece.isTrailing
    rw [Bool.and_eq_false_iff]
    exact .inl (decide_eq_false (by omega))
  cases rest with
  | nil => simp [characters?, notLeading, notTrailing]
  | cons piece rest =>
    cases piece with
    | character symbol => simp [characters?, notLeading, notTrailing]
    | codeUnit other =>
      rw [characters?, if_neg (by simp [notLeading]), if_neg (by simp [notTrailing])]

/-- **Characters that are written are the same characters when they are read back.** -/
theorem Piece.characters?_readBack (characters : List Char) :
    Piece.characters? ((characters.map Piece.character).map Piece.readBack) = some characters := by
  induction characters with
  | nil => rfl
  | cons symbol characters ih =>
    rw [List.map_cons, List.map_cons, Piece.readBack]
    split_ifs with control
    · rw [characters?_codeUnit (by omega), ih, Option.map_some, Char.ofNat_toNat]
    · rw [characters?, ih, Option.map_some]

namespace Token

theorem hexDigit?_hexCharacter {digit : Nat} (small : digit < 16) :
    hexDigit? (hexCharacter digit) = some digit := by
  have all : ∀ digit < 16, hexDigit? (hexCharacter digit) = some digit := by decide
  exact all digit small

variable {found : List Token} {pieces : List Piece} {rest : List Char}

/-- A character that leads on to another place is followed by the rest from there. -/
theorem scanFrom?_cons {place after : Place} {later : List Token} {character : Char}
    (step : advance? found place character = some (later, after)) :
    scanFrom? found place (character :: rest) = scanFrom? later after rest := by
  rw [scanFrom?, step]

/-- A digit of a unit is collected. -/
theorem scanFrom?_hexCharacter {owed value digit : Nat} (small : digit < 16) :
    scanFrom? found (.codeUnit pieces owed value) (hexCharacter digit :: rest) =
      if owed ≤ 1 then scanFrom? found (.string (.codeUnit (value * 16 + digit) :: pieces)) rest
      else scanFrom? found (.codeUnit pieces (owed - 1) (value * 16 + digit)) rest := by
  rw [scanFrom?, advance?, hexDigit?_hexCharacter small]
  by_cases last : owed ≤ 1
  · simp [last]
  · simp [last]

/-- A unit is read back from its four digits. -/
theorem scanFrom?_writeUnit {value : Nat} (small : value < 0x10000) :
    scanFrom? found (.string pieces) (writeUnit value ++ rest) =
      scanFrom? found (.string (.codeUnit value :: pieces)) rest := by
  have whole : (((0 * 16 + value / 0x1000 % 16) * 16 + value / 0x100 % 16) * 16 +
      value / 0x10 % 16) * 16 + value % 16 = value := by omega
  show scanFrom? found (.codeUnit pieces 4 0) (hexCharacter (value / 0x1000 % 16) ::
    hexCharacter (value / 0x100 % 16) :: hexCharacter (value / 0x10 % 16) ::
      hexCharacter (value % 16) :: rest) = _
  rw [scanFrom?_hexCharacter (Nat.mod_lt _ (by decide)), if_neg (by decide),
    scanFrom?_hexCharacter (Nat.mod_lt _ (by decide)), if_neg (by decide),
    scanFrom?_hexCharacter (Nat.mod_lt _ (by decide)), if_neg (by decide),
    scanFrom?_hexCharacter (Nat.mod_lt _ (by decide)), if_pos (by decide), whole]

/-- A character is read back from the way it is written in a string. -/
theorem scanFrom?_writeCharacter (symbol : Char) :
    scanFrom? found (.string pieces) (writeCharacter symbol ++ rest) =
      scanFrom? found (.string (Piece.readBack (.character symbol) :: pieces)) rest := by
  by_cases escaped : symbol ∈ '"' :: '\\' :: shortControls
  · simp only [shortControls, List.mem_cons, List.not_mem_nil, or_false] at escaped
    rcases escaped with rfl | rfl | rfl | rfl | rfl | rfl | rfl <;> rfl
  · simp only [shortControls, List.mem_cons, List.not_mem_nil, or_false, not_or] at escaped
    obtain ⟨quote, backslash, backspace, formFeed, newline, carriage, tab⟩ := escaped
    rw [writeCharacter, Piece.readBack, if_neg quote, if_neg backslash, if_neg backspace, if_neg formFeed, if_neg newline,
      if_neg carriage, if_neg tab]
    by_cases control : symbol.toNat < 0x20
    · rw [if_pos control, if_pos ⟨control, by simp [shortControls, *]⟩,
        scanFrom?_writeUnit (by omega)]
    · rw [if_neg control, if_neg (fun both => control both.1)]
      refine scanFrom?_cons ?_
      rw [advance?, if_neg quote, if_neg backslash, if_neg control]

/-- The pieces of a string are read back, one by one. -/
theorem scanFrom?_writePieces {written : List Piece}
    (small : ∀ value, .codeUnit value ∈ written → value < 0x10000) :
    scanFrom? found (.string pieces) (written.flatMap writePiece ++ rest) =
      scanFrom? found (.string ((written.map Piece.readBack).reverse ++ pieces)) rest := by
  induction written generalizing pieces with
  | nil => rfl
  | cons piece written ih =>
    have others := fun value member => small value (List.mem_cons_of_mem _ member)
    have first : scanFrom? found (.string pieces)
        (writePiece piece ++ (written.flatMap writePiece ++ rest)) =
          scanFrom? found (.string (piece.readBack :: pieces)) (written.flatMap writePiece ++ rest) := by
      cases piece with
      | character symbol => exact scanFrom?_writeCharacter symbol
      | codeUnit value => exact scanFrom?_writeUnit (small value List.mem_cons_self)
    rw [List.flatMap_cons, List.append_assoc, first, ih others, List.map_cons, List.reverse_cons,
      List.append_assoc]
    rfl

/-! ### Tokens -/

/-- The token as which a written token is read. -/
def readBack : Token → Token
  | .text pieces => .text (pieces.map Piece.readBack)
  | token => token

/-- A token that can be read back: units have four digits, and numerals are those of integers. -/
def Readable : Token → Prop
  | .text pieces => ∀ value, .codeUnit value ∈ pieces → value < 0x10000
  | .numeral figure => ∃ value, figure = integerNumeral value
  | _ => True

/-- A word or a numeral, which goes on as long as it can. -/
def isBare : Token → Bool
  | .null => true
  | .bool _ => true
  | .numeral _ => true
  | _ => false

/-- Two tokens that do not run together. -/
def Apart (first second : Token) : Prop :=
  first.isBare = true → second.isBare = false

/-- No word and no numeral goes on in what follows. -/
def Ends (rest : List Char) : Prop :=
  ∀ character ∈ rest.head?, character.isAlpha = false ∧ isFigure character = false

/-- A word ends where it cannot go on. -/
theorem scanFrom?_word {letters : List Char} {token : Token} (ends : Ends rest)
    (meant : ofWord? letters.reverse = some token) :
    scanFrom? found (.word letters) rest = scanFrom? (token :: found) .gap rest := by
  cases rest with
  | nil =>
    rw [scanFrom?, finish?, meant]
    rfl
  | cons character rest =>
    obtain ⟨noLetter, _⟩ := ends character rfl
    rw [scanFrom?, advance?, if_neg (by simp [noLetter]), meant]
    rfl

/-- A numeral ends where it cannot go on. -/
theorem scanFrom?_figure {characters : List Char} {numeral : Numeral} (ends : Ends rest)
    (meant : Numeral.ofCharacters? characters.reverse = some numeral) :
    scanFrom? found (.figure characters) rest = scanFrom? (.numeral numeral :: found) .gap rest := by
  cases rest with
  | nil =>
    rw [scanFrom?, finish?, meant]
    rfl
  | cons character rest =>
    obtain ⟨_, noFigure⟩ := ends character rfl
    rw [scanFrom?, advance?, if_neg (by simp [noFigure]), meant]
    rfl

/-- The characters of a numeral are collected. -/
theorem scanFrom?_figures {written characters : List Char}
    (figures : ∀ character ∈ written, isFigure character = true) :
    scanFrom? found (.figure characters) (written ++ rest) =
      scanFrom? found (.figure (written.reverse ++ characters)) rest := by
  induction written generalizing characters with
  | nil => rfl
  | cons character written ih =>
    have others := fun other member => figures other (List.mem_cons_of_mem _ member)
    have step : advance? found (.figure characters) character =
        some (found, .figure (character :: characters)) := by
      rw [advance?, if_pos (figures character List.mem_cons_self)]
    rw [List.cons_append, scanFrom?_cons step, ih others, List.reverse_cons, List.append_assoc]
    rfl

theorem isFigure_digitCharacter {digit : Nat} (small : digit < 10) :
    isFigure (Numeral.digitCharacter digit) = true := by
  simp [isFigure, isDigit_digitCharacter small]

theorem enter?_digitCharacter {digit : Nat} (small : digit < 10) (found : List Token) :
    enter? found (Numeral.digitCharacter digit) =
      some (found, .figure [Numeral.digitCharacter digit]) := by
  interval_cases digit <;> rfl

/-- The numeral of an integer begins like a numeral and is made of figures. -/
theorem figures_integerNumeral (value : Int) :
    ∃ first more, (integerNumeral value).write = first :: more ∧
      (∀ found, enter? found first = some (found, .figure [first])) ∧
      ∀ character ∈ more, isFigure character = true := by
  have figures : ∀ character ∈ (decimalDigits value.natAbs).map Numeral.digitCharacter,
      isFigure character = true := by
    intro character member
    obtain ⟨digit, listed, rfl⟩ := List.mem_map.mp member
    exact isFigure_digitCharacter (lt_ten_of_mem_decimalDigits listed)
  rw [write_integerNumeral]
  by_cases negative : value < 0
  · rw [if_pos negative]
    exact ⟨'-', _, rfl, fun _ => rfl, figures⟩
  · rw [if_neg negative]
    cases digits : decimalDigits value.natAbs with
    | nil => exact absurd digits (decimalDigits_ne_nil _)
    | cons first more =>
      have small : first < 10 := lt_ten_of_mem_decimalDigits (digits ▸ List.mem_cons_self)
      rw [digits] at figures
      exact ⟨_, _, rfl, enter?_digitCharacter small,
        fun character member => figures character (List.mem_cons_of_mem _ member)⟩

/-- A token is read back before anything that it cannot run together with. -/
theorem scanFrom?_write {token : Token} (readable : token.Readable)
    (ends : token.isBare = true → Ends rest) :
    scanFrom? found .gap (token.write ++ rest) = scanFrom? (token.readBack :: found) .gap rest := by
  cases token with
  | null => exact scanFrom?_word (ends rfl) rfl
  | bool value =>
    cases value with
    | true => exact scanFrom?_word (ends rfl) rfl
    | false => exact scanFrom?_word (ends rfl) rfl
  | numeral figure =>
    obtain ⟨value, rfl⟩ := readable
    obtain ⟨first, more, written, begins, figures⟩ := figures_integerNumeral value
    have read := ofCharacters?_integerNumeral value
    have step : advance? found .gap first = some (found, .figure [first]) := begins found
    rw [written] at read
    show scanFrom? found .gap ((integerNumeral value).write ++ rest) = _
    rw [written, List.cons_append, scanFrom?_cons step, scanFrom?_figures figures]
    exact scanFrom?_figure (ends rfl) (by simpa using read)
  | text pieces =>
    show scanFrom? found (.string []) (pieces.flatMap writePiece ++ ['"'] ++ rest) = _
    rw [List.append_assoc, scanFrom?_writePieces readable, List.append_nil]
    refine scanFrom?_cons ?_
    rw [advance?, if_pos rfl, List.reverse_reverse]
    rfl
  | openArray => rfl
  | closeArray => rfl
  | openObject => rfl
  | closeObject => rfl
  | comma => rfl
  | colon => rfl

/-- What is no word and no numeral ends one. -/
theorem ends_write {token : Token} (closed : token.isBare = false) : Ends (token.write ++ rest) := by
  intro character first
  cases token with
  | null => cases closed
  | bool value => cases closed
  | numeral figure => cases closed
  | _ =>
    cases first
    exact ⟨rfl, rfl⟩

/-- **A sequence of tokens is read back**, if they are readable and no two neighbours run together. -/
theorem scan?_write {tokens : List Token} (readable : ∀ token ∈ tokens, token.Readable)
    (apart : tokens.IsChain Apart) :
    scan? (tokens.flatMap write) = some (tokens.map readBack) := by
  have onward (found : List Token) :
      scanFrom? found .gap (tokens.flatMap write) = some (found.reverse ++ tokens.map readBack) := by
    -- Every token is found before the later ones, so that what was found before stays general.
    induction tokens generalizing found with
    | nil =>
      rw [List.map_nil, List.append_nil]
      rfl
    | cons token tokens ih =>
      have ends (bare : token.isBare = true) : Ends (tokens.flatMap write) := by
        cases tokens with
        | nil =>
          intro character first
          cases first
        | cons next tokens => exact ends_write ((List.isChain_cons_cons.mp apart).1 bare)
      have others := ih (fun other member => readable other (List.mem_cons_of_mem _ member))
        apart.tail
      rw [List.flatMap_cons, scanFrom?_write (readable token List.mem_cons_self) ends, others,
        List.reverse_cons, List.append_assoc]
      rfl
  exact onward []

end Token

end CrashReporter.Json
