/-
**Texts: strings that a native reader sees whole.**

A `Text` is never empty and holds no NUL, so that its octets followed by a single NUL (`stored`)
are both its content and a C string.

* `ofString?` keeps what stands before the first NUL and refuses an empty rest;
* `ofOctets?` reads the octets of a C string, well formed or not;
* `compare` orders texts by their stored octets.
-/

import CrashReporter.Text.Utf8

namespace CrashReporter

/-- The character that ends a C string. -/
def nul : Char := Char.ofNat 0

/-- A non-empty string without NUL. -/
structure Text where
  /-- The characters before the terminator. -/
  content : String
  /-- A text is never empty: an empty field is an absent one. -/
  nonempty : content.toList ≠ []
  /-- The only NUL is the terminator. -/
  nul_free : nul ∉ content.toList
  deriving DecidableEq

namespace Text

/-- What stands before the first NUL. -/
def beforeNul (characters : List Char) : List Char :=
  characters.takeWhile (· ≠ nul)

theorem nul_not_mem_beforeNul (characters : List Char) : nul ∉ beforeNul characters := by
  intro member
  have kept := List.all_takeWhile (p := (· ≠ nul)) (l := characters)
  rw [List.all_eq_true] at kept
  simpa using kept nul member

/-- The text before the first NUL; none if nothing stands there. -/
def ofCharacters? (characters : List Char) : Option Text :=
  if nonempty : beforeNul characters = [] then none
  else some {
    content := String.ofList (beforeNul characters)
    nonempty := by simpa using nonempty
    nul_free := by simpa using nul_not_mem_beforeNul characters }

/-- The text before the first NUL of a string; none if nothing stands there. -/
def ofString? (value : String) : Option Text :=
  ofCharacters? value.toList

/-- The octets of a C string: what stands before the first NUL. -/
def cString (octets : List UInt8) : List UInt8 :=
  octets.takeWhile (· ≠ 0)

/-- The text of a C string. Ill-formed pieces are replaced, so no octet makes it fail; only an
empty C string is no text. -/
def ofOctets? (octets : List UInt8) : Option Text :=
  ofCharacters? (Utf8.decodeLossy (cString octets))

/-- The text of an optional string: an absent, an empty and a NUL-led one are all absent. -/
def ofOption? (value : Option String) : Option Text :=
  value.bind ofString?

/-- The octets behind a text's address: its content and one NUL. -/
def stored (text : Text) : List UInt8 :=
  Utf8.encode text.content.toList ++ [0]

/-- Texts are ordered by their stored octets. -/
def compare (first second : Text) : Ordering :=
  List.compareLex Ord.compare first.stored second.stored

instance : Ord Text := ⟨Text.compare⟩

instance : ToString Text := ⟨Text.content⟩

end Text

end CrashReporter
