/-
**White space, and strings without it at the ends.**

White space is the `White_Space` property of the character database, which holds more than the
blanks of ASCII. `trim` removes it at both ends.
-/

namespace CrashReporter.Text

/-- The code points with the property `White_Space`. -/
def blankCodes : List Nat :=
  [0x9, 0xA, 0xB, 0xC, 0xD, 0x20, 0x85, 0xA0, 0x1680, 0x2000, 0x2001, 0x2002, 0x2003, 0x2004,
    0x2005, 0x2006, 0x2007, 0x2008, 0x2009, 0x200A, 0x2028, 0x2029, 0x202F, 0x205F, 0x3000]

/-- White space. -/
def isBlank (character : Char) : Bool :=
  blankCodes.contains character.toNat

/-- Removes leading white space. -/
def trimStart (characters : List Char) : List Char :=
  characters.dropWhile isBlank

/-- Removes trailing white space. -/
def trimEnd (characters : List Char) : List Char :=
  (trimStart characters.reverse).reverse

/-- Removes white space at both ends. -/
def trim (characters : List Char) : List Char :=
  trimEnd (trimStart characters)

end CrashReporter.Text
