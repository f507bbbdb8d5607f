/-
**Lists written with commas.**

`pieces` cuts a text at every separator; `splitList` reads a list of strings, with white space around
the items and any number of empty pieces.
-/

import CrashReporter.Text.Blank

namespace CrashReporter.Text

/-- The pieces between separators; a text without one is a single piece. -/
def pieces (separator : Char) : List Char → List (List Char)
  | [] => [[]]
  | character :: rest =>
    if character = separator then [] :: pieces separator rest
    else
      match pieces separator rest with
      | [] => [[character]]
      | first :: more => (character :: first) :: more

/-- The items of a list: its pieces between commas without outer white space, empty ones left out. -/
def splitList (value : String) : List String :=
  (((pieces ',' value.toList).map trim).filter (· ≠ [])).map String.ofList

end CrashReporter.Text
