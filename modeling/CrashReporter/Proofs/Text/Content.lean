/-
**Texts and the strings that they are made from.**

A string makes a text exactly if something stands before its first NUL, and the text then holds that
(`ofString?_eq_some_iff`). A text is made from its own content (`ofString?_content`).
-/

import CrashReporter.Text.Basic
import Mathlib.Data.List.TakeWhile

namespace CrashReporter.Text

@[ext] theorem ext {first second : Text} (same : first.content = second.content) :
    first = second := by
  cases first
  cases second
  congr

theorem ofString?_eq_none_iff (value : String) :
    ofString? value = none ↔ beforeNul value.toList = [] := by
  unfold ofString? ofCharacters?
  split
  · rename_i empty
    exact iff_of_true rfl empty
  · rename_i full
    exact iff_of_false (by simp) full

/-- A text holds what stands before the first NUL of its string. -/
theorem ofString?_eq_some_iff (value : String) (text : Text) :
    ofString? value = some text ↔ text.content.toList = beforeNul value.toList := by
  unfold ofString? ofCharacters?
  split
  · rename_i empty
    rw [empty]
    exact iff_of_false (by simp) text.nonempty
  · constructor
    · intro made
      rw [← Option.some.inj made, String.toList_ofList]
    · intro same
      congr 1
      apply Text.ext
      show String.ofList (beforeNul value.toList) = text.content
      rw [← same, String.ofList_toList]

theorem beforeNul_of_nul_free {characters : List Char} (free : nul ∉ characters) :
    beforeNul characters = characters := by
  unfold beforeNul
  rw [List.takeWhile_eq_self_iff]
  intro character member
  have other : character ≠ nul := fun same => free (same ▸ member)
  simpa using other

/-- **A text is the text of its content.** -/
@[simp] theorem ofString?_content (text : Text) : ofString? text.content = some text := by
  rw [ofString?_eq_some_iff, beforeNul_of_nul_free text.nul_free]

end CrashReporter.Text
