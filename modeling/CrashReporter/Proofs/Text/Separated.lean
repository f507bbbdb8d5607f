/-
**Lists written with commas, and white space around what is written.**

* `trim_eq_iff`: what is left of a text without its outer white space has none at its ends, and only white space was
  taken away;
* `splitList_eq_iff`: the items read are those written: between commas, with any white space around them and any
  number of blank pieces.

`splitList_canonical`: so no item is empty, holds a comma or has outer white space, and items written with a comma
between them are read back as they are.
-/

import CrashReporter.Text.Separated
import Mathlib.Data.List.DropRight

namespace CrashReporter.Text

/-! ### White space -/

/-- Nothing but white space. -/
def IsBlankText (characters : List Char) : Prop := ∀ character ∈ characters, isBlank character

instance (characters : List Char) : Decidable (IsBlankText characters) :=
  List.decidableBAll (fun character => isBlank character) characters

/-- No white space at either end. -/
structure IsTrimmed (characters : List Char) : Prop where
  head : ∀ character ∈ characters.head?, ¬ isBlank character
  last : ∀ character ∈ characters.getLast?, ¬ isBlank character

theorem isBlankText_nil : IsBlankText [] := by simp [IsBlankText]

theorem isTrimmed_nil : IsTrimmed [] := ⟨by simp, by simp⟩

theorem trimEnd_eq (characters : List Char) : trimEnd characters = characters.rdropWhile isBlank := rfl

theorem trimStart_append {left : List Char} (blank : IsBlankText left) (characters : List Char) :
    trimStart (left ++ characters) = trimStart characters :=
  List.dropWhile_append_of_pos blank

theorem trimEnd_append {right : List Char} (blank : IsBlankText right) (characters : List Char) :
    trimEnd (characters ++ right) = trimEnd characters := by
  have reversed : IsBlankText right.reverse := fun character member => blank character (List.mem_reverse.mp member)
  unfold trimEnd
  rw [List.reverse_append, trimStart_append reversed]

/-- What begins with anything else than white space is left as it is at its beginning. -/
theorem trimStart_of_head {characters : List Char} (head : ∀ character ∈ characters.head?, ¬ isBlank character) :
    trimStart characters = characters := by
  cases characters with
  | nil => rfl
  | cons character rest => exact List.dropWhile_cons_of_neg (head character rfl)

theorem trimEnd_of_last {characters : List Char} (last : ∀ character ∈ characters.getLast?, ¬ isBlank character) :
    trimEnd characters = characters := by
  unfold trimEnd
  rw [trimStart_of_head (by rwa [List.head?_reverse]), List.reverse_reverse]

/-- White space around a text makes no difference. -/
theorem trim_append {left right characters : List Char} (before : IsBlankText left) (after : IsBlankText right)
    (trimmed : IsTrimmed characters) : trim (left ++ characters ++ right) = characters := by
  unfold trim
  rw [List.append_assoc, trimStart_append before]
  by_cases empty : characters = []
  · have nothing : trimStart right = [] := List.dropWhile_eq_nil_iff.mpr after
    rw [empty, List.nil_append, nothing]
    rfl
  · have head : (characters ++ right).head? = characters.head? := List.head?_append_of_ne_nil _ empty
    rw [trimStart_of_head (by rw [head]; exact trimmed.head), trimEnd_append after, trimEnd_of_last trimmed.last]

theorem isTrimmed_trim (characters : List Char) : IsTrimmed (trim characters) := by
  constructor
  · -- The first character of a text is that of each beginning of it.
    intro character first
    obtain ⟨rest, begun⟩ : trim characters <+: trimStart characters := List.rdropWhile_prefix isBlank _
    have head : character ∈ (trimStart characters).head? := by
      rw [← begun, List.head?_append, Option.mem_def.mp first]
      rfl
    have kept := List.head?_dropWhile_not isBlank characters
    rw [show characters.dropWhile isBlank = trimStart characters from rfl, Option.mem_def.mp head] at kept
    simpa using kept
  · intro character last
    have full : trim characters ≠ [] := by
      rintro empty
      rw [empty] at last
      simp at last
    have kept := List.rdropWhile_last_not isBlank (trimStart characters) full
    rw [List.getLast?_eq_getLast_of_ne_nil full] at last
    rwa [← Option.some.inj last]

/-- **A text is trimmed by taking white space away** from both ends until there is none. -/
theorem trim_eq_iff (characters inner : List Char) :
    trim characters = inner ↔
      IsTrimmed inner ∧ ∃ left right, IsBlankText left ∧ IsBlankText right ∧ characters = left ++ inner ++ right := by
  constructor
  · rintro rfl
    refine ⟨isTrimmed_trim characters, characters.takeWhile isBlank, (trimStart characters).rtakeWhile isBlank,
      fun _ => List.mem_takeWhile_imp, fun _ => List.mem_rtakeWhile_imp, ?_⟩
    rw [List.append_assoc]
    unfold trim
    rw [trimEnd_eq, List.rdropWhile_append_rtakeWhile]
    exact List.takeWhile_append_dropWhile.symm
  · rintro ⟨trimmed, left, right, before, after, rfl⟩
    exact trim_append before after trimmed

/-! ### Pieces -/

/-- A text is cut at every separator. -/
theorem pieces_eq_splitOn (separator : Char) (characters : List Char) :
    pieces separator characters = characters.splitOn separator := by
  induction characters with
  | nil => rfl
  | cons character rest ih =>
    rw [pieces, List.splitOn_cons_eq_if_modifyHead, ih]
    by_cases cut : character = separator
    · simp [cut]
    · obtain ⟨first, more, split⟩ := List.exists_cons_of_ne_nil (List.splitOn_ne_nil separator rest)
      rw [if_neg cut, if_neg (by simpa using cut), split, List.modifyHead_cons]

/-- No piece holds the separator. -/
theorem not_mem_of_mem_splitOn {separator : Char} {characters piece : List Char}
    (member : piece ∈ characters.splitOn separator) : separator ∉ piece := by
  induction characters generalizing piece with
  | nil => simp_all
  | cons character rest ih =>
    rw [List.splitOn_cons_eq_if_modifyHead] at member
    by_cases cut : character = separator
    · rw [if_pos (by simpa using cut)] at member
      rcases List.mem_cons.mp member with rfl | later
      · exact List.not_mem_nil
      · exact ih later
    · obtain ⟨first, more, split⟩ := List.exists_cons_of_ne_nil (List.splitOn_ne_nil separator rest)
      rw [if_neg (by simpa using cut), split, List.modifyHead_cons] at member
      rw [split] at ih
      rcases List.mem_cons.mp member with rfl | later
      · exact List.not_mem_cons_of_ne_of_not_mem (Ne.symm cut) (ih List.mem_cons_self)
      · exact ih (List.mem_cons_of_mem _ later)

/-! ### Items -/

/-- What a list may hold: something without commas and without outer white space. -/
structure IsItem (characters : List Char) : Prop where
  nonempty : characters ≠ []
  comma_free : ',' ∉ characters
  trimmed : IsTrimmed characters

/-- Pieces that write items: each is blank, or one item with white space around it. -/
inductive Writes : List (List Char) → List String → Prop where
  | nil : Writes [] []
  | blank {piece : List Char} {pieces : List (List Char)} {items : List String} :
    IsBlankText piece → Writes pieces items → Writes (piece :: pieces) items
  | item (left : List Char) (item : String) (right : List Char) {pieces : List (List Char)} {items : List String} :
    IsBlankText left → IsItem item.toList → IsBlankText right → Writes pieces items →
      Writes ((left ++ item.toList ++ right) :: pieces) (item :: items)

/-- The items of pieces. -/
def itemsOf (pieces : List (List Char)) : List String :=
  ((pieces.map trim).filter (· ≠ [])).map String.ofList

theorem itemsOf_cons_blank {piece : List Char} (blank : trim piece = []) (pieces : List (List Char)) :
    itemsOf (piece :: pieces) = itemsOf pieces := by
  simp [itemsOf, blank]

theorem itemsOf_cons_item {piece : List Char} (full : trim piece ≠ []) (pieces : List (List Char)) :
    itemsOf (piece :: pieces) = String.ofList (trim piece) :: itemsOf pieces := by
  simp [itemsOf, full]

theorem trim_eq_nil_iff (characters : List Char) : trim characters = [] ↔ IsBlankText characters := by
  rw [trim_eq_iff]
  constructor
  · rintro ⟨-, left, right, before, after, rfl⟩
    simpa [IsBlankText, or_imp, forall_and] using And.intro before after
  · intro blank
    exact ⟨isTrimmed_nil, characters, [], blank, isBlankText_nil, by simp⟩

theorem not_mem_of_isBlankText {characters : List Char} (blank : IsBlankText characters) : ',' ∉ characters :=
  fun member => absurd (blank _ member) (by decide)

/-- What pieces write is what is read of them. -/
theorem Writes.itemsOf_eq {pieces : List (List Char)} {items : List String} (written : Writes pieces items) :
    itemsOf pieces = items := by
  induction written with
  | nil => rfl
  | blank blank _ ih => rw [itemsOf_cons_blank ((trim_eq_nil_iff _).mpr blank), ih]
  | item left item right before proper after _ ih =>
    have read := trim_append before after proper.trimmed
    rw [itemsOf_cons_item (by rw [read]; exact proper.nonempty), read, String.ofList_toList, ih]

/-- Pieces that write items hold no comma. -/
theorem Writes.comma_free {pieces : List (List Char)} {items : List String} (written : Writes pieces items) :
    ∀ piece ∈ pieces, ',' ∉ piece := by
  induction written with
  | nil => simp
  | blank blank _ ih => exact List.forall_mem_cons.mpr ⟨not_mem_of_isBlankText blank, ih⟩
  | item left item right before proper after _ ih =>
    refine List.forall_mem_cons.mpr ⟨?_, ih⟩
    simp only [List.mem_append, not_or]
    exact ⟨⟨not_mem_of_isBlankText before, proper.comma_free⟩, not_mem_of_isBlankText after⟩

/-- Pieces without commas write what is read of them. -/
theorem writes_itemsOf {pieces : List (List Char)} (free : ∀ piece ∈ pieces, ',' ∉ piece) :
    Writes pieces (itemsOf pieces) := by
  induction pieces with
  | nil => exact .nil
  | cons piece pieces ih =>
    obtain ⟨here, later⟩ := List.forall_mem_cons.mp free
    by_cases blank : trim piece = []
    · rw [itemsOf_cons_blank blank]
      exact .blank ((trim_eq_nil_iff piece).mp blank) (ih later)
    · obtain ⟨trimmed, left, right, before, after, cut⟩ := (trim_eq_iff piece (trim piece)).mp rfl
      have proper : IsItem (trim piece) := by
        refine ⟨blank, fun member => here ?_, trimmed⟩
        rw [cut]
        simp [member]
      rw [itemsOf_cons_item blank]
      have item := Writes.item left (String.ofList (trim piece)) right before (by simpa using proper) after (ih later)
      rwa [String.toList_ofList, ← cut] at item

/-! ### Lists -/

theorem splitList_eq (value : String) : splitList value = itemsOf (value.toList.splitOn ',') := by
  rw [← pieces_eq_splitOn]
  rfl

/-- **The items that are read are those that are written** between commas. -/
theorem splitList_eq_iff (value : String) (items : List String) :
    splitList value = items ↔
      ∃ pieces, pieces ≠ [] ∧ value.toList = [','].intercalate pieces ∧ Writes pieces items := by
  constructor
  · rintro rfl
    refine ⟨value.toList.splitOn ',', List.splitOn_ne_nil _ _, (List.intercalate_splitOn ',').symm, ?_⟩
    rw [splitList_eq]
    exact writes_itemsOf fun piece => not_mem_of_mem_splitOn
  · rintro ⟨pieces, some_piece, joined, written⟩
    rw [splitList_eq, joined, List.splitOn_intercalate ',' written.comma_free some_piece]
    exact written.itemsOf_eq

theorem Writes.isItem {pieces : List (List Char)} {items : List String} (written : Writes pieces items) :
    ∀ item ∈ items, IsItem item.toList := by
  induction written with
  | nil => simp
  | blank _ _ ih => exact ih
  | item _ _ _ _ proper _ _ ih => exact List.forall_mem_cons.mpr ⟨proper, ih⟩

theorem isItem_of_mem_splitList {value item : String} (member : item ∈ splitList value) : IsItem item.toList := by
  obtain ⟨pieces, -, -, written⟩ := (splitList_eq_iff value _).mp rfl
  exact written.isItem item member

/-- Items write themselves. -/
theorem writes_map_toList {items : List String} (proper : ∀ item ∈ items, IsItem item.toList) :
    Writes (items.map String.toList) items := by
  induction items with
  | nil => exact .nil
  | cons item items ih =>
    obtain ⟨here, later⟩ := List.forall_mem_cons.mp proper
    have written := Writes.item [] item [] isBlankText_nil here isBlankText_nil (ih later)
    rwa [List.nil_append, List.append_nil] at written

/-- Items with a comma between them are read as they are. -/
theorem splitList_intercalate {items : List String} (proper : ∀ item ∈ items, IsItem item.toList) :
    splitList (",".intercalate items) = items := by
  rw [splitList_eq_iff]
  by_cases none : items = []
  · -- The text of no items is a single blank piece.
    subst none
    exact ⟨[[]], by simp, rfl, .blank isBlankText_nil .nil⟩
  · refine ⟨items.map String.toList, by simpa using none, ?_, writes_map_toList proper⟩
    rw [String.toList_intercalate]
    rfl

/-- **Lists are read as they are written, and are written in one canonical way.**

The items of a text are what its pieces between commas write, in that order: a blank piece writes none, and any other
one the item that it is without its outer white space. So no item is empty, holds a comma or has outer white space,
however such items are written they are read back, and the items of a text with commas between them have the same
items. -/
theorem splitList_canonical :
    (∀ value items, splitList value = items ↔
      ∃ pieces, pieces ≠ [] ∧ value.toList = [','].intercalate pieces ∧ Writes pieces items) ∧
    (∀ value, ∀ item ∈ splitList value, IsItem item.toList) ∧
    (∀ value, splitList (",".intercalate (splitList value)) = splitList value) := by
  refine ⟨splitList_eq_iff, fun value item => isItem_of_mem_splitList, fun value => ?_⟩
  exact splitList_intercalate fun item => isItem_of_mem_splitList

/-- White space inside an item stays, and the wide blank after it does not. -/
theorem splitList_canonical_blanks :
    splitList ",a b\u3000, ,\tc" = ["a b", "c"] ∧ IsItem "a b".toList ∧
      splitList (",".intercalate (splitList ",a b\u3000, ,\tc")) = splitList ",a b\u3000, ,\tc" := by
  have first : IsItem "a b".toList := ⟨by decide, by decide, by rintro _ ⟨⟩; decide, by rintro _ ⟨⟩; decide⟩
  have second : IsItem "c".toList := ⟨by decide, by decide, by rintro _ ⟨⟩; decide, by rintro _ ⟨⟩; decide⟩
  have wide : IsBlankText ['\u3000'] := by decide
  have written : Writes [[], [] ++ "a b".toList ++ ['\u3000'], [' '], ['\t'] ++ "c".toList ++ []] ["a b", "c"] :=
    .blank isBlankText_nil (.item [] "a b" ['\u3000'] isBlankText_nil first wide
      (.blank (by decide) (.item ['\t'] "c" [] (by decide) second isBlankText_nil .nil)))
  have read : splitList ",a b\u3000, ,\tc" = ["a b", "c"] :=
    (splitList_canonical.1 _ _).mpr ⟨_, by simp, by decide, written⟩
  exact ⟨read, splitList_canonical.2.1 _ "a b" (by rw [read]; simp), splitList_canonical.2.2 _⟩

end CrashReporter.Text
