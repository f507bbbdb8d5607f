/-
**Metadata is a finite map from pairs of section and key, without empty sections.**

`Pairs` is that map, and `Pairs.after` what an operation makes of it: a null leaves nothing under its pair,
anything else takes the place of what was there, and a section goes with all its pairs.

* `get?_apply`: an operation on metadata in order is seen as the operation on its pairs;
* `ordered_lasting`, `isTidy_lasting`: it lasts of the sections that they are in order, and that none of them holds
  a null or nothing;
* `applyAll_shows`: after any operations on empty metadata, its sections are what the pairs say.
-/

import CrashReporter.Proofs.Dictionary.Lookup
import CrashReporter.Proofs.Event.Sections
import CrashReporter.Proofs.Text.Octets

namespace CrashReporter

/-- A value as it stays under a key: a null does not. -/
def Json.live? : Json → Option Json
  | .null => none
  | value => some value

namespace Metadata

/-! ## Part 1 — operations and pairs -/

/-- What may be done to metadata. -/
inductive Operation where
  | add (heading key : String) (value : Json)
  | addSection (heading : String) (values : Dictionary Json) (ordered : values.Ordered)
  | clearKey (heading key : String)
  | clearSection (heading : String)

variable (metadata : Metadata)

/-- Does an operation. -/
def apply : Operation → Metadata
  | .add heading key value => metadata.add heading key value
  | .addSection heading values _ => metadata.addSection heading values
  | .clearKey heading key => metadata.clearKey heading key
  | .clearSection heading => metadata.clearSection heading

/-- Does one operation after the other. -/
def applyAll (operations : List Operation) : Metadata :=
  operations.foldl apply metadata

/-- What stands under each pair of section and key. -/
abbrev Pairs := String → String → Option Json

namespace Pairs

/-- Nothing stands under any pair. -/
def empty : Pairs := fun _ _ => none

/-- The pairs after an operation. -/
def after (pairs : Pairs) : Operation → Pairs
  | .add heading key value => fun other name =>
    if heading = other ∧ key = name then value.live? else pairs other name
  | .addSection heading values _ => fun other name =>
    if heading = other then
      match values.find? name with
      | some value => value.live?
      | none => pairs other name
    else pairs other name
  | .clearKey heading key => fun other name =>
    if heading = other ∧ key = name then none else pairs other name
  | .clearSection heading => fun other name => if heading = other then none else pairs other name

/-- The pairs after one operation and then the others. -/
def afterAll (pairs : Pairs) (operations : List Operation) : Pairs :=
  operations.foldl after pairs

end Pairs

/-! ## Part 2 — what the sections are -/

variable {metadata : Metadata} {told : Dictionary Json → Prop}

/-- **Every operation keeps what lasts of the sections** when values other than nulls are set. -/
theorem SectionsAre.apply (lasting : Lasting (· ≠ .null) told) (are : SectionsAre told metadata)
    (operation : Operation) : SectionsAre told (metadata.apply operation) := by
  cases operation with
  | add heading key value => exact are.add lasting heading key id
  | addSection heading values _ => exact are.addSection lasting heading fun _ _ => id
  | clearKey heading key => exact are.clearKey lasting heading key
  | clearSection heading => exact are.clearSection heading

/-- The sections are in order, and so are their keys. -/
abbrev InOrder : Metadata → Prop := SectionsAre Dictionary.Ordered

theorem ordered_lasting : Lasting (· ≠ .null) Dictionary.Ordered := by
  refine ⟨fun values key ordered _ => Dictionary.erase_ordered key ordered,
    fun values key value fits _ => Dictionary.insert_ordered ?_⟩
  rcases fits with rfl | ordered
  · exact .nil
  · exact ordered

/-- A section as operations leave it: in order, with at least one key, and without nulls. -/
structure IsTidy (values : Dictionary Json) : Prop where
  ordered : values.Ordered
  filled : values ≠ []
  live : ∀ entry ∈ values, entry.2 ≠ .null

theorem isTidy_lasting : Lasting (· ≠ .null) IsTidy := by
  refine ⟨fun values key tidy left => ?_, fun values key value fits live => ?_⟩
  · exact ⟨Dictionary.erase_ordered key tidy.ordered, left, fun entry member =>
      tidy.live entry ((Dictionary.erase_sublist key values).subset member)⟩
  · have set : (values.insert key value).find? key = some value := by
      rw [Dictionary.find?_insert, if_pos rfl]
    refine ⟨ordered_lasting.insert values key value (fits.imp_right IsTidy.ordered) live, ?_,
      fun entry member => ?_⟩
    · intro empty
      rw [empty] at set
      cases set
    · rcases Dictionary.mem_insert member with rfl | before
      · exact live
      · rcases fits with rfl | tidy
        · cases before
        · exact tidy.live entry before

/-! ## Part 3 — one operation -/

theorem get?_eq (metadata : Metadata) (heading key : String) :
    metadata.get? heading key = ((metadata.section? heading).getD []).find? key := by
  unfold get?
  cases metadata.section? heading <;> rfl

theorem get?_of_missing {heading : String} (missing : metadata.section? heading = none) (key : String) :
    metadata.get? heading key = none := by
  rw [get?_eq, missing]
  rfl

theorem get?_of_found {heading : String} {values : Dictionary Json}
    (found : metadata.section? heading = some values) (key : String) :
    metadata.get? heading key = values.find? key := by
  rw [get?_eq, found]
  rfl

theorem get?_insert (metadata : Metadata) (heading other key : String) (values : Dictionary Json) :
    get? ⟨metadata.sections.insert heading values⟩ other key =
      if heading = other then values.find? key else metadata.get? other key := by
  unfold get? section?
  rw [Dictionary.find?_insert]
  split <;> rfl

variable (ordered : metadata.InOrder)

include ordered

theorem get?_clearSection (heading other key : String) :
    (metadata.clearSection heading).get? other key =
      if heading = other then none else metadata.get? other key := by
  unfold get? section? clearSection
  rw [Dictionary.find?_erase ordered.ordered]
  split <;> rfl

theorem get?_clearKey (heading key other name : String) :
    (metadata.clearKey heading key).get? other name =
      if heading = other ∧ key = name then none else metadata.get? other name := by
  unfold clearKey
  cases found : metadata.section? heading with
  | none =>
    by_cases same : heading = other ∧ key = name
    · rw [if_pos same, ← same.1, get?_of_missing found]
    · rw [if_neg same]
  | some values =>
    have left : (values.erase key).find? name = if key = name then none else values.find? name :=
      Dictionary.find?_erase (ordered.section? found) key name
    have seen {result : Metadata} (shown : result.get? other name =
        if heading = other then (values.erase key).find? name else metadata.get? other name) :
        result.get? other name = if heading = other ∧ key = name then none else metadata.get? other name := by
      rw [shown, left]
      by_cases same : heading = other
      · simp [← same, get?_of_found found]
      · simp [same]
    dsimp only
    split
    -- A section that is left with nothing is removed: no other key had a value in it.
    · next empty =>
      apply seen
      rw [get?_clearSection ordered, empty]
      rfl
    · apply seen
      rw [get?_insert]

theorem get?_add (heading key other name : String) (value : Json) :
    (metadata.add heading key value).get? other name =
      if heading = other ∧ key = name then value.live? else metadata.get? other name := by
  unfold add
  split
  · exact get?_clearKey ordered heading key other name
  · next live =>
    have kept : value.live? = some value := by
      cases value with
      | null => exact absurd rfl live
      | _ => rfl
    rw [get?_insert, Dictionary.find?_insert, ← get?_eq, kept]
    by_cases same : heading = other
    · simp [same]
    · simp [same]

theorem get?_addSection (heading other name : String) {values : Dictionary Json}
    (keys : values.Ordered) :
    (metadata.addSection heading values).get? other name =
      if heading = other then
        match values.find? name with
        | some value => value.live?
        | none => metadata.get? other name
      else metadata.get? other name := by
  induction values generalizing metadata with
  | nil => simp [addSection]
  | cons entry values ih =>
    obtain ⟨key, value⟩ := entry
    obtain ⟨least, later⟩ := Dictionary.ordered_cons.mp keys
    have step : metadata.addSection heading ((key, value) :: values) =
        (metadata.add heading key value).addSection heading values := rfl
    rw [step, ih (ordered.add ordered_lasting heading key id) later, get?_add ordered,
      Dictionary.find?_cons]
    by_cases same : heading = other
    · by_cases found : key = name
      · rw [← found, Dictionary.find?_of_lt least]
        simp [same]
      · simp [same, found]
    · simp [same]

/-- **An operation is seen as the operation on the pairs.** -/
theorem get?_apply (operation : Operation) :
    (metadata.apply operation).get? = Pairs.after metadata.get? operation := by
  funext other name
  cases operation with
  | add heading key value => exact get?_add ordered heading key other name value
  | addSection heading values keys => exact get?_addSection ordered heading other name keys
  | clearKey heading key => exact get?_clearKey ordered heading key other name
  | clearSection heading => exact get?_clearSection ordered heading other name

omit ordered

/-! ## Part 4 — any number of operations -/

theorem SectionsAre.applyAll (lasting : Lasting (· ≠ .null) told) (are : SectionsAre told metadata)
    (operations : List Operation) : SectionsAre told (metadata.applyAll operations) := by
  induction operations generalizing metadata with
  | nil => exact are
  | cons operation operations ih => exact ih (are.apply lasting operation)

/-- **Operations are seen as the operations on the pairs.** -/
theorem get?_applyAll (ordered : metadata.InOrder) (operations : List Operation) :
    (metadata.applyAll operations).get? = Pairs.afterAll metadata.get? operations := by
  induction operations generalizing metadata with
  | nil => rfl
  | cons operation operations ih =>
    show ((metadata.apply operation).applyAll operations).get? = _
    rw [ih (ordered.apply ordered_lasting operation), get?_apply ordered]
    rfl

/-- What is listed is what the pairs say: a section is there if a value stands under one of its keys, and
then holds these values and no others. -/
structure Shows (metadata : Metadata) (pairs : Pairs) : Prop where
  get : ∀ heading key, metadata.get? heading key = pairs heading key
  absent : ∀ heading, metadata.section? heading = none ↔ ∀ key, pairs heading key = none
  present : ∀ heading values, metadata.section? heading = some values ↔
    values ≠ [] ∧ values.Ordered ∧
      ∀ key value, (key, value) ∈ values ↔ pairs heading key = some value
  isEmpty : metadata.isEmpty = true ↔ ∀ heading key, pairs heading key = none
  listed : ∀ heading values,
    (heading, values) ∈ metadata.sections ↔ metadata.section? heading = some values
  headings : ∀ heading, heading ∈ metadata.sections.keys ↔ ∃ key value, pairs heading key = some value
  /-- Sections are listed in the order of the octets of their names. -/
  sorted : metadata.sections.keys.Pairwise fun first second =>
    Utf8.encode first.toList < Utf8.encode second.toList
  filled : ∀ entry ∈ metadata.sections, entry.2 ≠ []
  live : ∀ entry ∈ metadata.sections, ∀ pair ∈ entry.2, pair.2 ≠ .null

namespace SectionsAre

variable (tidy : SectionsAre IsTidy metadata)

include tidy

/-- A section is missing if nothing can be read in it. -/
theorem section?_eq_none_iff (heading : String) :
    metadata.section? heading = none ↔ ∀ key, metadata.get? heading key = none := by
  cases found : metadata.section? heading with
  | none => exact iff_of_true rfl (get?_of_missing found)
  | some values =>
    refine iff_of_false nofun fun nothing => (tidy.section? found).filled ?_
    rw [Dictionary.eq_nil_iff]
    intro key
    rw [← get?_of_found found, nothing]

/-- A section holds what can be read in it, if that is anything. -/
theorem section?_eq_some_iff (heading : String) (values : Dictionary Json) :
    metadata.section? heading = some values ↔ values ≠ [] ∧ values.Ordered ∧
      ∀ key value, (key, value) ∈ values ↔ metadata.get? heading key = some value := by
  constructor
  · intro found
    have sound := tidy.section? found
    refine ⟨sound.filled, sound.ordered, fun key value => ?_⟩
    rw [get?_of_found found, Dictionary.find?_eq_some_iff sound.ordered]
  · rintro ⟨filled, ordered, holds⟩
    cases found : metadata.section? heading with
    | none =>
      obtain ⟨⟨key, value⟩, rest, rfl⟩ := List.exists_cons_of_ne_nil filled
      have read := (holds key value).mp List.mem_cons_self
      rw [get?_of_missing found] at read
      cases read
    | some stored =>
      apply congrArg some
      apply Dictionary.eq_of_find? (tidy.section? found).ordered ordered
      intro key
      ext value
      rw [Dictionary.find?_eq_some_iff ordered, holds, get?_of_found found]

/-- The sections that are listed are those in which something can be read. -/
theorem mem_headings_iff (heading : String) :
    heading ∈ metadata.sections.keys ↔ ∃ key value, metadata.get? heading key = some value := by
  have something : (∃ key value, metadata.get? heading key = some value) ↔
      ¬ ∀ key, metadata.get? heading key = none := by
    simp only [not_forall, ← Ne.eq_def, Option.ne_none_iff_exists']
  rw [something, ← tidy.section?_eq_none_iff, Dictionary.mem_keys_iff, Option.isSome_iff_ne_none]
  rfl

/-- **Tidy metadata shows what can be read of it.** -/
theorem shows : metadata.Shows metadata.get? where
  get _ _ := rfl
  absent := tidy.section?_eq_none_iff
  present := tidy.section?_eq_some_iff
  isEmpty := by
    rw [Metadata.isEmpty, List.isEmpty_iff, Dictionary.eq_nil_iff]
    exact forall_congr' tidy.section?_eq_none_iff
  listed _ _ := (Dictionary.find?_eq_some_iff tidy.ordered).symm
  headings := tidy.mem_headings_iff
  sorted := by
    apply List.Pairwise.imp _ tidy.ordered
    intro first second before
    exact (Utf8.encode_lt_iff first second).mpr before
  filled entry member := (tidy.each entry member).filled
  live entry member := (tidy.each entry member).live

end SectionsAre

/-- **Metadata is a finite map from pairs of section and key.** After any operations on empty metadata, its
sections are what the same operations make of the pairs. -/
theorem applyAll_shows (operations : List Operation) :
    (empty.applyAll operations).Shows (Pairs.empty.afterAll operations) := by
  have tidy : SectionsAre IsTidy (empty.applyAll operations) :=
    (SectionsAre.empty IsTidy).applyAll isTidy_lasting operations
  have seen := get?_applyAll (SectionsAre.empty Dictionary.Ordered) operations
  have nothing : empty.get? = Pairs.empty := rfl
  rw [nothing] at seen
  rw [← seen]
  exact tidy.shows

/-- A null empties the section, and the next entry brings it back. -/
example : (empty.applyAll [.add "a" "first" (.bool true), .addSection "a"
    [("first", .null), ("second", .bool false)] (List.pairwise_pair.mpr (by decide))]).sections =
      [("a", [("second", .bool false)])] := rfl

end Metadata

end CrashReporter
