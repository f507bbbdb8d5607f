/-
**What lasts of the sections of metadata.**

`SectionsAre` says that sections are in order and that each of them is as told. What is told lasts if it survives
the removal of a key and the setting of a value in a section (`Lasting`); then every operation on metadata keeps
it: `SectionsAre.add`, `SectionsAre.addSection`, `SectionsAre.clearKey`, `SectionsAre.clearSection`.
-/

import CrashReporter.Event.Metadata
import CrashReporter.Proofs.Dictionary.Ordered

namespace CrashReporter.Metadata

variable {metadata : Metadata} {told : Dictionary Json → Prop} {fits : Json → Prop}

/-- The sections are in order, and each of them is as told. -/
structure SectionsAre (told : Dictionary Json → Prop) (metadata : Metadata) : Prop where
  ordered : metadata.sections.Ordered
  each : ∀ entry ∈ metadata.sections, told entry.2

/-- What is told of a section stays true when a key is removed and others are left, and when a value that fits is
set, be it the first one. -/
structure Lasting (fits : Json → Prop) (told : Dictionary Json → Prop) : Prop where
  erase : ∀ (values : Dictionary Json) (key : String), told values → values.erase key ≠ [] →
    told (values.erase key)
  insert : ∀ (values : Dictionary Json) (key : String) (value : Json), values = [] ∨ told values →
    fits value → told (values.insert key value)

namespace SectionsAre

theorem empty (told : Dictionary Json → Prop) : SectionsAre told .empty :=
  ⟨.nil, fun _ member => absurd member List.not_mem_nil⟩

theorem section? (are : SectionsAre told metadata) {heading : String} {values : Dictionary Json}
    (found : metadata.section? heading = some values) : told values :=
  are.each (heading, values) (Dictionary.mem_of_find? found)

theorem insert (are : SectionsAre told metadata) (heading : String) {values : Dictionary Json}
    (kept : told values) : SectionsAre told ⟨metadata.sections.insert heading values⟩ := by
  refine ⟨Dictionary.insert_ordered are.ordered, fun entry member => ?_⟩
  rcases Dictionary.mem_insert member with rfl | before
  · exact kept
  · exact are.each entry before

theorem clearSection (are : SectionsAre told metadata) (heading : String) :
    SectionsAre told (metadata.clearSection heading) :=
  ⟨Dictionary.erase_ordered heading are.ordered, fun entry member =>
    are.each entry ((Dictionary.erase_sublist heading metadata.sections).subset member)⟩

variable (lasting : Lasting fits told)

include lasting

theorem clearKey (are : SectionsAre told metadata) (heading key : String) :
    SectionsAre told (metadata.clearKey heading key) := by
  unfold Metadata.clearKey
  split
  · exact are
  · next values found =>
    split
    · exact are.clearSection heading
    · next left =>
      apply are.insert heading
      exact lasting.erase values key (are.section? found) left

/-- Setting a value keeps what lasts of the sections, if the value fits or is a null, which removes the key. -/
theorem add (are : SectionsAre told metadata) (heading key : String) {value : Json}
    (fitting : value ≠ .null → fits value) : SectionsAre told (metadata.add heading key value) := by
  unfold Metadata.add
  split
  · exact are.clearKey lasting heading key
  · next live =>
    apply are.insert heading
    refine lasting.insert _ key value ?_ (fitting live)
    cases found : metadata.section? heading with
    | none => exact .inl rfl
    | some values => exact .inr (are.section? found)

theorem addSection (are : SectionsAre told metadata) (heading : String) {values : Dictionary Json}
    (fitting : ∀ entry ∈ values, entry.2 ≠ .null → fits entry.2) :
    SectionsAre told (metadata.addSection heading values) := by
  induction values generalizing metadata with
  | nil => exact are
  | cons entry values ih =>
    obtain ⟨first, rest⟩ := List.forall_mem_cons.mp fitting
    exact ih (are.add lasting heading entry.1 first) rest

end SectionsAre

end CrashReporter.Metadata
