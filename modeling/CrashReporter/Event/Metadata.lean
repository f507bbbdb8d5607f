/-
**Metadata: free-form values in named sections.**

Two levels of dictionaries, in which adding a null removes: a section disappears with its last key, so
that metadata built by these operations never has an empty section.
-/

import CrashReporter.Json.Basic

namespace CrashReporter

/-- Values by section and key. -/
structure Metadata where
  sections : Dictionary (Dictionary Json)

namespace Metadata

/-- No metadata. -/
def empty : Metadata := ⟨[]⟩

instance : Inhabited Metadata := ⟨empty⟩

/-- There is no section. -/
def isEmpty (metadata : Metadata) : Bool :=
  metadata.sections.isEmpty

/-- The values of a section. -/
def section? (metadata : Metadata) (heading : String) : Option (Dictionary Json) :=
  metadata.sections.find? heading

/-- The value of a key of a section. -/
def get? (metadata : Metadata) (heading key : String) : Option Json :=
  (metadata.section? heading).bind (Dictionary.find? key)

/-- Removes a section. -/
def clearSection (metadata : Metadata) (heading : String) : Metadata :=
  ⟨metadata.sections.erase heading⟩

/-- Removes a key, and its section once that is empty. -/
def clearKey (metadata : Metadata) (heading key : String) : Metadata :=
  match metadata.section? heading with
  | none => metadata
  | some values =>
    match values.erase key with
    | [] => metadata.clearSection heading
    | values => ⟨metadata.sections.insert heading values⟩

/-- Sets the value of a key; a null removes the key. -/
def add (metadata : Metadata) (heading key : String) (value : Json) : Metadata :=
  match value with
  | .null => metadata.clearKey heading key
  | value =>
    let values := (metadata.section? heading).getD []
    ⟨metadata.sections.insert heading (values.insert key value)⟩

/-- Adds every entry to a section, one by one. -/
def addSection (metadata : Metadata) (heading : String) (values : Dictionary Json) : Metadata :=
  values.foldl (fun metadata (key, value) => metadata.add heading key value) metadata

/-- Metadata as a JSON object of objects. -/
def toJson (metadata : Metadata) : Json :=
  .object (metadata.sections.map fun (name, values) => (name, .object values))

/-- Equality of metadata. -/
def same (first second : Metadata) : Bool :=
  first.toJson.same second.toJson

instance : BEq Metadata := ⟨same⟩

end Metadata

end CrashReporter
