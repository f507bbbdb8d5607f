/-
**The members of written records.**

* `AppInfo.toJson_eq` and its like: a record is written as its members under the declared names, of which
  the last may be left out;
* `Json.IsPlain`: members without anything inside; an app, a user and an error have no others;
* `EventRecord.Whole`, `EventRecord.Ordered`: what holds of the metadata of an event and of its breadcrumbs;
* `EventRecord.toJson_whole_iff`, `EventRecord.toJson_depth_le_iff`: whether an event is written without
  doubles, and how deep it is nested, is up to that metadata.
-/

import CrashReporter.Event.Decode
import CrashReporter.Proofs.Json.Shape

namespace CrashReporter

/-! ### Members under declared names -/

theorem Decode.members?_eq (members : List (List Json.Piece × Json.Node)) :
    members? members = members.mapM fun member =>
      (Json.pieces? member.1).map (·, member.2) := by
  induction members with
  | nil => rfl
  | cons member members ih =>
    obtain ⟨pieces, node⟩ := member
    rw [members?, ih, List.mapM_cons]
    cases Json.pieces? pieces <;> rfl

namespace Json

theorem forall_zip {names : List String} {values : List Json} (told : Json → Prop)
    (fits : values.length ≤ names.length) :
    (∀ member ∈ names.zip values, told member.2) ↔ ∀ value ∈ values, told value := by
  have all : (names.zip values).map Prod.snd = values := List.map_snd_zip fits
  rw [← List.forall_mem_map, all]

theorem whole_zip {names : List String} {values : List Json} (fits : values.length ≤ names.length) :
    (Json.object (names.zip values)).Whole ↔ ∀ value ∈ values, value.Whole := by
  rw [← forall_zip Whole fits]
  exact (everywhere_object _).trans (and_iff_right trivial)

theorem depth_zip_le_iff {names : List String} {values : List Json}
    (fits : values.length ≤ names.length) (levels : Nat) :
    (Json.object (names.zip values)).depth ≤ levels + 1 ↔ ∀ value ∈ values, value.depth ≤ levels := by
  rw [depth_object_le_iff]
  exact forall_zip (fun value => value.depth ≤ levels) fits

/-- A value has nothing inside and is no double. -/
inductive IsPlain : Json → Prop where
  | null : IsPlain .null
  | bool (value : Bool) : IsPlain (.bool value)
  | integer (value : Int) (fits : -0x8000000000000000 ≤ value ∧ value < 0x10000000000000000) :
    IsPlain (.number (.integer value fits))
  | string (value : String) : IsPlain (.string value)

theorem IsPlain.whole {value : Json} (plain : value.IsPlain) : value.Whole := by
  cases plain <;> trivial

theorem IsPlain.depth_le {value : Json} (plain : value.IsPlain) (levels : Nat) :
    value.depth ≤ levels := by
  cases plain <;> exact Nat.zero_le levels

theorem ofInt_plain (value : Int) : (Json.ofInt value).IsPlain := by
  unfold Json.ofInt Number.ofInt?
  split_ifs with fits
  · exact .integer value fits
  · exact .null

theorem ofOption_plain {α : Type} (encode : α → Json) (plain : ∀ content, (encode content).IsPlain)
    (value : Option α) : (Json.ofOption encode value).IsPlain := by
  cases value with
  | none => exact .null
  | some content => exact plain content

theorem optionalText_plain : ∀ value, (Json.ofOption .ofText value).IsPlain :=
  ofOption_plain .ofText fun text => .string text.content

/-- A value holds no double, and nothing with something inside. -/
structure IsFlat (value : Json) : Prop where
  whole : value.Whole
  shallow : value.depth ≤ 1

theorem flat_zip {names : List String} {values : List Json} (fits : values.length ≤ names.length)
    (plain : ∀ value ∈ values, value.IsPlain) : (Json.object (names.zip values)).IsFlat :=
  ⟨(whole_zip fits).mpr fun value member => (plain value member).whole,
    (depth_zip_le_iff fits 0).mpr fun value member => (plain value member).depth_le 0⟩

end Json

/-! ### Records -/

/-- A span without its nanoseconds. -/
def Duration.inWholeSeconds (span : Duration) : Duration := .ofSeconds span.seconds

namespace AppInfo

/-- The members of a written app, in declared order. -/
def values (app : AppInfo) : List Json :=
  [.ofOption .ofText app.binaryArch, .ofOption .ofText app.buildUuid, .ofOption .ofText app.id,
    .ofOption .ofText app.releaseStage, .ofOption .ofText app.type, .ofOption .ofText app.version,
    .ofOption (fun code => .ofInt code.toInt) app.versionCode,
    .ofOption (fun span => .ofInt span.seconds.toNat) app.duration,
    .ofOption (fun span => .ofInt span.seconds.toNat) app.durationInForeground,
    .ofOption .bool app.inForeground]

theorem toJson_eq (app : AppInfo) : app.toJson = .object (Decode.appNames.zip app.values) := rfl

theorem toJson_flat (app : AppInfo) : app.toJson.IsFlat := by
  rw [toJson_eq]
  refine Json.flat_zip (by simp [values, Decode.appNames]) ?_
  have span := Json.ofOption_plain (fun span : Duration => .ofInt span.seconds.toNat) fun _ =>
    Json.ofInt_plain _
  have code := Json.ofOption_plain (fun code : Int32 => .ofInt code.toInt) fun _ =>
    Json.ofInt_plain _
  have flag := Json.ofOption_plain Json.bool .bool
  simp only [values, List.forall_mem_cons, Json.optionalText_plain, span, code, flag,
    List.not_mem_nil, true_and, false_implies, implies_true]

/-- An app with its durations in whole seconds. -/
def inWholeSeconds (app : AppInfo) : AppInfo :=
  { app with
    duration := app.duration.map Duration.inWholeSeconds
    durationInForeground := app.durationInForeground.map Duration.inWholeSeconds }

end AppInfo

namespace UserInfo

/-- The members of a written user, in declared order. -/
def values (user : UserInfo) : List Json :=
  [.ofOption .ofText user.id, .ofOption .ofText user.email, .ofOption .ofText user.name]

theorem toJson_eq (user : UserInfo) : user.toJson = .object (Decode.userNames.zip user.values) := rfl

theorem toJson_flat (user : UserInfo) : user.toJson.IsFlat := by
  rw [toJson_eq]
  refine Json.flat_zip (Nat.le_of_eq rfl) ?_
  simp only [values, List.forall_mem_cons, Json.optionalText_plain, List.not_mem_nil, true_and,
    false_implies, implies_true]

end UserInfo

namespace ErrorInfo

/-- The members of a written error, in declared order. -/
def values (error : ErrorInfo) : List Json :=
  [.ofText error.errorClass, .ofOption .ofText error.message]

theorem toJson_eq (error : ErrorInfo) :
    error.toJson = .object (Decode.errorNames.zip error.values) := rfl

theorem toJson_flat (error : ErrorInfo) : error.toJson.IsFlat := by
  rw [toJson_eq]
  refine Json.flat_zip (Nat.le_of_eq rfl) ?_
  have given : (Json.ofText error.errorClass).IsPlain := .string _
  simp only [values, List.forall_mem_cons, Json.optionalText_plain, given, List.not_mem_nil,
    true_and, false_implies, implies_true]

end ErrorInfo

namespace Breadcrumb

/-- The members of a written breadcrumb, in declared order. -/
def values (breadcrumb : Breadcrumb) : List Json :=
  [.string breadcrumb.timestamp.write, .ofText breadcrumb.message, .string breadcrumb.kind.name] ++
    if breadcrumb.metadata.isEmpty then [] else [.object breadcrumb.metadata]

theorem toJson_eq (breadcrumb : Breadcrumb) :
    breadcrumb.toJson = .object (Decode.breadcrumbNames.zip breadcrumb.values) := by
  unfold toJson values
  split <;> rfl

theorem values_length_le (breadcrumb : Breadcrumb) :
    breadcrumb.values.length ≤ Decode.breadcrumbNames.length := by
  unfold values
  split <;> exact Nat.le_of_ble_eq_true rfl

/-- Of the members of a breadcrumb, only the metadata is not plain. -/
theorem forall_values_iff {told : Json → Prop} (plain : ∀ value : Json, value.IsPlain → told value)
    (breadcrumb : Breadcrumb) : (∀ value ∈ breadcrumb.values, told value) ↔
      breadcrumb.metadata = [] ∨ told (.object breadcrumb.metadata) := by
  have string (content : String) : told (.string content) := plain _ (.string content)
  have text (text : Text) : told (.ofText text) := plain _ (.string text.content)
  unfold values
  by_cases bare : breadcrumb.metadata = []
  · simp [bare, string, text]
  · simp [bare, string, text]

theorem toJson_whole_iff (breadcrumb : Breadcrumb) :
    breadcrumb.toJson.Whole ↔ (Json.object breadcrumb.metadata).Whole := by
  rw [toJson_eq, Json.whole_zip breadcrumb.values_length_le,
    forall_values_iff (fun _ plain => plain.whole), or_iff_right_of_imp]
  intro bare
  rw [bare]
  exact ⟨trivial, trivial⟩

theorem toJson_depth_le_iff (breadcrumb : Breadcrumb) (levels : Nat) :
    breadcrumb.toJson.depth ≤ levels + 1 ↔
      breadcrumb.metadata = [] ∨ (Json.object breadcrumb.metadata).depth ≤ levels := by
  rw [toJson_eq, Json.depth_zip_le_iff breadcrumb.values_length_le,
    forall_values_iff fun _ plain => plain.depth_le levels]

end Breadcrumb

theorem Metadata.toJson_eq (metadata : Metadata) :
    metadata.toJson = .object (metadata.sections.map fun entry => (entry.1, .object entry.2)) := rfl

/-- Metadata is in order if its sections are, and so is each section. -/
theorem Metadata.toJson_ordered_iff (metadata : Metadata) : metadata.toJson.Ordered ↔
    metadata.sections.Ordered ∧ ∀ entry ∈ metadata.sections, (Json.object entry.2).Ordered := by
  rw [toJson_eq]
  refine (Json.everywhere_object _).trans (and_congr ?_ List.forall_mem_map)
  have names : Dictionary.keys (metadata.sections.map fun entry => (entry.1, Json.object entry.2)) =
      metadata.sections.keys := by
    unfold Dictionary.keys
    rw [List.map_map]
    rfl
  unfold Dictionary.Ordered
  rw [← names]
  rfl

namespace EventRecord

/-- The members of a written event, in declared order. -/
def values (event : EventRecord) : List Json :=
  [.string event.timestamp.write, .ofOption .ofText event.context, event.app.toJson,
    event.user.toJson, .ofOption ErrorInfo.toJson event.error, .string event.severity.name,
    .bool event.unhandled, .array (event.breadcrumbs.map Breadcrumb.toJson)] ++
    if event.metadata.isEmpty then [] else [event.metadata.toJson]

theorem toJson_eq (event : EventRecord) :
    event.toJson = .object (Decode.eventNames.zip event.values) := by
  unfold toJson values
  split <;> rfl

theorem values_length_le (event : EventRecord) :
    event.values.length ≤ Decode.eventNames.length := by
  unfold values
  split <;> exact Nat.le_of_ble_eq_true rfl

/-- Of the members of an event, only five are not plain. -/
theorem forall_values_iff {told : Json → Prop} (plain : ∀ value : Json, value.IsPlain → told value)
    (event : EventRecord) : (∀ value ∈ event.values, told value) ↔
      told event.app.toJson ∧ told event.user.toJson ∧
        told (.ofOption ErrorInfo.toJson event.error) ∧
          told (.array (event.breadcrumbs.map Breadcrumb.toJson)) ∧
            (event.metadata.isEmpty ∨ told event.metadata.toJson) := by
  have string (content : String) : told (.string content) := plain _ (.string content)
  have text (value : Option Text) : told (.ofOption .ofText value) :=
    plain _ (Json.optionalText_plain value)
  have flag (value : Bool) : told (.bool value) := plain _ (.bool value)
  unfold values
  by_cases bare : event.metadata.isEmpty = true
  · simp [bare, string, text, flag]
  · simp [bare, string, text, flag]

theorem error_flat (error : Option ErrorInfo) : (Json.ofOption ErrorInfo.toJson error).IsFlat := by
  cases error with
  | none => exact ⟨trivial, Nat.zero_le 1⟩
  | some error => exact error.toJson_flat

/-- It is told of the metadata of an event and of each of its breadcrumbs. -/
structure MetadataIs (told : Json → Prop) (event : EventRecord) : Prop where
  own : told event.metadata.toJson
  trail : ∀ breadcrumb ∈ event.breadcrumbs, told (.object breadcrumb.metadata)

/-- The metadata of an event holds no double, at any depth. -/
def Whole (event : EventRecord) : Prop := event.MetadataIs Json.Whole

/-- The metadata of an event is kept as dictionaries, at any depth. -/
def Ordered (event : EventRecord) : Prop := event.MetadataIs Json.Ordered

/-- An event is written without a double exactly if its metadata holds none. -/
theorem toJson_whole_iff (event : EventRecord) : event.toJson.Whole ↔ event.Whole := by
  have bare (empty : event.metadata.isEmpty = true) : event.metadata.toJson.Whole := by
    unfold Metadata.toJson
    rw [List.isEmpty_iff.mp empty]
    exact ⟨trivial, trivial⟩
  have trail : (Json.array (event.breadcrumbs.map Breadcrumb.toJson)).Whole ↔
      ∀ breadcrumb ∈ event.breadcrumbs, (Json.object breadcrumb.metadata).Whole := by
    refine (Json.everywhere_array _).trans ((and_iff_right trivial).trans ?_)
    rw [List.forall_mem_map]
    exact forall₂_congr fun breadcrumb _ => breadcrumb.toJson_whole_iff
  rw [toJson_eq, Json.whole_zip event.values_length_le,
    forall_values_iff fun _ plain => plain.whole, and_iff_right event.app.toJson_flat.whole,
    and_iff_right event.user.toJson_flat.whole, and_iff_right (error_flat event.error).whole, trail,
    or_iff_right_of_imp bare]
  exact ⟨fun ⟨trail, own⟩ => ⟨own, trail⟩, fun ⟨own, trail⟩ => ⟨trail, own⟩⟩

/-- How deep an event is nested is up to its breadcrumbs and its metadata, beyond two levels that are always
there. -/
theorem toJson_depth_le_iff (event : EventRecord) (levels : Nat) :
    event.toJson.depth ≤ levels + 2 ↔
      (∀ breadcrumb ∈ event.breadcrumbs, breadcrumb.toJson.depth ≤ levels) ∧
        event.metadata.toJson.depth ≤ levels + 1 := by
  have bare (empty : event.metadata.isEmpty = true) : event.metadata.toJson.depth ≤ levels + 1 := by
    unfold Metadata.toJson
    rw [List.isEmpty_iff.mp empty]
    exact Nat.le_add_left 1 levels
  have flat {value : Json} (flat : value.IsFlat) : value.depth ≤ levels + 1 :=
    Nat.le_trans flat.shallow (Nat.le_add_left 1 levels)
  rw [toJson_eq, Json.depth_zip_le_iff event.values_length_le,
    forall_values_iff fun _ plain => plain.depth_le (levels + 1),
    and_iff_right (flat event.app.toJson_flat), and_iff_right (flat event.user.toJson_flat),
    and_iff_right (flat (error_flat event.error)), Json.depth_array_le_iff, List.forall_mem_map,
    or_iff_right_of_imp bare]

theorem two_le_toJson_depth (event : EventRecord) : 2 ≤ event.toJson.depth := by
  by_contra shallow
  have flat : event.toJson.depth ≤ 0 + 1 := by omega
  rw [toJson_eq, Json.depth_zip_le_iff event.values_length_le,
    forall_values_iff fun _ plain => plain.depth_le 0] at flat
  exact absurd flat.1 (by simp [AppInfo.toJson, Json.depth])

/-- An event with the durations of its app in whole seconds. -/
def inWholeSeconds (event : EventRecord) : EventRecord :=
  { event with app := event.app.inWholeSeconds }

end EventRecord

end CrashReporter
