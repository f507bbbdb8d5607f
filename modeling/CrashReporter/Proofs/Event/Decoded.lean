/-
**What decoders make of any tree.**

Every record that is read is one that can be written and read again:

* `metadata?_sound`, `breadcrumb?_sound`: metadata is kept as dictionaries, is nested no deeper than was
  allowed, and holds a double only if the tree has a numeral that means one;
* `app?_sound`: durations are whole seconds;
* `event?_sound`: all of this for an event.
-/

import CrashReporter.Proofs.Decode.Field
import CrashReporter.Proofs.Event.Members
import CrashReporter.Proofs.Json.Value

namespace CrashReporter.Decode

open CrashReporter.Json (Node Piece Sound)

/-! ### Fields and containers -/

theorem mem_of_members? {members : List (List Piece × Node)} {named : List (String × Node)}
    (read : members? members = some named) :
    ∀ member ∈ named, ∃ written ∈ members, written.2 = member.2 := by
  rw [members?_eq] at read
  intro member held
  obtain ⟨written, there, made⟩ := mem_of_mapM read member held
  obtain ⟨name, _, rfl⟩ := Option.map_eq_some_iff.mp made
  exact ⟨written, there, rfl⟩

/-- A field of a tree without doubles has none. -/
theorem fields?_whole {names : List String} {node : Node} {fields : List (Field Node)}
    (read : fields? names node = some fields) (whole : node.Whole) {value : Node}
    (listed : .present value ∈ fields) : value.Whole := by
  cases node with
  | object members =>
    obtain ⟨named, held, looked⟩ := Option.bind_eq_some_iff.mp read
    obtain ⟨name, member⟩ := Field.mem_of_ofMembers? looked listed
    obtain ⟨written, there, same⟩ := mem_of_members? held (name, value) member
    have solid := (Node.wholeMembers_iff members).mp whole written there
    rwa [same] at solid
  | array items =>
    rw [fields?] at read
    split_ifs at read
    cases read
    exact (Node.wholeItems_iff items).mp whole value (Field.mem_of_ofItems listed)
  | _ => cases read

/-- A value that may be null was null, or was read. -/
theorem nullable?_sound {α : Type} {decode : Node → Option α} {node : Node} {value : Option α}
    (read : nullable? decode node = some value) :
    value = none ∨ ∃ content, value = some content ∧ decode node = some content := by
  unfold nullable? at read
  split at read
  · exact .inl (Option.some.inj read).symm
  · obtain ⟨content, decoded, same⟩ := Option.map_eq_some_iff.mp read
    exact .inr ⟨content, same.symm, decoded⟩

/-- A list that was read has an item for each of its values. -/
theorem list?_sound {α : Type} {levels : Nat} {decode : Nat → Node → Option α} {node : Node}
    {values : List α} (read : list? levels decode node = some values) :
    ∃ less, levels = less + 1 ∧
      ∀ value ∈ values, ∃ inner, decode less inner = some value ∧ (node.Whole → inner.Whole) := by
  cases node with
  | array items =>
    cases levels with
    | zero => cases read
    | succ levels =>
      refine ⟨levels, rfl, fun value member => ?_⟩
      obtain ⟨inner, listed, decoded⟩ := mem_of_mapM read value member
      exact ⟨inner, decoded, fun whole => (Node.wholeItems_iff items).mp whole inner listed⟩
  | _ => cases read

/-- A dictionary that was read is in order and has a member for each of its entries. -/
theorem dictionary?_sound {α : Type} {levels : Nat} {decode : Nat → Node → Option α} {node : Node}
    {dictionary : Dictionary α} (read : dictionary? levels decode node = some dictionary) :
    ∃ less, levels = less + 1 ∧ dictionary.Ordered ∧
      ∀ entry ∈ dictionary, ∃ inner,
        decode less inner = some entry.2 ∧ (node.Whole → inner.Whole) := by
  cases node with
  | object members =>
    cases levels with
    | zero => cases read
    | succ levels =>
      obtain ⟨named, listed, others⟩ := Option.bind_eq_some_iff.mp read
      obtain ⟨entries, decoded, built⟩ := Option.bind_eq_some_iff.mp others
      cases built
      refine ⟨levels, rfl, Dictionary.ofList_ordered entries, fun entry member => ?_⟩
      obtain ⟨origin, held, made⟩ := mem_of_mapM decoded entry (Dictionary.mem_ofList member)
      obtain ⟨value, gotten, rfl⟩ := Option.map_eq_some_iff.mp made
      obtain ⟨written, there, same⟩ := mem_of_members? listed origin held
      refine ⟨origin.2, gotten, fun whole => ?_⟩
      rw [← same]
      exact (Node.wholeMembers_iff members).mp whole written there
  | _ => cases read

/-! ### Metadata -/

/-- Free-form values that were read are sound. -/
theorem values?_sound {levels : Nat} {node : Node} {values : Dictionary Json}
    (read : values? levels node = some values) : Sound levels node (.object values) := by
  obtain ⟨less, rfl, ordered, entries⟩ := dictionary?_sound read
  refine Json.sound_object ordered fun entry member => ?_
  obtain ⟨inner, decoded, inherited⟩ := entries entry member
  exact ⟨inner, Json.ofNode?_sound decoded, inherited⟩

/-- Metadata that was read is sound. -/
theorem metadata?_sound {levels : Nat} {node : Node} {metadata : Metadata}
    (read : metadata? levels node = some metadata) : Sound levels node metadata.toJson := by
  obtain ⟨sections, listed, rfl⟩ := Option.map_eq_some_iff.mp read
  obtain ⟨less, rfl, ordered, entries⟩ := dictionary?_sound listed
  refine Json.sound_object ?_ fun member held => ?_
  · unfold Dictionary.Ordered Dictionary.keys at ordered ⊢
    rwa [List.map_map]
  · obtain ⟨entry, there, rfl⟩ := List.mem_map.mp held
    obtain ⟨inner, decoded, inherited⟩ := entries entry there
    exact ⟨inner, values?_sound decoded, inherited⟩

/-! ### Records -/

/-- A breadcrumb that was read is sound. -/
theorem breadcrumb?_sound {levels : Nat} {node : Node} {breadcrumb : Breadcrumb}
    (read : breadcrumb? levels node = some breadcrumb) :
    (Json.object breadcrumb.metadata).Ordered ∧ breadcrumb.toJson.depth ≤ levels ∧
      (node.Whole → (Json.object breadcrumb.metadata).Whole) := by
  cases levels with
  | zero => cases read
  | succ levels =>
    rw [Breadcrumb.toJson_depth_le_iff]
    obtain ⟨fields, listed, read⟩ := Option.bind_eq_some_iff.mp read
    split at read
    · next timestamp message kind metadata =>
      obtain ⟨timestamp, _, read⟩ := Option.bind_eq_some_iff.mp read
      obtain ⟨message, _, read⟩ := Option.bind_eq_some_iff.mp read
      obtain ⟨kind, _, read⟩ := Option.bind_eq_some_iff.mp read
      obtain ⟨values, given, read⟩ := Option.bind_eq_some_iff.mp read
      cases read
      rcases Field.present_of_defaulted given with rfl | ⟨inner, rfl, decoded⟩
      · exact ⟨⟨.nil, trivial⟩, .inl rfl, fun _ => ⟨trivial, trivial⟩⟩
      · have sound := values?_sound decoded
        refine ⟨sound.ordered, .inr sound.shallow, fun whole => sound.whole ?_⟩
        exact fields?_whole listed whole (by simp)
    · cases read

/-- A span that was read has no part of a second. -/
theorem defaulted_seconds {field : Field Node} {span : Option Duration}
    (read : field.defaulted none (nullable? seconds?) = some span) :
    span.map Duration.inWholeSeconds = span := by
  rcases Field.present_of_defaulted read with rfl | ⟨node, rfl, decoded⟩
  · rfl
  · rcases nullable?_sound decoded with rfl | ⟨duration, rfl, meant⟩
    · rfl
    · obtain ⟨count, _, rfl⟩ := Option.map_eq_some_iff.mp meant
      rfl

/-- The durations of an app that was read are whole seconds. -/
theorem app?_sound {levels : Nat} {node : Node} {app : AppInfo}
    (read : app? levels node = some app) : app.inWholeSeconds = app := by
  cases levels with
  | zero => cases read
  | succ levels =>
    obtain ⟨fields, _, read⟩ := Option.bind_eq_some_iff.mp read
    split at read
    · obtain ⟨binaryArch, _, read⟩ := Option.bind_eq_some_iff.mp read
      obtain ⟨buildUuid, _, read⟩ := Option.bind_eq_some_iff.mp read
      obtain ⟨id, _, read⟩ := Option.bind_eq_some_iff.mp read
      obtain ⟨releaseStage, _, read⟩ := Option.bind_eq_some_iff.mp read
      obtain ⟨type, _, read⟩ := Option.bind_eq_some_iff.mp read
      obtain ⟨version, _, read⟩ := Option.bind_eq_some_iff.mp read
      obtain ⟨versionCode, _, read⟩ := Option.bind_eq_some_iff.mp read
      obtain ⟨duration, whole, read⟩ := Option.bind_eq_some_iff.mp read
      obtain ⟨foreground, wholeToo, read⟩ := Option.bind_eq_some_iff.mp read
      obtain ⟨inForeground, _, read⟩ := Option.bind_eq_some_iff.mp read
      cases read
      unfold AppInfo.inWholeSeconds
      rw [defaulted_seconds whole, defaulted_seconds wholeToo]
    · cases read

/-- What an event that was read satisfies. -/
structure SoundEvent (levels : Nat) (node : Node) (event : EventRecord) : Prop where
  ordered : event.Ordered
  shallow : event.toJson.depth ≤ levels
  whole : node.Whole → event.Whole
  inWholeSeconds : event.inWholeSeconds = event

/-- **Whatever event is read can be written and read again.** -/
theorem event?_sound {levels : Nat} {node : Node} {event : EventRecord}
    (read : event? levels node = some event) : SoundEvent levels node event := by
  cases levels with
  | zero => cases read
  | succ levels =>
    obtain ⟨fields, listed, read⟩ := Option.bind_eq_some_iff.mp read
    split at read
    · obtain ⟨timestamp, _, read⟩ := Option.bind_eq_some_iff.mp read
      obtain ⟨context, _, read⟩ := Option.bind_eq_some_iff.mp read
      obtain ⟨app, appGiven, read⟩ := Option.bind_eq_some_iff.mp read
      obtain ⟨user, _, read⟩ := Option.bind_eq_some_iff.mp read
      obtain ⟨error, _, read⟩ := Option.bind_eq_some_iff.mp read
      obtain ⟨severity, _, read⟩ := Option.bind_eq_some_iff.mp read
      obtain ⟨unhandled, _, read⟩ := Option.bind_eq_some_iff.mp read
      obtain ⟨breadcrumbs, breadcrumbsGiven, read⟩ := Option.bind_eq_some_iff.mp read
      obtain ⟨metadata, metadataGiven, read⟩ := Option.bind_eq_some_iff.mp read
      cases read
      -- Of the other fields, it only matters that they were read.
      obtain ⟨appNode, rfl, decodedApp⟩ := Field.present_of_required appGiven
      obtain ⟨trailNode, rfl, decodedTrail⟩ := Field.present_of_required breadcrumbsGiven
      have wholeSeconds := app?_sound decodedApp
      obtain ⟨less, rfl, trail⟩ := list?_sound decodedTrail
      have trailWhole (whole : node.Whole) : trailNode.Whole :=
        fields?_whole listed whole (by simp)
      have own : Json.Ordered metadata.toJson ∧ metadata.toJson.depth ≤ less + 1 ∧
          (node.Whole → metadata.toJson.Whole) := by
        rcases Field.present_of_defaulted metadataGiven with rfl | ⟨inner, rfl, decoded⟩
        · exact ⟨⟨.nil, trivial⟩, Nat.le_add_left 1 less, fun _ => ⟨trivial, trivial⟩⟩
        · have sound := metadata?_sound decoded
          exact ⟨sound.ordered, sound.shallow,
            fun whole => sound.whole (fields?_whole listed whole (by simp))⟩
      obtain ⟨ordered, shallow, whole⟩ := own
      refine ⟨⟨ordered, fun breadcrumb member => ?_⟩,
        (EventRecord.toJson_depth_le_iff _ less).mpr ⟨fun breadcrumb member => ?_, shallow⟩,
        fun solid => ⟨whole solid, fun breadcrumb member => ?_⟩, ?_⟩
      · obtain ⟨inner, decoded, _⟩ := trail breadcrumb member
        exact (breadcrumb?_sound decoded).1
      · obtain ⟨inner, decoded, _⟩ := trail breadcrumb member
        exact (breadcrumb?_sound decoded).2.1
      · obtain ⟨inner, decoded, inherited⟩ := trail breadcrumb member
        exact (breadcrumb?_sound decoded).2.2 (inherited (trailWhole solid))
      · unfold EventRecord.inWholeSeconds
        rw [wholeSeconds]
    · cases read

end CrashReporter.Decode
