/-
**Metadata stays in order.**

Whatever is done to the metadata of an event or of a breadcrumb, it is kept as dictionaries at any depth,
if the values that are set are: `Metadata.add_ordered`, `Metadata.clearKey_ordered`,
`Metadata.clearSection_ordered`, `Metadata.addSection_ordered`, `Breadcrumb.withMetadata_ordered`.

Events are `Made` of nothing, of a template or of a text, and then written to. `EventRecord.ordered_of_made`: all
of them are in order.
-/

import CrashReporter.Native.Event
import CrashReporter.Proofs.Event.Decoded
import CrashReporter.Proofs.Event.Sections
import CrashReporter.Template.Basic

namespace CrashReporter

namespace Json

theorem object_insert_ordered {values : Dictionary Json} (ordered : (object values).Ordered)
    {value : Json} (kept : value.Ordered) (key : String) :
    (object (values.insert key value)).Ordered := by
  obtain ⟨keys, inner⟩ := (everywhere_object values).mp ordered
  refine (everywhere_object _).mpr ⟨Dictionary.insert_ordered keys, fun member held => ?_⟩
  rcases Dictionary.mem_insert held with rfl | before
  · exact kept
  · exact inner member before

theorem object_erase_ordered {values : Dictionary Json} (ordered : (object values).Ordered)
    (key : String) : (object (values.erase key)).Ordered := by
  obtain ⟨keys, inner⟩ := (everywhere_object values).mp ordered
  exact (everywhere_object _).mpr ⟨Dictionary.erase_ordered key keys, fun member held =>
    inner member ((Dictionary.erase_sublist key values).subset held)⟩

/-- What is told of sections of metadata that is kept as dictionaries lasts, if the values that are set are. -/
theorem object_ordered_lasting : Metadata.Lasting Ordered fun values => (object values).Ordered := by
  refine ⟨fun values key ordered _ => object_erase_ordered ordered key, fun values key value set kept => ?_⟩
  apply object_insert_ordered _ kept
  rcases set with rfl | ordered
  · exact ⟨.nil, trivial⟩
  · exact ordered

end Json

namespace Metadata

variable {metadata : Metadata}

/-- Metadata is in order if its sections are, and so is each section. -/
theorem toJson_ordered_iff_sectionsAre : metadata.toJson.Ordered ↔
    SectionsAre (fun values => (Json.object values).Ordered) metadata :=
  metadata.toJson_ordered_iff.trans ⟨fun both => ⟨both.1, both.2⟩, fun are => ⟨are.ordered, are.each⟩⟩

theorem clearSection_ordered (ordered : metadata.toJson.Ordered) (heading : String) :
    (metadata.clearSection heading).toJson.Ordered := by
  rw [toJson_ordered_iff_sectionsAre] at ordered ⊢
  exact ordered.clearSection heading

theorem clearKey_ordered (ordered : metadata.toJson.Ordered) (heading key : String) :
    (metadata.clearKey heading key).toJson.Ordered := by
  rw [toJson_ordered_iff_sectionsAre] at ordered ⊢
  exact ordered.clearKey Json.object_ordered_lasting heading key

/-- Setting a value keeps metadata in order. -/
theorem add_ordered (ordered : metadata.toJson.Ordered) {value : Json} (kept : value.Ordered)
    (heading key : String) : (metadata.add heading key value).toJson.Ordered := by
  rw [toJson_ordered_iff_sectionsAre] at ordered ⊢
  exact ordered.add Json.object_ordered_lasting heading key fun _ => kept

/-- Setting many values keeps metadata in order. -/
theorem addSection_ordered (ordered : metadata.toJson.Ordered) (heading : String)
    {values : Dictionary Json} (kept : ∀ entry ∈ values, entry.2.Ordered) :
    (metadata.addSection heading values).toJson.Ordered := by
  rw [toJson_ordered_iff_sectionsAre] at ordered ⊢
  exact ordered.addSection Json.object_ordered_lasting heading fun entry member _ => kept entry member

end Metadata

/-- Setting a value keeps the metadata of a breadcrumb in order. -/
theorem Breadcrumb.withMetadata_ordered {breadcrumb : Breadcrumb}
    (ordered : (Json.object breadcrumb.metadata).Ordered) {value : Json} (kept : value.Ordered)
    (key : String) : (Json.object (breadcrumb.withMetadata key value).metadata).Ordered :=
  Json.object_insert_ordered ordered kept key

/-! ### Writes to events -/

/-- What a write sets in the metadata is in order. -/
def Write.SetsOrdered : Write → Prop
  | .metadata _ _ value => value.Ordered
  | _ => True

namespace EventRecord

variable {event after : EventRecord}

/-- An event of which nothing is known is in order. -/
theorem make_ordered (now : Instant) : (make now).Ordered :=
  ⟨⟨.nil, trivial⟩, fun _ member => absurd member List.not_mem_nil⟩

/-- Nothing but the metadata and the breadcrumbs matters, and fewer breadcrumbs do no harm. -/
theorem Ordered.restate (ordered : event.Ordered) (own : after.metadata = event.metadata)
    (trail : after.breadcrumbs ⊆ event.breadcrumbs) : after.Ordered :=
  ⟨own ▸ ordered.own, fun breadcrumb member => ordered.trail breadcrumb (trail member)⟩

theorem Ordered.push (ordered : event.Ordered) {breadcrumb : Breadcrumb}
    (kept : (Json.object breadcrumb.metadata).Ordered) :
    { event with breadcrumbs := event.breadcrumbs ++ [breadcrumb] }.Ordered := by
  refine ⟨ordered.own, fun other member => ?_⟩
  rcases List.mem_append.mp member with before | last
  · exact ordered.trail other before
  · rw [List.mem_singleton.mp last]
    exact kept

theorem Ordered.write (ordered : event.Ordered) {change : Write} (kept : change.SetsOrdered) :
    (event.write change).Ordered := by
  cases change with
  | metadata heading key value => exact ⟨Metadata.add_ordered ordered.own kept heading key, ordered.trail⟩
  | clearSection heading => exact ⟨Metadata.clearSection_ordered ordered.own heading, ordered.trail⟩
  | clearKey heading key => exact ⟨Metadata.clearKey_ordered ordered.own heading key, ordered.trail⟩
  | text field value => cases field <;> exact ⟨ordered.own, ordered.trail⟩
  | _ => exact ⟨ordered.own, ordered.trail⟩

theorem Ordered.addMetadata (ordered : event.Ordered) (heading key : CText) {value : Json}
    (kept : value.Ordered) : (event.addMetadata heading key value).Ordered := by
  unfold EventRecord.addMetadata
  split
  · exact ⟨Metadata.add_ordered ordered.own kept _ _, ordered.trail⟩
  · exact ordered

theorem Ordered.writeField (ordered : event.Ordered) (change : FieldWrite) :
    (event.writeField change).Ordered := by
  cases change with
  | appText field value => cases field <;> exact ⟨ordered.own, ordered.trail⟩
  | metadataText heading key value =>
    refine ordered.addMetadata heading key ?_
    cases value.read? <;> exact trivial
  | clearMetadata heading key =>
    unfold EventRecord.writeField
    dsimp only
    split
    · exact ⟨Metadata.clearKey_ordered ordered.own _ _, ordered.trail⟩
    · exact ⟨Metadata.clearSection_ordered ordered.own _, ordered.trail⟩
    · exact ordered
  | _ => exact ⟨ordered.own, ordered.trail⟩

/-- Native writes set nothing but strings, flags and doubles. -/
theorem Ordered.writeNative (ordered : event.Ordered) (change : EventWrite) :
    (event.writeNative change).Ordered := by
  cases change with
  | field change => exact ordered.writeField change
  | severity code =>
    unfold EventRecord.writeNative
    dsimp only
    split
    · exact ⟨ordered.own, ordered.trail⟩
    · exact ordered
  | metadataBool heading key value => exact ordered.addMetadata heading key trivial
  | metadataDouble heading key bits =>
    refine ordered.addMetadata heading key ?_
    cases Double.ofBits? bits <;> exact trivial

end EventRecord

/-! ### Events that are made -/

/-- A breadcrumb that was made, and whatever was done to it. -/
inductive Breadcrumb.Made : Breadcrumb → Prop where
  | make {now : Instant} {message : String} {kind : BreadcrumbKind} {breadcrumb : Breadcrumb}
      (made : Breadcrumb.make now message kind = .ok breadcrumb) : Made breadcrumb
  | withMetadata {breadcrumb : Breadcrumb} (made : Made breadcrumb) (key : String) {value : Json}
      (kept : value.Ordered) : Made (breadcrumb.withMetadata key value)
  /-- Its time, message and kind are set in any way. -/
  | restate {breadcrumb after : Breadcrumb} (made : Made breadcrumb)
      (same : after.metadata = breadcrumb.metadata) : Made after

/-- A template that was made, and whatever was done to it. -/
inductive Template.Made {κ : Type} : Template κ → Prop where
  | make? {capacity : Nat} {template : Template κ} (made : Template.make? capacity = some template) :
      Made template
  | write {template : Template κ} (made : Made template) {change : Write} (kept : change.SetsOrdered) :
      Made (template.write change)
  | append {template : Template κ} (made : Made template) (now : Instant) {breadcrumb : Breadcrumb}
      (pushed : breadcrumb.Made) : Made { template with trail := template.trail.append now breadcrumb }
  /-- Its trail is cleared, or given other callbacks. -/
  | setTrail {template : Template κ} (made : Made template) {trail : Trail κ}
      (fewer : trail.entries ⊆ template.trail.entries) : Made { template with trail := trail }

/-- An event that was made, copied from a template or read, and whatever was done to it. -/
inductive EventRecord.Made : EventRecord → Prop where
  | make (now : Instant) : Made (.make now)
  | snapshot {κ : Type} {template : Template κ} (made : template.Made) (now : Instant) :
      Made (template.snapshot now)
  | parse? {text : String} {event : EventRecord} (read : EventRecord.parse? text = some event) : Made event
  | write {event : EventRecord} (made : Made event) {change : Write} (kept : change.SetsOrdered) :
      Made (event.write change)
  | writeNative {event : EventRecord} (made : Made event) (change : EventWrite) :
      Made (event.writeNative change)
  | addSection {event : EventRecord} (made : Made event) (heading : String) {values : Dictionary Json}
      (kept : ∀ entry ∈ values, entry.2.Ordered) :
      Made { event with metadata := event.metadata.addSection heading values }
  | push {event : EventRecord} (made : Made event) {breadcrumb : Breadcrumb} (pushed : breadcrumb.Made) :
      Made { event with breadcrumbs := event.breadcrumbs ++ [breadcrumb] }
  /-- Breadcrumbs are taken out of it, and its other fields are set in any way. -/
  | restate {event after : EventRecord} (made : Made event) (own : after.metadata = event.metadata)
      (fewer : after.breadcrumbs ⊆ event.breadcrumbs) : Made after

theorem Breadcrumb.ordered_of_made {breadcrumb : Breadcrumb} (made : breadcrumb.Made) :
    (Json.object breadcrumb.metadata).Ordered := by
  induction made with
  | @make now message kind breadcrumb made =>
    unfold Breadcrumb.make at made
    split at made
    · cases made
      exact ⟨.nil, trivial⟩
    · cases made
  | withMetadata _ key kept ih => exact withMetadata_ordered ih kept key
  | restate _ same ih =>
    rw [same]
    exact ih

/-- The breadcrumbs of a trail after another one is added: those that were there, and that one at its time. -/
theorem Trail.mem_entries_append {κ : Type} {trail : Trail κ} {now : Instant} {breadcrumb other : Breadcrumb}
    (member : other ∈ (trail.append now breadcrumb).entries) :
    other ∈ trail.entries ∨ other.metadata = breadcrumb.metadata := by
  rcases List.mem_append.mp member with before | last
  · left
    split at before
    · exact List.mem_of_mem_tail before
    · exact before
  · right
    rw [List.mem_singleton.mp last]

theorem Template.snapshot_ordered_of_made {κ : Type} {template : Template κ} (made : template.Made)
    (now : Instant) : (template.snapshot now).Ordered := by
  induction made with
  | make? made =>
    obtain ⟨trail, room, rfl⟩ := Option.map_eq_some_iff.mp made
    unfold Trail.make? at room
    split at room
    · cases room
      exact ⟨⟨.nil, trivial⟩, fun _ member => absurd member List.not_mem_nil⟩
    · cases room
  | @write template _ change kept ih =>
    -- The copy has the metadata of a copy that was written to, and no write touches the breadcrumbs.
    have written := ih.write kept
    cases change with
    | text field value => cases field <;> exact written.restate rfl (List.Subset.refl _)
    | _ => exact written.restate rfl (List.Subset.refl _)
  | append _ now pushed ih =>
    refine ⟨ih.own, fun other member => ?_⟩
    rcases Trail.mem_entries_append member with before | same
    · exact ih.trail other before
    · rw [same]
      exact Breadcrumb.ordered_of_made pushed
  | setTrail _ fewer ih => exact ih.restate rfl fewer

/-- **Every event that is made is in order**, if the values that are set in metadata are. -/
theorem EventRecord.ordered_of_made {event : EventRecord} (made : event.Made) : event.Ordered := by
  induction made with
  | make now => exact make_ordered now
  | snapshot made now => exact Template.snapshot_ordered_of_made made now
  | parse? read =>
    obtain ⟨node, _, decoded⟩ := Option.bind_eq_some_iff.mp read
    exact (Decode.event?_sound decoded).ordered
  | write _ kept ih => exact ih.write kept
  | writeNative _ change ih => exact ih.writeNative change
  | addSection _ heading kept ih => exact ⟨Metadata.addSection_ordered ih.own heading kept, ih.trail⟩
  | push _ pushed ih => exact ih.push (Breadcrumb.ordered_of_made pushed)
  | restate _ own fewer ih => exact ih.restate own fewer

end CrashReporter
