/-
**A snapshot is the plain event with the same fields.**

A template keeps numbers and flags in words, and its texts and breadcrumbs apart from one another. All that
is invisible: an event `Mirrors` a template if the template's snapshot is that event with the breadcrumbs of
the trail, and

* a fresh template is mirrored by a fresh event;
* a write to the template is mirrored by the same write to the event, with durations confined to the whole
  seconds that a word holds (`snapshot_write`, by the words that are read back in Part 1);
* a request to the trail, whatever its callbacks do, is mirrored by doing nothing.

`snapshot_after` follows these steps through any operations, and adds what that means for the single fields.
-/

import CrashReporter.Proofs.Trail.Contents
import CrashReporter.Template.Basic
import Mathlib.Tactic.Common

namespace CrashReporter

/-! ## Part 1 — words -/

/-- The whole seconds of a span, as many as a word holds. -/
def Duration.confined (span : Duration) : Duration :=
  .ofSeconds (min span.seconds 0x7FFFFFFFFFFFFFFF)

namespace Template.Word

theorem toVersionCode?_ofVersionCode (value : Option Int32) :
    toVersionCode? (ofVersionCode value) = value := by
  cases value with
  | none => rfl
  | some code =>
    have least := code.le_toInt
    have greatest := code.toInt_lt
    have read : (Int64.ofInt code.toInt).toInt = code.toInt :=
      Int64.toInt_ofInt_of_le (by omega) (by omega)
    have present : Int64.ofInt code.toInt ≠ Int64.minValue := by
      intro absent
      rw [absent, Int64.toInt_minValue] at read
      omega
    unfold toVersionCode? ofVersionCode
    rw [if_neg present, read, if_pos (by omega), Int32.ofInt_toInt]

theorem toDuration?_ofDuration (value : Option Duration) :
    toDuration? (ofDuration value) = value.map Duration.confined := by
  cases value with
  | none => rfl
  | some span =>
    have read : (Int64.ofInt (min (span.seconds.toNat : Int) 0x7FFFFFFFFFFFFFFF)).toInt =
        min (span.seconds.toNat : Int) 0x7FFFFFFFFFFFFFFF :=
      Int64.toInt_ofInt_of_le (by omega) (by omega)
    have present : ¬ Int64.ofInt (min (span.seconds.toNat : Int) 0x7FFFFFFFFFFFFFFF) < 0 := by
      rw [Int64.lt_iff_toInt_lt, read, Int64.toInt_zero]
      omega
    have seconds : (min (span.seconds.toNat : Int) 0x7FFFFFFFFFFFFFFF).toNat =
        (min span.seconds 0x7FFFFFFFFFFFFFFF).toNat := by
      rw [UInt64.toNat_min]
      show _ = min span.seconds.toNat 0x7FFFFFFFFFFFFFFF
      omega
    unfold toDuration? ofDuration
    rw [if_neg present, read, seconds, UInt64.ofNat_toNat]
    rfl

theorem toFlag?_ofFlag (value : Option Bool) : toFlag? (ofFlag value) = value := by
  cases value with
  | none => rfl
  | some flag => cases flag <;> rfl

end Template.Word

/-! ## Part 2 — fields -/

/-- A field of an event that can be set by a write, apart from the metadata. -/
inductive EventField where
  | text (field : TextField)
  | versionCode
  | duration
  | durationInForeground
  | inForeground
  deriving DecidableEq, Repr

/-- What a field holds when it is set. -/
abbrev EventField.Value : EventField → Type
  | .text _ => Text
  | .versionCode => Int32
  | .duration => Duration
  | .durationInForeground => Duration
  | .inForeground => Bool

/-- A value of a field as a template keeps it: durations are confined. -/
def EventField.confine : (field : EventField) → field.Value → field.Value
  | .duration, span => span.confined
  | .durationInForeground, span => span.confined
  | .text _, value => value
  | .versionCode, value => value
  | .inForeground, value => value

namespace Write

/-- What a write sets a text field to, if it sets the field. -/
def text? : Write → TextField → Option (Option Text)
  | .text field value, other => if other = field then some (Text.ofOption? value) else none
  | .user id _ _, .userId => some (Text.ofOption? id)
  | .user _ email _, .userEmail => some (Text.ofOption? email)
  | .user _ _ name, .userName => some (Text.ofOption? name)
  | _, _ => none

/-- What a write sets a field to, if it sets the field. -/
def setting? (change : Write) : (field : EventField) → Option (Option field.Value)
  | .text field => change.text? field
  | .versionCode => match change with
    | .versionCode value => some value
    | _ => none
  | .duration => match change with
    | .duration value => some value
    | _ => none
  | .durationInForeground => match change with
    | .durationInForeground value => some value
    | _ => none
  | .inForeground => match change with
    | .inForeground value => some value
    | _ => none

/-- A write with its durations confined to what a word holds. -/
def confined : Write → Write
  | .duration value => .duration (value.map Duration.confined)
  | .durationInForeground value => .durationInForeground (value.map Duration.confined)
  | change => change

/-- The write is one to the metadata. -/
def isMetadata : Write → Bool
  | .metadata .. => true
  | .clearSection _ => true
  | .clearKey .. => true
  | _ => false

end Write

/-- Where every step sets a view of the state or leaves it, the last step that sets it decides. -/
theorem view_foldl {σ α β : Type} {step : σ → α → σ} (view : σ → β) {setting? : α → Option β}
    (one : ∀ state change, view (step state change) = (setting? change).getD (view state))
    (changes : List α) (state : σ) :
    view (changes.foldl step state) = (changes.filterMap setting?).getLast?.getD (view state) := by
  induction changes generalizing state with
  | nil => rfl
  | cons change changes ih =>
    rw [List.foldl_cons, ih, one, List.filterMap_cons]
    cases setting? change with
    | none => rfl
    | some value => rw [List.getLast?_cons]; rfl

namespace EventRecord

/-- A text field of an event. -/
def textOf? (event : EventRecord) : TextField → Option Text
  | .context => event.context
  | .userId => event.user.id
  | .userEmail => event.user.email
  | .userName => event.user.name
  | .binaryArch => event.app.binaryArch
  | .buildUuid => event.app.buildUuid
  | .appId => event.app.id
  | .releaseStage => event.app.releaseStage
  | .appType => event.app.type
  | .version => event.app.version

/-- A field of an event. -/
def value? (event : EventRecord) : (field : EventField) → Option field.Value
  | .text field => event.textOf? field
  | .versionCode => event.app.versionCode
  | .duration => event.app.duration
  | .durationInForeground => event.app.durationInForeground
  | .inForeground => event.app.inForeground

variable (event : EventRecord) (change : Write)

theorem textOf?_write (field : TextField) :
    (event.write change).textOf? field = (change.text? field).getD (event.textOf? field) := by
  cases change with
  | text other value => cases other <;> cases field <;> rfl
  | user id email name => cases field <;> rfl
  | _ => cases field <;> rfl

/-- **A write sets its own fields and no others.** -/
theorem value?_write (field : EventField) :
    (event.write change).value? field = (change.setting? field).getD (event.value? field) := by
  cases field with
  | text field => exact event.textOf?_write change field
  | versionCode | duration | durationInForeground | inForeground =>
    cases change with
    | text other value => cases other <;> rfl
    | _ => rfl

/-- Makes one write after the other. -/
def writeAll (changes : List Write) : EventRecord := changes.foldl write event

theorem timestamp_write : (event.write change).timestamp = event.timestamp := by
  cases change with
  | text field value => cases field <;> rfl
  | _ => rfl

theorem timestamp_writeAll (changes : List Write) :
    (event.writeAll changes).timestamp = event.timestamp := by
  induction changes generalizing event with
  | nil => rfl
  | cons change changes ih => exact (ih _).trans (event.timestamp_write change)

/-- The last write that sets a field counts. -/
theorem value?_writeAll (changes : List Write) (field : EventField) :
    (event.writeAll changes).value? field =
      (changes.filterMap (·.setting? field)).getLast?.getD (event.value? field) := by
  apply view_foldl (value? · field)
  exact fun event change => event.value?_write change field

/-- The event with the given breadcrumbs. -/
def withBreadcrumbs (breadcrumbs : List Breadcrumb) : EventRecord :=
  { event with breadcrumbs := breadcrumbs }

theorem write_withBreadcrumbs (breadcrumbs : List Breadcrumb) :
    (event.withBreadcrumbs breadcrumbs).write change =
      (event.write change).withBreadcrumbs breadcrumbs := by
  cases change with
  | text field value => cases field <;> rfl
  | _ => rfl

end EventRecord

namespace Write

theorem setting?_confined (change : Write) (field : EventField) :
    change.confined.setting? field = (change.setting? field).map (Option.map field.confine) := by
  cases field with
  | text field =>
    have plain : (EventField.text field).confine = id := rfl
    rw [plain, Option.map_id, Option.map_id]
    cases change <;> rfl
  | versionCode | duration | durationInForeground | inForeground =>
    cases change with
    | text other value => cases other <;> rfl
    | versionCode value => cases value <;> rfl
    | inForeground value => cases value <;> rfl
    | _ => rfl

end Write

/-! ## Part 3 — one operation -/

namespace Template

variable {κ : Type} (template : Template κ)

/-- **A write to a template is seen as a write to the event**, with the durations that a word holds. -/
theorem snapshot_write (change : Write) (now : Instant) :
    (template.write change).snapshot now = (template.snapshot now).write change.confined := by
  cases change with
  | text field value => cases field <;> rfl
  | user id email name => rfl
  | versionCode value =>
    unfold write snapshot app versionCode?
    rw [Word.toVersionCode?_ofVersionCode]
    rfl
  | duration value =>
    unfold write snapshot app duration?
    rw [Word.toDuration?_ofDuration]
    rfl
  | durationInForeground value =>
    unfold write snapshot app durationInForeground?
    rw [Word.toDuration?_ofDuration]
    rfl
  | inForeground value =>
    unfold write snapshot app inForeground?
    rw [Word.toFlag?_ofFlag]
    rfl
  | metadata heading key value => rfl
  | clearSection heading => rfl
  | clearKey heading key => rfl

/-- The snapshot is the event with the breadcrumbs of the trail. -/
def Mirrors (event : EventRecord) : Prop :=
  template.snapshot event.timestamp = event.withBreadcrumbs template.trail.entries

section Mirrors

variable {template : Template κ} {event : EventRecord}

theorem ofTrail_mirrors (trail : Trail κ) (now : Instant) : (ofTrail trail).Mirrors (.make now) := by
  have unknown : (ofTrail trail).app = .unknown := by
    unfold app versionCode? duration? durationInForeground? inForeground? ofTrail
    rw [Word.toVersionCode?_ofVersionCode, Word.toDuration?_ofDuration, Word.toFlag?_ofFlag]
    rfl
  unfold Mirrors snapshot
  rw [unknown]
  rfl

theorem trail_write (template : Template κ) (change : Write) :
    (template.write change).trail = template.trail := by
  cases change <;> rfl

theorem metadata_write (template : Template κ) {change : Write} (other : change.isMetadata = false) :
    (template.write change).metadata = template.metadata := by
  cases change with
  | metadata | clearSection | clearKey => cases other
  | _ => rfl

theorem Mirrors.write (mirrors : template.Mirrors event) (change : Write) :
    (template.write change).Mirrors (event.write change.confined) := by
  unfold Mirrors at mirrors ⊢
  rw [EventRecord.timestamp_write, snapshot_write, mirrors,
    EventRecord.write_withBreadcrumbs, trail_write]

theorem Mirrors.setTrail (mirrors : template.Mirrors event) (trail : Trail κ) :
    { template with trail := trail }.Mirrors event :=
  congrArg (EventRecord.withBreadcrumbs · trail.entries) mirrors

end Mirrors

/-! ## Part 4 — operations -/

/-- What may be done with a template: a write, or a request to its trail. -/
inductive Operation (κ ν : Type) where
  | write (change : Write)
  | trail (request : Trail.Request κ ν)

namespace Operation

variable {κ ν : Type}

def write? : Operation κ ν → Option Write
  | .write change => some change
  | .trail _ => none

def request? : Operation κ ν → Option (Trail.Request κ ν)
  | .write _ => none
  | .trail request => some request

/-- What an operation sets a field to, if it sets the field. -/
def setting? (operation : Operation κ ν) (field : EventField) : Option (Option field.Value) :=
  operation.write?.bind (·.setting? field)

/-- The operation is one on the metadata. -/
def isMetadata (operation : Operation κ ν) : Bool :=
  operation.write?.any Write.isMetadata

/-- Whatever is not the operation's own stays as it was. -/
structure Keeps (operation : Operation κ ν) (before after : Template κ) : Prop where
  values : ∀ now field, operation.setting? field = none →
    (after.snapshot now).value? field = (before.snapshot now).value? field
  metadata : operation.isMetadata = false → after.metadata = before.metadata
  trail : operation.request?.isNone → after.trail = before.trail

/-- The operation is a write, or it leaves a breadcrumb. -/
def IsPlain : Operation κ ν → Prop
  | .write _ => True
  | .trail (.leave ..) => True
  | .trail _ => False

end Operation

/-- A template with a clock and the notes of the owner of its trail. -/
structure Scene (κ ν : Type) where
  template : Template κ
  clock : Clock
  notes : ν
  /-- All breadcrumbs that were added since the trail was last cleared, the latest first. -/
  history : List Breadcrumb

namespace Scene

variable {κ ν : Type}

/-- A template of which nothing is known. -/
def start (capacity : Nat) (clock : Clock) (notes : ν) : Scene κ ν :=
  ⟨.ofTrail (.ofCapacity capacity), clock, notes, []⟩

/-- What requests to the trail see. -/
def onTrail (scene : Scene κ ν) : Trail.Scene κ ν :=
  ⟨scene.template.trail, scene.clock, scene.notes, scene.history⟩

/-- What requests to the trail leave. -/
def setTrail (scene : Scene κ ν) (after : Trail.Scene κ ν) : Scene κ ν :=
  ⟨{ scene.template with trail := after.trail }, after.clock, after.notes, after.history⟩

end Scene

section Operate

variable {κ ν : Type} (behave : Trail.Behaviour κ ν) (depth : Nat)

/-- Does an operation, with breadcrumbs nested at most as deep as given. -/
def operate (scene : Scene κ ν) : Operation κ ν → Option (Scene κ ν)
  | .write change => some { scene with template := scene.template.write change }
  | .trail request =>
    ((Trail.perform behave depth request).run scene.onTrail).map fun (_, after) =>
      scene.setTrail after

/-- Does one operation after the other. -/
def operateAll (scene : Scene κ ν) (operations : List (Operation κ ν)) : Option (Scene κ ν) :=
  operations.foldlM (operate behave depth) scene

/-- The writes among operations, with the durations that a word holds. -/
def confinedWrites (operations : List (Operation κ ν)) : List Write :=
  (operations.filterMap Operation.write?).map Write.confined

variable {behave : Trail.Behaviour κ ν} {depth : Nat} {scene final : Scene κ ν}
  {operations : List (Operation κ ν)}

theorem mirrors_of_operateAll {event : EventRecord} (mirrors : scene.template.Mirrors event)
    (operated : operateAll behave depth scene operations = some final) :
    final.template.Mirrors (event.writeAll (confinedWrites operations)) := by
  induction operations generalizing scene event with
  | nil =>
    cases operated
    exact mirrors
  | cons operation operations ih =>
    obtain ⟨middle, first, rest⟩ := Option.bind_eq_some_iff.mp operated
    cases operation with
    | write change =>
      cases first
      exact ih (mirrors.write change) rest
    | trail request =>
      obtain ⟨⟨answer, after⟩, performed, rfl⟩ := Option.map_eq_some_iff.mp first
      exact ih (mirrors.setTrail after.trail) rest

/-- **The trail is as if nothing but requests to it had been made.** -/
theorem performAll_of_operateAll (operated : operateAll behave depth scene operations = some final) :
    (Trail.performAll behave depth (operations.filterMap Operation.request?)).run scene.onTrail =
      some ((), final.onTrail) := by
  induction operations generalizing scene with
  | nil =>
    cases operated
    rfl
  | cons operation operations ih =>
    obtain ⟨middle, first, rest⟩ := Option.bind_eq_some_iff.mp operated
    cases operation with
    | write change =>
      cases first
      have same : ({ scene with template := scene.template.write change } : Scene κ ν).onTrail =
          scene.onTrail := by
        unfold Scene.onTrail
        rw [trail_write]
      rw [← same]
      exact ih rest
    | trail request =>
      obtain ⟨⟨answer, after⟩, performed, rfl⟩ := Option.map_eq_some_iff.mp first
      exact Option.bind_eq_some_iff.mpr ⟨(answer, after), performed, ih rest⟩

/-- A trail without callbacks takes every message, and still has none. -/
theorem perform_leave_bare (behave : Trail.Behaviour κ ν) (depth : Nat) (message : String)
    (kind : BreadcrumbKind) {scene : Trail.Scene κ ν} (bare : scene.trail.callbacks.entries = []) :
    ∃ answer after, (Trail.perform behave (depth + 1) (.leave message kind)).run scene =
      some (answer, after) ∧ after.trail.callbacks.entries = [] := by
  have left : (Trail.perform behave (depth + 1) (.leave message kind)).run scene =
      ((Trail.Scene.access fun callback breadcrumb =>
        (behave callback breadcrumb).run (Trail.perform behave depth)).leave message kind).run scene := rfl
  rw [left, Trail.leave_run]
  cases Breadcrumb.make scene.clock.read.1 message kind with
  | error cause => exact ⟨false, scene.tick, rfl, bare⟩
  | ok breadcrumb =>
    have unchanged : scene.tick.trail.callbacks.entries = [] := bare
    simp only [Trail.push_run, unchanged]
    exact ⟨true, scene.tick.conclude true breadcrumb, rfl, bare⟩

theorem operate_plain {operation : Operation κ ν} (plain : operation.IsPlain)
    (bare : scene.template.trail.callbacks.entries = []) :
    ∃ after, operate behave (depth + 1) scene operation = some after ∧
      after.template.trail.callbacks.entries = [] := by
  cases operation with
  | write change =>
    refine ⟨_, rfl, ?_⟩
    rw [trail_write]
    exact bare
  | trail request =>
    cases request with
    | leave message kind =>
      obtain ⟨answer, after, performed, still⟩ :=
        perform_leave_bare behave depth message kind
          (show scene.onTrail.trail.callbacks.entries = [] from bare)
      exact ⟨scene.setTrail after, Option.map_eq_some_iff.mpr ⟨_, performed, rfl⟩, still⟩
    | _ => exact plain.elim

/-- Writes and messages are always taken, since no callback is registered. -/
theorem operateAll_plain (plain : ∀ operation ∈ operations, operation.IsPlain)
    (bare : scene.template.trail.callbacks.entries = []) :
    ∃ final, operateAll behave (depth + 1) scene operations = some final := by
  induction operations generalizing scene with
  | nil => exact ⟨scene, rfl⟩
  | cons operation operations ih =>
    obtain ⟨middle, first, still⟩ := operate_plain (plain operation List.mem_cons_self) bare
    obtain ⟨final, rest⟩ := ih (fun other member => plain other (List.mem_cons_of_mem _ member)) still
    exact ⟨final, Option.bind_eq_some_iff.mpr ⟨middle, first, rest⟩⟩

/-- **An operation changes nothing but its own fields.** -/
theorem operate_keeps {operation : Operation κ ν} {before after : Scene κ ν}
    (operated : operate behave depth before operation = some after) :
    operation.Keeps before.template after.template := by
  cases operation with
  | write change =>
    cases operated
    refine ⟨fun now field unset => ?_, fun other => ?_, fun _ => trail_write _ change⟩
    · have unset : change.setting? field = none := unset
      rw [snapshot_write, EventRecord.value?_write, Write.setting?_confined, unset]
      rfl
    · exact metadata_write _ other
  | trail request =>
    obtain ⟨⟨answer, scene⟩, performed, rfl⟩ := Option.map_eq_some_iff.mp operated
    exact ⟨fun _ field _ => by cases field <;> rfl, fun _ => rfl, nofun⟩

/-- What a field was last set to. -/
def lastSetting? (operations : List (Operation κ ν)) (field : EventField) : Option field.Value :=
  (operations.filterMap (·.setting? field)).getLast?.getD none

theorem value?_confinedWrites (now : Instant) (operations : List (Operation κ ν))
    (field : EventField) :
    ((EventRecord.make now).writeAll (confinedWrites operations)).value? field =
      (lastSetting? operations field).map field.confine := by
  have settings : (confinedWrites operations).filterMap (·.setting? field) =
      (operations.filterMap (·.setting? field)).map (Option.map field.confine) := by
    unfold confinedWrites
    rw [List.filterMap_map, List.filterMap_filterMap, List.map_filterMap]
    refine congrArg (List.filterMap · operations) (funext fun operation => ?_)
    cases operation with
    | write change => exact change.setting?_confined field
    | trail request => rfl
  have unset : (EventRecord.make now).value? field = none := by
    cases field with
    | text field => cases field <;> rfl
    | _ => rfl
  rw [EventRecord.value?_writeAll, settings, unset, List.getLast?_map]
  unfold lastSetting?
  cases (operations.filterMap (·.setting? field)).getLast? <;> rfl

/-- **A snapshot is the plain event with the same fields.**

After any operations on a fresh template, a snapshot is the event to which the same writes were made in the
same order, with the durations that a word holds, and with the breadcrumbs of a trail to which the same
requests were made. So every field is read as it was last set, or as absent if it was not; and no operation
changes a field other than its own. -/
theorem snapshot_after (behave : Trail.Behaviour κ ν) (capacity : Nat) (clock : Clock) (notes : ν)
    (depth : Nat) :
    (∀ operations final now,
      operateAll behave depth (.start capacity clock notes) operations = some final →
        final.template.snapshot now =
            ((EventRecord.make now).writeAll (confinedWrites operations)).withBreadcrumbs
              final.template.trail.entries ∧
          (final.template.snapshot now).error = none ∧
          (final.template.snapshot now).severity = default ∧
          (final.template.snapshot now).unhandled = false ∧
          (Trail.performAll behave depth (operations.filterMap Operation.request?)).run
              (.start capacity clock notes) = some ((), final.onTrail) ∧
          ∀ field, (final.template.snapshot now).value? field =
            (lastSetting? operations field).map field.confine) ∧
    (∀ operations : List (Operation κ ν), 0 < depth → (∀ operation ∈ operations, operation.IsPlain) →
      (operateAll behave depth (.start capacity clock notes) operations).isSome) ∧
    ∀ operation before after, operate behave depth before operation = some after →
      operation.Keeps before.template after.template := by
  refine ⟨fun operations final now operated => ?_, fun operations positive plain => ?_,
    fun _ _ _ operated => operate_keeps operated⟩
  · have mirrors := mirrors_of_operateAll (ofTrail_mirrors (.ofCapacity capacity) now) operated
    have unmoved : ((EventRecord.make now).writeAll (confinedWrites operations)).timestamp = now :=
      EventRecord.timestamp_writeAll _ _
    unfold Mirrors at mirrors
    rw [unmoved] at mirrors
    have values field : (final.template.snapshot now).value? field =
        (lastSetting? operations field).map field.confine := by
      rw [mirrors, ← value?_confinedWrites now]
      cases field with
      | text field => cases field <;> rfl
      | _ => rfl
    exact ⟨mirrors, rfl, rfl, rfl, performAll_of_operateAll operated, values⟩
  · have bare : (Scene.start capacity clock notes : Scene κ ν).template.trail.callbacks.entries = [] :=
      rfl
    obtain ⟨below, rfl⟩ := Nat.exists_eq_add_one.mpr positive
    obtain ⟨final, operated⟩ := operateAll_plain plain bare
    rw [operated]
    rfl

end Operate

/-! Values next to the words for absent fields. -/

/-- A moment. -/
def daybreak : Instant :=
  ⟨⟨2025, 5, 6, by decide, by decide, by decide⟩,
    ⟨7, 8, 9, 10, by decide, by decide, by decide, by decide⟩⟩

/-- Writes of extreme values, and a message between them. -/
def launch : List (Operation Empty Unit) :=
  [.write (.versionCode (some (-1))), .write (.duration (some ⟨18446744073709551615, 7, by decide⟩)),
    .trail (.leave "launched" .state), .write (.versionCode (some (-0x80000000))),
    .write (.inForeground (some false)), .write (.durationInForeground (some (.ofSeconds 3))),
    .write (.durationInForeground none)]

/-- What was set is read as set, what was unset or never set as absent. -/
theorem snapshot_after_launch :
    ∃ final, operateAll nofun 1 (.start 0 (.still daybreak) ()) launch = some final ∧
      (final.template.snapshot daybreak).value? .versionCode = some (-0x80000000) ∧
      (final.template.snapshot daybreak).value? .duration = some (.ofSeconds 0x7FFFFFFFFFFFFFFF) ∧
      (final.template.snapshot daybreak).value? .inForeground = some false ∧
      (final.template.snapshot daybreak).value? .durationInForeground = none ∧
      (final.template.snapshot daybreak).value? (.text .version) = none := by
  obtain ⟨seen, taken, _⟩ := snapshot_after (nofun : Trail.Behaviour Empty Unit) 0 (.still daybreak) () 1
  have plain : ∀ operation ∈ launch, operation.IsPlain := by
    unfold launch
    simp only [List.forall_mem_cons, Operation.IsPlain, true_and]
    exact fun operation member => absurd member List.not_mem_nil
  obtain ⟨final, operated⟩ := Option.isSome_iff_exists.mp (taken launch Nat.one_pos plain)
  obtain ⟨_, _, _, _, _, values⟩ := seen launch final daybreak operated
  exact ⟨final, operated, values .versionCode, values .duration, values .inForeground,
    values .durationInForeground, values (.text .version)⟩

end Template

end CrashReporter
