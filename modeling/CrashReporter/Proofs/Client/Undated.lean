/-
**Clients and events without their times.**

Readings of the clock end up as timestamps, and nothing but timestamps depends on them. `undated` puts one and
the same moment in the place of all timestamps, and `Client.relativeTo` counts the times of the monitors
from an origin as well. Whatever is made of an event or a client is made of what is left of it without its
times in the same way.
-/

import CrashReporter.Client.Call
import CrashReporter.Native.Call
import CrashReporter.Proofs.Hang.Origin
import CrashReporter.Proofs.Native.Writes

namespace CrashReporter

variable {κ : Type}

/-- A moment that stands for all others. -/
def Instant.sometime : Instant :=
  ⟨⟨1970, 3, 4, by decide, by decide, by decide⟩, ⟨5, 6, 11, 12, by decide, by decide, by decide, by decide⟩⟩

/-! ### Breadcrumbs -/

namespace Breadcrumb

/-- The breadcrumb without its time. -/
def undated (breadcrumb : Breadcrumb) : Breadcrumb := { breadcrumb with timestamp := .sometime }

theorem make_undated (now : Instant) (message : String) (kind : BreadcrumbKind) :
    (make now message kind).map undated = make .sometime message kind := by
  unfold make
  cases Text.ofString? message <;> rfl

end Breadcrumb

/-! ### Events -/

namespace EventRecord

/-- The event without its time and the times of its breadcrumbs. -/
def undated (event : EventRecord) : EventRecord :=
  { event with
    timestamp := .sometime
    breadcrumbs := event.breadcrumbs.map Breadcrumb.undated }

theorem setError_undated (event : EventRecord) (errorClass : String) (message : Option String) :
    (event.setError errorClass message).map undated = event.undated.setError errorClass message := by
  unfold setError
  cases ErrorInfo.make errorClass message <;> rfl

/-- The breadcrumb of an error says nothing of the times of its event. -/
theorem errorBreadcrumb?_undated (event : EventRecord) (now : Instant) :
    (event.errorBreadcrumb? now).map Breadcrumb.undated = event.undated.errorBreadcrumb? .sometime := by
  unfold errorBreadcrumb?
  rw [show event.undated.errorClass? = event.errorClass? from rfl,
    show event.undated.errorMessage? = event.errorMessage? from rfl]
  cases event.errorClass? with
  | none => rfl
  | some errorClass =>
    dsimp only
    rw [← Breadcrumb.make_undated now]
    cases Breadcrumb.make now errorClass.content .error with
    | error cause => rfl
    | ok breadcrumb => cases event.errorMessage? <;> rfl

theorem writeNative_undated (event : EventRecord) (change : EventWrite) :
    (event.writeNative change).undated = event.undated.writeNative change := by
  have metadata (heading key : CText) (value : Json) :
      (event.addMetadata heading key value).undated = event.undated.addMetadata heading key value := by
    unfold addMetadata
    split <;> rfl
  cases change with
  | field change =>
    show (event.writeField change).undated = event.undated.writeField change
    rw [writeField_eq, writeField_eq]
    cases change.change? with
    | none => rfl
    | some change =>
      cases change with
      | text field value => cases field <;> rfl
      | _ => rfl
  | severity code =>
    dsimp only [writeNative]
    cases Severity.ofCode code <;> rfl
  | metadataBool heading key value => exact metadata heading key _
  | metadataDouble heading key bits => exact metadata heading key _

end EventRecord

/-- No native caller learns a time of an event. -/
theorem EventAddress.read_undated (address : EventAddress) (what : EventRead) :
    EventAddress.read (address.map EventRecord.undated) what = address.read what := by
  cases address with
  | none => rfl
  | some event =>
    cases what with
    | text field => cases field <;> rfl
    | _ => rfl

/-! ### Templates -/

/-- The trail without the times of its breadcrumbs. -/
def Trail.undated (trail : Trail κ) : Trail κ :=
  { trail with
    entries := trail.entries.map Breadcrumb.undated
    entries_fit := by
      rw [List.length_map]
      exact trail.entries_fit }

/-- Trails are equal if their data are. -/
theorem Trail.eq_of_entries {first second : Trail κ} (capacity : first.capacity = second.capacity)
    (entries : first.entries = second.entries) (callbacks : first.callbacks = second.callbacks) :
    first = second := by
  cases first
  cases second
  cases capacity
  cases entries
  cases callbacks
  rfl

theorem Trail.append_undated (trail : Trail κ) (now : Instant) (breadcrumb : Breadcrumb) :
    (trail.append now breadcrumb).undated = trail.undated.append .sometime breadcrumb.undated := by
  refine eq_of_entries rfl ?_ rfl
  show (trail.append now breadcrumb).entries.map Breadcrumb.undated = _
  unfold append undated
  dsimp only
  rw [List.map_append, List.length_map, apply_ite (List.map Breadcrumb.undated), List.map_tail,
    List.getLast?_map]
  cases trail.entries.getLast? <;> rfl

/-- The template without the times of its breadcrumbs. -/
def Template.undated (template : Template κ) : Template κ :=
  { template with trail := template.trail.undated }

theorem Template.snapshot_undated (template : Template κ) (now : Instant) :
    (template.snapshot now).undated = template.undated.snapshot .sometime := rfl

theorem Template.write_undated (template : Template κ) (change : Write) :
    (template.write change).undated = template.undated.write change := by
  cases change <;> rfl

/-! ### Clients -/

namespace Client

/-- The client without its timestamps, and with the times of its monitors counted from an origin. -/
def relativeTo (origin : Int) (client : Client κ) : Client κ :=
  { client with
    template := client.template.undated
    monitors := client.monitors.map (Hang.Monitor.relativeTo origin) }

variable (origin : Int) (client : Client κ)

theorem gate?_relativeTo (event : EventRecord) :
    (client.relativeTo origin).gate? event.undated = client.gate? event := rfl

theorem write_relativeTo (change : Write) :
    (client.write change).relativeTo origin = (client.relativeTo origin).write change := by
  unfold write relativeTo
  rw [Template.write_undated]

theorem append_relativeTo (now : Instant) (breadcrumb : Breadcrumb) :
    (client.setTrail (client.template.trail.append now breadcrumb)).relativeTo origin =
      (client.relativeTo origin).setTrail
        ((client.relativeTo origin).template.trail.append .sometime breadcrumb.undated) := by
  unfold relativeTo setTrail Template.undated
  dsimp only
  rw [Trail.append_undated]

omit origin in
/-- Only what becomes of the monitors of the client matters. -/
theorem modifyMonitor_congr {client : Client κ} {index : Nat} {change change' : Hang.Monitor → Hang.Monitor}
    (same : ∀ monitor ∈ client.monitors, change monitor = change' monitor) :
    client.modifyMonitor index change = client.modifyMonitor index change' := by
  have monitors : client.monitors.modify index change = client.monitors.modify index change' := by
    refine List.ext_getElem? fun place => ?_
    rw [List.getElem?_modify, List.getElem?_modify]
    cases held : client.monitors[place]? with
    | none => rfl
    | some monitor =>
      show some (if index = place then change monitor else monitor) = some (if index = place then _ else _)
      rw [same monitor (List.mem_of_getElem? held)]
  unfold modifyMonitor
  rw [monitors]

theorem modifyMonitor_relativeTo {index : Nat} {change change' : Hang.Monitor → Hang.Monitor}
    (changes : ∀ monitor, (change monitor).relativeTo origin = change' (monitor.relativeTo origin)) :
    (client.modifyMonitor index change).relativeTo origin =
      (client.relativeTo origin).modifyMonitor index change' := by
  have monitors : (client.monitors.modify index change).map (Hang.Monitor.relativeTo origin) =
      (client.monitors.map (Hang.Monitor.relativeTo origin)).modify index change' := by
    refine List.ext_getElem? fun place => ?_
    rw [List.getElem?_map, List.getElem?_modify, List.getElem?_modify, List.getElem?_map]
    cases client.monitors[place]? with
    | none => rfl
    | some monitor =>
      show some ((if index = place then change monitor else monitor).relativeTo origin) =
        some (if index = place then change' (monitor.relativeTo origin) else monitor.relativeTo origin)
      rw [apply_ite (Hang.Monitor.relativeTo origin), changes]
  unfold modifyMonitor relativeTo
  rw [monitors]

/-- What a client answers to a change, and what is left of it without its times. -/
def answerRelativeTo {α : Type} (origin : Int) (answered : α × Client κ) : α × Client κ :=
  (answered.1, answered.2.relativeTo origin)

theorem enableHangs_relativeTo (buffer : Hang.Buffer) (sight : Hang.Sight) :
    answerRelativeTo origin (client.enableHangs buffer sight) =
      (client.relativeTo origin).enableHangs buffer (sight.relativeTo origin) := by
  unfold enableHangs
  rw [show (client.relativeTo origin).lifecycle = client.lifecycle from rfl,
    show (client.relativeTo origin).settings = client.settings from rfl,
    show (client.relativeTo origin).monitors.length = client.monitors.length from List.length_map ..]
  dsimp only
  rw [← Hang.Monitor.start_relativeTo]
  cases client.lifecycle.enable client.monitors.length with
  | mk started lifecycle =>
    cases started with
    | none => rfl
    | some fresh =>
      cases fresh with
      | false => rfl
      | true =>
        dsimp only [answerRelativeTo, relativeTo, setLifecycle]
        rw [List.map_append, List.map_singleton]

theorem stopMonitor_relativeTo :
    answerRelativeTo origin client.stopMonitor = (client.relativeTo origin).stopMonitor := by
  unfold stopMonitor
  rw [show (client.relativeTo origin).lifecycle = client.lifecycle from rfl]
  cases client.lifecycle.installed with
  | none => rfl
  | some index =>
    exact congrArg (Prod.mk (some index))
      (client.modifyMonitor_relativeTo origin fun monitor => monitor.stop_relativeTo origin)

theorem disableHangs_relativeTo :
    answerRelativeTo origin client.disableHangs = (client.relativeTo origin).disableHangs := by
  unfold disableHangs
  rw [← stopMonitor_relativeTo]
  rfl

theorem close_relativeTo : answerRelativeTo origin client.close = (client.relativeTo origin).close := by
  unfold close
  rw [show (client.relativeTo origin).isClosed = client.isClosed from rfl, ← stopMonitor_relativeTo]
  cases client.isClosed <;> rfl

end Client

end CrashReporter
