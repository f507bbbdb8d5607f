/-
**The two ways of writing a field agree.**

A native caller may write to the template of the installed client and then make an event of it, or make
an event and write to that. A write to an event is the write to the template that the same call makes, with
the durations that a word holds (`EventRecord.writeField_eq`), and a snapshot sees a write to the template
as that one (`Template.snapshot_write`). So what is read of the template after any writes is what the same
writes make of an earlier reading (`write_runs`, `writeAll_runs`), and both ways lead to the same event
(`writes_agree`).
-/

import CrashReporter.Proofs.Native.Calls
import CrashReporter.Proofs.Template.Snapshot

namespace CrashReporter

/-! ### One write -/

/-- A duration of whole seconds with a sign is what a word holds of it. -/
theorem Duration.confined_ofSeconds? (seconds : Int64) :
    (ofSeconds? seconds).map confined = ofSeconds? seconds := by
  unfold ofSeconds?
  by_cases negative : seconds < 0
  · rw [if_pos negative]
    rfl
  · rw [if_neg negative]
    rw [Int64.lt_iff_toInt_lt, Int64.toInt_zero] at negative
    have read : seconds.toInt = if 2 * seconds.toUInt64.toNat < 2 ^ 64
        then (seconds.toUInt64.toNat : Int) else seconds.toUInt64.toNat - (2 ^ 64 : Nat) :=
      BitVec.toInt_eq_toNat_cond seconds.toBitVec
    have bound : seconds.toUInt64 ≤ 0x7FFFFFFFFFFFFFFF := by
      show seconds.toUInt64.toNat ≤ 0x7FFFFFFFFFFFFFFF
      have := seconds.toUInt64.toNat_lt
      split at read <;> omega
    show some (ofSeconds (min seconds.toUInt64 _)) = some (ofSeconds seconds.toUInt64)
    rw [show min seconds.toUInt64 0x7FFFFFFFFFFFFFFF = seconds.toUInt64 from if_pos bound]

namespace EventRecord

theorem setText_toField (event : EventRecord) (field : AppText) (value : Option String) :
    event.setText field.toField value = event.writeAppText field value := by
  cases field <;> rfl

/-- What a write to the template makes of an event, durations confined; none does nothing. -/
def writeConfined (event : EventRecord) : Option Write → EventRecord
  | some change => event.write change.confined
  | none => event

/-- **A native write to an event is the write to the template**, with the durations that a word holds. -/
theorem writeField_eq (event : EventRecord) (change : FieldWrite) :
    event.writeField change = event.writeConfined change.change? := by
  cases change with
  | context value => rfl
  | user id email name => rfl
  | appText field value => exact (event.setText_toField field value.read?).symm
  | versionCode value => rfl
  | duration value => exact congrArg event.setDuration (Duration.confined_ofSeconds? value).symm
  | durationInForeground value =>
    exact congrArg event.setDurationInForeground (Duration.confined_ofSeconds? value).symm
  | inForeground value => rfl
  | metadataText heading key value =>
    dsimp only [writeField, addMetadata, FieldWrite.change?]
    cases heading.read? with
    | none => rfl
    | some heading =>
      cases key.read? with
      | none => rfl
      | some key => cases value.read? <;> rfl
  | clearMetadata heading key =>
    dsimp only [writeField, FieldWrite.change?]
    cases heading.read? with
    | none => rfl
    | some heading => cases key.read? <;> rfl

/-- The event with another time. -/
def dated (event : EventRecord) (time : Instant) : EventRecord := { event with timestamp := time }

/-- A write does not look at the time. -/
theorem writeField_dated (event : EventRecord) (time : Instant) (change : FieldWrite) :
    (event.dated time).writeField change = (event.writeField change).dated time := by
  rw [writeField_eq, writeField_eq]
  cases change.change? with
  | none => rfl
  | some change =>
    cases change with
    | text field value => cases field <;> rfl
    | _ => rfl

/-- Makes one native write after the other. -/
def writeFields (event : EventRecord) (changes : List FieldWrite) : EventRecord :=
  changes.foldl writeField event

/-- Makes one native write to an event after the other. -/
def writeNatives (event : EventRecord) (changes : List EventWrite) : EventRecord :=
  changes.foldl writeNative event

theorem writeFields_dated (event : EventRecord) (time : Instant) (changes : List FieldWrite) :
    (event.dated time).writeFields changes = (event.writeFields changes).dated time := by
  induction changes generalizing event with
  | nil => rfl
  | cons change changes ih =>
    show ((event.dated time).writeField change).writeFields changes = _
    rw [writeField_dated, ih]
    rfl

end EventRecord

/-! ### Many writes -/

namespace NativeCall

variable {κ ν : Type}

/-- Makes one call after the other, whatever they answer. -/
def scriptAll : List (NativeCall κ) → Script κ ν Unit
  | [] => pure ()
  | call :: rest => do
    let _ ← call.script
    scriptAll rest

/-- Makes writes to the template, and then an event of it. -/
def writeThenMake (changes : List FieldWrite) : Script κ ν Handle := do
  scriptAll (changes.map .write)
  NativeCall.newEvent.script

/-- Makes an event of the template, and then writes to that. -/
def makeThenWrite (changes : List FieldWrite) : Script κ ν Handle := do
  let handle ← NativeCall.newEvent.script
  scriptAll (changes.map fun change => .writeEvent (some handle) (.field change))
  pure handle

end NativeCall

namespace Schedule

variable {κ ν : Type} {host : Host κ ν} {depth count : Nat} {schedule : Schedule κ ν} {id : ClientId}
  {client : Client κ}

/-- **A write to the template is seen in what is read of it**, as the write to an event. -/
theorem write_runs (installs : schedule.Installs id client) (change : FieldWrite) :
    ∃ final written, schedule.run host (depth + 1) count (NativeCall.write change).script =
        some ((), final) ∧
      final.Installs id written ∧ final.agent.clock = schedule.agent.clock ∧
      ∀ now, written.template.snapshot now = (client.template.snapshot now).writeField change := by
  simp only [EventRecord.writeField_eq]
  have script : ((NativeCall.write change).script : Script κ ν Unit) =
      match change.change? with
      | some change => Script.tell (.write change)
      | none => pure () := rfl
  rw [script]
  cases change.change? with
  | none => exact ⟨schedule, client, rfl, installs, rfl, fun now => rfl⟩
  | some change =>
    refine ⟨schedule.setClient id (client.write change), client.write change, ?_, installs.setClient _, rfl,
      client.template.snapshot_write change⟩
    unfold Script.tell
    rw [run_bind, run_onCurrent_some installs.current, run_call_write installs.held]
    rfl

theorem writeAll_runs (installs : schedule.Installs id client) (changes : List FieldWrite) :
    ∃ final written, schedule.run host (depth + 1) count (NativeCall.scriptAll (changes.map .write)) =
        some ((), final) ∧
      final.Installs id written ∧ final.agent.clock = schedule.agent.clock ∧
      ∀ now, written.template.snapshot now = (client.template.snapshot now).writeFields changes := by
  induction changes generalizing schedule client with
  | nil => exact ⟨schedule, client, rfl, installs, rfl, fun now => rfl⟩
  | cons change changes ih =>
    obtain ⟨middle, once, ran, still, clock, seen⟩ := write_runs installs change
    obtain ⟨final, written, rest, ends, later, snapshot⟩ := ih still
    refine ⟨final, written, (run_bind_of_eq ran _).trans rest, ends, later.trans clock, fun now => ?_⟩
    rw [snapshot, seen]
    rfl

/-- An event is made of the template as it is. -/
theorem newEvent_runs (installs : schedule.Installs id client) :
    ∃ handle final, schedule.run host (depth + 1) count NativeCall.newEvent.script =
        some (handle, final) ∧
      final.agent.event? handle = some (client.template.snapshot schedule.agent.clock.read.1) := by
  have added : ((schedule.agent.readClock.2.addEvent
      (client.template.snapshot schedule.agent.clock.read.1)).2.event?
        ⟨schedule.agent.events.length⟩) =
      some (client.template.snapshot schedule.agent.clock.read.1) :=
    congrArg Option.join List.getElem?_concat_length
  refine ⟨_, ⟨_, schedule.paused⟩, ?_, added⟩
  show schedule.run host (depth + 1) count NativeCall.newEventScript = _
  unfold NativeCall.newEventScript
  rw [run_bind, run_onCurrent_some installs.current, run_call_inspect installs.held]
  rfl

theorem run_event {handle : Handle} {event : EventRecord}
    (alive : schedule.agent.event? handle = some event) :
    schedule.run host (depth + 1) count (Script.event (some handle)) = some (some event, schedule) :=
  congrArg (fun event => some (event, schedule)) alive

theorem writeEvent_runs {handle : Handle} {event : EventRecord}
    (alive : schedule.agent.event? handle = some event) (change : EventWrite) :
    ∃ final, schedule.run host (depth + 1) count (NativeCall.writeEvent (some handle) change).script =
        some ((), final) ∧
      final.agent.event? handle = some (event.writeNative change) := by
  have found : schedule.agent.events[handle.index]? = some (some event) :=
    Option.join_eq_some_iff.mp alive
  have written : (schedule.agent.setEvent handle (some (event.writeNative change))).event? handle =
      some (event.writeNative change) :=
    congrArg Option.join (List.getElem?_set_self (List.getElem?_eq_some_iff.mp found).1)
  refine ⟨⟨_, schedule.paused⟩, ?_, written⟩
  exact run_bind_of_eq (run_event alive) _

/-- Writes to an event that is alive are made one after the other. -/
theorem writeNatives_runs {handle : Handle} {event : EventRecord}
    (alive : schedule.agent.event? handle = some event) (changes : List EventWrite) :
    ∃ final, schedule.run host (depth + 1) count (NativeCall.scriptAll
        (changes.map (.writeEvent (some handle)))) = some ((), final) ∧
      final.agent.event? handle = some (event.writeNatives changes) := by
  induction changes generalizing schedule event with
  | nil => exact ⟨schedule, rfl, alive⟩
  | cons change changes ih =>
    obtain ⟨middle, ran, still⟩ := writeEvent_runs alive change
    obtain ⟨final, rest, ends⟩ := ih still
    exact ⟨final, (run_bind_of_eq ran _).trans rest, ends⟩

theorem writeEventAll_runs {handle : Handle} {event : EventRecord}
    (alive : schedule.agent.event? handle = some event) (changes : List FieldWrite) :
    ∃ final, schedule.run host (depth + 1) count (NativeCall.scriptAll
        (changes.map fun change => .writeEvent (some handle) (.field change))) = some ((), final) ∧
      final.agent.event? handle = some (event.writeFields changes) := by
  obtain ⟨final, ran, ends⟩ := writeNatives_runs alive (changes.map .field)
  rw [List.map_map] at ran
  rw [EventRecord.writeNatives, List.foldl_map] at ends
  exact ⟨final, ran, ends⟩

/-- A read of an event that is alive answers what its field says, and does nothing. -/
theorem readEvent_runs {handle : Handle} {event : EventRecord}
    (alive : schedule.agent.event? handle = some event) (what : EventRead) :
    schedule.run host (depth + 1) count (NativeCall.readEvent (some handle) what).script =
      some (EventAddress.read (some event) what, schedule) :=
  run_bind_of_eq (run_event alive) _

/-! ### Both ways -/

/-- Written first and made then, an event is the template's present copy with all writes. -/
theorem writeThenMake_runs (installs : schedule.Installs id client) (changes : List FieldWrite) :
    ∃ handle final, schedule.run host (depth + 1) count (NativeCall.writeThenMake changes) =
        some (handle, final) ∧
      final.agent.event? handle =
        some ((client.template.snapshot schedule.agent.clock.read.1).writeFields changes) := by
  obtain ⟨middle, written, wrote, still, clock, seen⟩ := writeAll_runs installs changes
  obtain ⟨handle, final, created, alive⟩ := newEvent_runs still
  refine ⟨handle, final, (run_bind_of_eq wrote _).trans created, ?_⟩
  rw [alive, seen, clock]

/-- Made first and written then, it is the same. -/
theorem makeThenWrite_runs (installs : schedule.Installs id client) (changes : List FieldWrite) :
    ∃ handle final, schedule.run host (depth + 1) count (NativeCall.makeThenWrite changes) =
        some (handle, final) ∧
      final.agent.event? handle =
        some ((client.template.snapshot schedule.agent.clock.read.1).writeFields changes) := by
  obtain ⟨handle, middle, created, alive⟩ := newEvent_runs installs
  obtain ⟨final, wrote, ends⟩ := writeEventAll_runs alive changes
  exact ⟨handle, final, (run_bind_of_eq created _).trans (run_bind_of_eq wrote _), ends⟩

/-- The installed client is fresh: nothing was written to its template, and no breadcrumb was left. -/
def IsFresh (schedule : Schedule κ ν) : Prop :=
  ∃ id client capacity, schedule.Installs id client ∧ client.template = .ofTrail (.ofCapacity capacity)

/-- What `init` installs is fresh. -/
theorem install_isFresh (schedule : Schedule κ ν) (surroundings : Surroundings) (runtimeContext : UInt64) :
    IsFresh { schedule with agent := schedule.agent.install (.initial surroundings runtimeContext) } :=
  ⟨_, _, _, ⟨rfl, List.getElem?_concat_length⟩, rfl⟩

/-- **The two ways of writing agree.**

On fresh clients, in whatever schedules these are, any writes may be made to the template before an event
is made of it, or to the event afterwards. Both ways come to an end with an event, both events are one
record but for the time at which they were made, and whatever is read of them is the same. -/
theorem writes_agree (host : Host κ ν) (depth count : Nat) {first second : Schedule κ ν}
    (fresh : first.IsFresh) (other : second.IsFresh) (changes : List FieldWrite) :
    ∃ handle final handle' final' event,
      first.run host (depth + 1) count (NativeCall.writeThenMake changes) = some (handle, final) ∧
        second.run host (depth + 1) count (NativeCall.makeThenWrite changes) = some (handle', final') ∧
        final.agent.event? handle = some (EventRecord.dated event first.agent.clock.read.1) ∧
        final'.agent.event? handle' = some (event.dated second.agent.clock.read.1) ∧
        ∀ what, ∃ answer,
          final.run host (depth + 1) count (NativeCall.readEvent (some handle) what).script =
              some (answer, final) ∧
            final'.run host (depth + 1) count (NativeCall.readEvent (some handle') what).script =
              some (answer, final') := by
  obtain ⟨id, client, capacity, installs, made⟩ := fresh
  obtain ⟨id', client', capacity', installs', made'⟩ := other
  obtain ⟨handle, final, wrote, alive⟩ := writeThenMake_runs installs changes
  obtain ⟨handle', final', wrote', alive'⟩ := makeThenWrite_runs installs' changes
  -- Fresh templates are read as the same plain event, at whatever time.
  have plain {capacity : Nat} (now : Instant) :
      (Template.ofTrail (.ofCapacity capacity) : Template κ).snapshot now =
        (EventRecord.make first.agent.clock.read.1).dated now := Template.ofTrail_mirrors (.ofCapacity capacity) now
  rw [made, plain, EventRecord.writeFields_dated] at alive
  rw [made', plain, EventRecord.writeFields_dated] at alive'
  exact ⟨handle, final, handle', final', _, wrote, wrote', alive, alive', fun what =>
    ⟨_, readEvent_runs alive what, readEvent_runs alive' what⟩⟩

/-- Writes of null, of octets that are no UTF-8, and of the least and greatest numbers. -/
def oddWrites : List FieldWrite :=
  [.context ⟨some [0x62, 0xFF]⟩, .user .null ⟨some []⟩ ⟨some [0x61, 0, 0x62]⟩, .appText .type .null,
    .versionCode (-0x80000000), .duration (-1), .durationInForeground 0x7FFFFFFFFFFFFFFF,
    .inForeground false, .metadataText ⟨some [0x61]⟩ ⟨some [0xC3]⟩ ⟨some [0x62]⟩,
    .metadataText ⟨some [0x61]⟩ .null ⟨some [0x62]⟩, .clearMetadata .null ⟨some [0x61]⟩,
    .clearMetadata ⟨some [0x61]⟩ .null]

/-- A schedule at whose start a client is installed without any settings. -/
def launched (now : Instant) : Schedule Empty Unit :=
  .start ((Agent.start (.still now) (fun _ => 0) ()).install (.initial ⟨fun _ => none, fun _ => .missing⟩ 0))

theorem launched_isFresh (now : Instant) : (launched now).IsFresh :=
  install_isFresh (.start (Agent.start (.still now) (fun _ => 0) ())) _ 0

/-- A host without callbacks. -/
def silent : Host Empty Unit := ⟨nofun, nofun, nofun, nofun⟩

/-- A later moment of the same day. -/
def nightfall : Instant :=
  ⟨Template.daybreak.date, ⟨21, 22, 23, 24, by decide, by decide, by decide, by decide⟩⟩

/-- The odd writes at two different times. -/
theorem writes_agree_odd :
    ∃ handle final handle' final' event,
      (launched Template.daybreak).run silent 1 0 (NativeCall.writeThenMake oddWrites) =
          some (handle, final) ∧
        (launched nightfall).run silent 1 0 (NativeCall.makeThenWrite oddWrites) =
          some (handle', final') ∧
        final.agent.event? handle =
          some (EventRecord.dated event (launched Template.daybreak).agent.clock.read.1) ∧
        final'.agent.event? handle' = some (event.dated (launched nightfall).agent.clock.read.1) ∧
        ∀ what, ∃ answer,
          final.run silent 1 0 (NativeCall.readEvent (some handle) what).script =
              some (answer, final) ∧
            final'.run silent 1 0 (NativeCall.readEvent (some handle') what).script =
              some (answer, final') :=
  writes_agree silent 0 0 (launched_isFresh _) (launched_isFresh _) oddWrites

end Schedule

end CrashReporter
