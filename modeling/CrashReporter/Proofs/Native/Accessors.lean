/-
**What native reads of an event answer after native writes.**

Each write passes an argument for some fields (`EventWrite.text?`, `EventWrite.duration?`, …) or an operation for
the metadata. `writeNative_eq_overwrite` says what one write does to each field of a record and that it does no
more, and `writeNatives_overwritten` what many writes do: the last argument for a field decides, and a field
without one is left.

* `CText.ofText?_read?`: a text that was written is read as its lossily decoded octets, if there are any;
* `seconds_ofSeconds?`, `seconds_toInt`: a negative number of seconds unsets a span and is read as zero, and a
  stored span is read as the seconds that fit;
* `answers_of_overwritten`: what is read is what the last arguments determine.

`writeNatives_answers` is the account of it for events, null and handles.
-/

import CrashReporter.Proofs.Event.Decoded
import CrashReporter.Proofs.Event.Pairs
import CrashReporter.Proofs.Native.Writes
import CrashReporter.Proofs.Text.NormalForm

namespace CrashReporter

/-! ## Part 1 — arguments -/

namespace CText

/-- The C string that is read of a text once the argument has been written to it: null for null and for an empty
string, and otherwise the octets before the first NUL, decoded lossily, and a NUL. -/
def shown (argument : CText) : CText :=
  match argument.octets?.map Text.cString with
  | none => null
  | some [] => null
  | some octets => ⟨some (Utf8.encode (Utf8.decodeLossy octets) ++ [0])⟩

/-- **A text that was written is read as its decoded octets.** -/
theorem ofText?_read? (argument : CText) : ofText? (Text.ofOption? argument.read?) = argument.shown := by
  obtain ⟨octets?⟩ := argument
  cases octets? with
  | none => rfl
  | some octets =>
    have read : Text.ofOption? (CText.read? ⟨some octets⟩) = Text.ofOctets? octets := (Text.ofOctets?_eq octets).symm
    unfold shown
    rw [read, Option.map_some]
    cases made : Text.ofOctets? octets with
    | none =>
      rw [(Text.ofOctets?_eq_none_iff octets).mp made]
      rfl
    | some text =>
      have content := (Text.ofOctets?_eq_some_iff octets text).mp made
      cases spelled : Text.cString octets with
      | nil =>
        rw [(Text.ofOctets?_eq_none_iff octets).mpr spelled] at made
        cases made
      | cons octet rest =>
        show (⟨some (Utf8.encode text.content.toList ++ [0])⟩ : CText) = _
        rw [content, spelled]

end CText

/-- The seconds that are read of a span; zero if there is none. -/
def Duration.shown (span : Option Duration) : Int :=
  match span with
  | some span => min span.seconds.toNat 0x7FFFFFFFFFFFFFFF
  | none => 0

theorem EventAddress.seconds_toInt (span : Option Duration) :
    (seconds span).toInt = Duration.shown span := by
  cases span with
  | none => rfl
  | some span =>
    have nonnegative : 0 ≤ (span.seconds.toNat : Int) := Int.natCast_nonneg _
    exact Int64.toInt_ofInt_of_le (by omega) (by omega)

/-- **A number of seconds is read as it was written**, a negative one as zero. -/
theorem EventAddress.seconds_ofSeconds? (value : Int64) :
    Duration.shown (Duration.ofSeconds? value) = max value.toInt 0 := by
  unfold Duration.ofSeconds?
  by_cases negative : value < 0
  · rw [if_pos negative]
    rw [Int64.lt_iff_toInt_lt, Int64.toInt_zero] at negative
    exact (max_eq_right negative.le).symm
  · rw [if_neg negative]
    rw [Int64.lt_iff_toInt_lt, Int64.toInt_zero] at negative
    have read : value.toInt = if 2 * value.toUInt64.toNat < 2 ^ 64
        then (value.toUInt64.toNat : Int) else value.toUInt64.toNat - (2 ^ 64 : Nat) :=
      BitVec.toInt_eq_toNat_cond value.toBitVec
    have bound := value.toUInt64.toNat_lt
    show min (value.toUInt64.toNat : Int) 0x7FFFFFFFFFFFFFFF = max value.toInt 0
    split at read <;> omega

namespace EventWrite

/-- What a write passes for a text field, if it writes to that. -/
def text? : EventWrite → EventText → Option CText
  | .field (.context value), .context => some value
  | .field (.user id _ _), .userId => some id
  | .field (.user _ email _), .userEmail => some email
  | .field (.user _ _ name), .userName => some name
  | .field (.appText written value), .app other => if written = other then some value else none
  | _, _ => none

/-- What a write passes for the version code, if it writes to that. -/
def versionCode? : EventWrite → Option Int32
  | .field (.versionCode value) => some value
  | _ => none

/-- What a write passes for the time since the start of the app, if it writes to that. -/
def duration? : EventWrite → Option Int64
  | .field (.duration value) => some value
  | _ => none

/-- What a write passes for the time that the app was in the foreground, if it writes to that. -/
def durationInForeground? : EventWrite → Option Int64
  | .field (.durationInForeground value) => some value
  | _ => none

/-- What a write passes for whether the app is in the foreground, if it writes to that. -/
def inForeground? : EventWrite → Option Bool
  | .field (.inForeground value) => some value
  | _ => none

/-- The severity whose code a write passes, if it writes to that and the code is known. -/
def severity? : EventWrite → Option Severity
  | .severity code => (Severity.ofCode code).toOption
  | _ => none

/-- The code that a write passes for the severity, if it is known. -/
def severityCode? : EventWrite → Option Int32
  | .severity code => if code ∈ [0, 1, 2] then some code else none
  | _ => none

/-- What setting a value does to the metadata: without a section or a key nothing, and without a value the
key is removed. -/
def setting? (heading key : CText) (value : Option Json) : Option Metadata.Operation :=
  match heading.read?, key.read? with
  | some heading, some key =>
    match value with
    | some value => some (.add heading key value)
    | none => some (.clearKey heading key)
  | _, _ => none

/-- What a write does to the metadata, if it does anything. -/
def operation? : EventWrite → Option Metadata.Operation
  | .field (.metadataText heading key value) => setting? heading key (value.read?.map .string)
  | .field (.clearMetadata heading key) =>
    heading.read?.map fun heading =>
      match key.read? with
      | some key => .clearKey heading key
      | none => .clearSection heading
  | .metadataBool heading key value => setting? heading key (some (.bool value))
  | .metadataDouble heading key bits =>
    setting? heading key ((Double.ofBits? bits).map fun double => .number (.double double))
  | _ => none

end EventWrite

/-! ## Part 2 — one write -/

/-- What a text field holds once the argument has been written to it. -/
def CText.text? (argument : CText) : Option Text :=
  Text.ofOption? argument.read?

namespace EventRecord

variable (event : EventRecord) (change : EventWrite)

/-- What a text field holds after a write, if it held something before. -/
def overwriteText (field : EventText) : Option Text :=
  ((change.text? field).map CText.text?).getD (event.text? field)

/-- The event with the arguments of a write in their fields, and everything else as it was. -/
def overwrite : EventRecord where
  timestamp := event.timestamp
  context := event.overwriteText change .context
  app :=
    { binaryArch := event.overwriteText change (.app .binaryArch)
      buildUuid := event.overwriteText change (.app .buildUuid)
      id := event.overwriteText change (.app .id)
      releaseStage := event.overwriteText change (.app .releaseStage)
      type := event.overwriteText change (.app .type)
      version := event.overwriteText change (.app .version)
      versionCode := (change.versionCode?.map some).getD event.app.versionCode
      duration := (change.duration?.map Duration.ofSeconds?).getD event.app.duration
      durationInForeground :=
        (change.durationInForeground?.map Duration.ofSeconds?).getD event.app.durationInForeground
      inForeground := (change.inForeground?.map some).getD event.app.inForeground }
  user :=
    { id := event.overwriteText change .userId
      email := event.overwriteText change .userEmail
      name := event.overwriteText change .userName }
  error := event.error
  severity := change.severity?.getD event.severity
  unhandled := event.unhandled
  breadcrumbs := event.breadcrumbs
  metadata := event.metadata.applyAll change.operation?.toList

/-- Setting a value in the metadata of an event is an operation, or nothing. -/
theorem addMetadata_eq {α : Type} (heading key : CText) (encode : α → Json) (value : Option α) :
    event.addMetadata heading key (.ofOption encode value) =
      { event with
        metadata :=
          event.metadata.applyAll (EventWrite.setting? heading key (value.map encode)).toList } := by
  unfold addMetadata EventWrite.setting?
  cases heading.read? with
  | none => rfl
  | some heading =>
    cases key.read? with
    | none => rfl
    | some key => cases value <;> rfl

/-- **A write puts its arguments into their fields and does no more.** -/
theorem writeNative_eq_overwrite : event.writeNative change = event.overwrite change := by
  cases change with
  | field change =>
    cases change with
    | context value => rfl
    | user id email name => rfl
    | appText field value => cases field <;> rfl
    | versionCode value => rfl
    | duration value => rfl
    | durationInForeground value => rfl
    | inForeground value => rfl
    | metadataText heading key value => exact event.addMetadata_eq heading key .string value.read?
    | clearMetadata heading key =>
      obtain ⟨heading⟩ := heading
      obtain ⟨key⟩ := key
      cases heading with
      | none => rfl
      | some heading => cases key <;> rfl
  | severity code =>
    dsimp only [writeNative, overwrite, EventWrite.severity?]
    cases Severity.ofCode code <;> rfl
  | metadataBool heading key value => exact event.addMetadata_eq heading key .bool (some value)
  | metadataDouble heading key bits => exact event.addMetadata_eq heading key _ (Double.ofBits? bits)

end EventRecord

/-! ## Part 3 — many writes -/

/-- The last of the arguments that writes pass. -/
def EventWrite.last? {α : Type} (argument? : EventWrite → Option α) (changes : List EventWrite) :
    Option α :=
  (changes.filterMap argument?).getLast?

theorem EventWrite.last?_map {α β : Type} (argument? : EventWrite → Option α) (hold : α → β)
    (changes : List EventWrite) :
    last? (fun change => (argument? change).map hold) changes = (last? argument? changes).map hold := by
  unfold last?
  rw [← List.map_filterMap, List.getLast?_map]

namespace EventRecord

open EventWrite (last?)

/-- What writes make of a record: the last argument for a field decides what it holds, a field without one is
left, and so is everything else. -/
structure Overwritten (event : EventRecord) (changes : List EventWrite) (final : EventRecord) :
    Prop where
  text : ∀ field, final.text? field =
    ((last? (·.text? field) changes).map CText.text?).getD (event.text? field)
  versionCode : final.app.versionCode =
    ((last? EventWrite.versionCode? changes).map some).getD event.app.versionCode
  duration : final.app.duration =
    ((last? EventWrite.duration? changes).map Duration.ofSeconds?).getD event.app.duration
  durationInForeground : final.app.durationInForeground =
    ((last? EventWrite.durationInForeground? changes).map Duration.ofSeconds?).getD
      event.app.durationInForeground
  inForeground : final.app.inForeground =
    ((last? EventWrite.inForeground? changes).map some).getD event.app.inForeground
  severity : final.severity = (last? EventWrite.severity? changes).getD event.severity
  metadata : final.metadata = event.metadata.applyAll (changes.filterMap EventWrite.operation?)
  timestamp : final.timestamp = event.timestamp
  error : final.error = event.error
  unhandled : final.unhandled = event.unhandled
  breadcrumbs : final.breadcrumbs = event.breadcrumbs

theorem text?_overwrite (event : EventRecord) (change : EventWrite) (field : EventText) :
    (event.overwrite change).text? field = event.overwriteText change field := by
  cases field with
  | errorClass | errorMessage => cases change with
    | field change => cases change <;> rfl
    | _ => rfl
  | app field => cases field <;> rfl
  | _ => rfl

theorem metadata_writeNatives (event : EventRecord) (changes : List EventWrite) :
    (event.writeNatives changes).metadata =
      event.metadata.applyAll (changes.filterMap EventWrite.operation?) := by
  induction changes generalizing event with
  | nil => rfl
  | cons change changes ih =>
    refine (ih _).trans ?_
    rw [writeNative_eq_overwrite, List.filterMap_cons]
    dsimp only [overwrite]
    cases change.operation? with
    | none => rfl
    | some operation => rfl

/-- **Writes put their last arguments into the fields.** -/
theorem writeNatives_overwritten (event : EventRecord) (changes : List EventWrite) :
    Overwritten event changes (event.writeNatives changes) := by
  have kept {β : Type} (view : EventRecord → β)
      (blind : ∀ event change, view (overwrite event change) = view event) :
      view (event.writeNatives changes) = view event := by
    have one (event : EventRecord) (change : EventWrite) :
        view (event.writeNative change) = (none : Option β).getD (view event) := by
      rw [writeNative_eq_overwrite, blind]; rfl
    rw [writeNatives, view_foldl view one changes event]
    simp
  have set {α β : Type} (view : EventRecord → β) (argument? : EventWrite → Option α) (hold : α → β)
      (one : ∀ event change,
        view (overwrite event change) = ((argument? change).map hold).getD (view event)) :
      view (event.writeNatives changes) = ((last? argument? changes).map hold).getD (view event) := by
    rw [← EventWrite.last?_map]
    refine view_foldl view (fun event change => ?_) changes event
    rw [writeNative_eq_overwrite, one]
  refine ⟨fun field => ?_, ?_, ?_, ?_, ?_, ?_, event.metadata_writeNatives changes, ?_, ?_, ?_, ?_⟩
  · exact set (text? · field) (·.text? field) CText.text? fun event change => text?_overwrite ..
  · exact set (fun event => event.app.versionCode) _ _ fun _ _ => rfl
  · exact set (fun event => event.app.duration) _ _ fun _ _ => rfl
  · exact set (fun event => event.app.durationInForeground) _ _ fun _ _ => rfl
  · exact set (fun event => event.app.inForeground) _ _ fun _ _ => rfl
  · have last := set severity EventWrite.severity? id fun event change => by
      rw [Option.map_id]; rfl
    rwa [Option.map_id] at last
  · exact kept timestamp fun _ _ => rfl
  · exact kept error fun _ _ => rfl
  · exact kept unhandled fun _ _ => rfl
  · exact kept breadcrumbs fun _ _ => rfl

end EventRecord

/-! ## Part 4 — what is read -/

namespace CText

theorem ofText?_eq_null_iff (text : Option Text) : ofText? text = null ↔ text = none := by
  cases text with
  | none => exact iff_of_true rfl rfl
  | some text => exact iff_of_false nofun nofun

theorem shown_eq_null_iff (argument : CText) :
    argument.shown = null ↔ ∀ octets ∈ argument.octets?, Text.cString octets = [] := by
  obtain ⟨octets?⟩ := argument
  cases octets? with
  | none => exact iff_of_true rfl nofun
  | some octets =>
    have only : (∀ other ∈ some octets, Text.cString other = []) ↔ Text.cString octets = [] := by simp
    refine Iff.trans ?_ only.symm
    show shown ⟨some octets⟩ = null ↔ _
    unfold shown
    rw [Option.map_some]
    cases Text.cString octets with
    | nil => exact iff_of_true rfl rfl
    | cons octet rest => exact iff_of_false nofun nofun

end CText

/-- Exactly the codes of severities are known. -/
theorem EventWrite.severityCode?_eq (change : EventWrite) :
    change.severityCode? = change.severity?.map Severity.code := by
  cases change with
  | severity code =>
    show (if code ∈ [0, 1, 2] then some code else none) = (Severity.ofCode code).toOption.map _
    by_cases known : code ∈ [0, 1, 2]
    · rw [if_pos known]
      simp only [List.mem_cons, List.not_mem_nil, or_false] at known
      rcases known with rfl | rfl | rfl <;> rfl
    · rw [if_neg known]
      simp only [List.mem_cons, List.not_mem_nil, or_false, not_or] at known
      have unknown : Severity.all.find? (fun severity => severity.code = code) = none := by
        rw [List.find?_eq_none]
        intro severity _
        cases severity <;> simp [Severity.code, eq_comm, known]
      unfold Severity.ofCode
      rw [unknown]
      rfl
  | _ => rfl

namespace EventAddress

open EventWrite (last?)

/-- What is read at an address once writes have been made to a record. -/
structure Answers (event : EventRecord) (changes : List EventWrite) (address : EventAddress) :
    Prop where
  text : ∀ field, address.text field =
    ((last? (·.text? field) changes).map CText.shown).getD (.ofText? (event.text? field))
  /-- Null is read of a text if the last write was null or empty, or if there was none and the field is unset. -/
  null : ∀ field, address.text field = .null ↔
    match last? (·.text? field) changes with
    | some argument => ∀ octets ∈ argument.octets?, Text.cString octets = []
    | none => event.text? field = none
  versionCode : address.versionCode =
    (last? EventWrite.versionCode? changes).getD (event.app.versionCode.getD (-1))
  duration : address.duration.toInt =
    ((last? EventWrite.duration? changes).map fun value => max value.toInt 0).getD
      (Duration.shown event.app.duration)
  durationInForeground : address.durationInForeground.toInt =
    ((last? EventWrite.durationInForeground? changes).map fun value => max value.toInt 0).getD
      (Duration.shown event.app.durationInForeground)
  severity : address.severity = (last? EventWrite.severityCode? changes).getD event.severity.code
  unhandled : address.unhandled = event.unhandled
  inForeground : address.inForeground =
    (last? EventWrite.inForeground? changes).getD (event.app.inForeground.getD false)

/-- **What is read is what the last arguments determine.** -/
theorem answers_of_overwritten {event final : EventRecord} {changes : List EventWrite}
    (h : event.Overwritten changes final) : Answers event changes (some final) := by
  have text (field : EventText) : EventAddress.text (some final) field =
      ((last? (·.text? field) changes).map CText.shown).getD (.ofText? (event.text? field)) := by
    show CText.ofText? (final.text? field) = _
    rw [h.text]
    cases last? (·.text? field) changes with
    | none => rfl
    | some argument => exact argument.ofText?_read?
  have span {held : Option Duration} {stored : Option Duration} {argument? : EventWrite → Option Int64}
      (overwritten : held = ((last? argument? changes).map Duration.ofSeconds?).getD stored) :
      (seconds held).toInt =
        ((last? argument? changes).map fun value => max value.toInt 0).getD (Duration.shown stored) := by
    rw [seconds_toInt, overwritten]
    cases last? argument? changes with
    | none => rfl
    | some value => exact seconds_ofSeconds? value
  refine ⟨text, fun field => ?_, ?_, span h.duration, span h.durationInForeground, ?_, h.unhandled, ?_⟩
  · rw [text]
    cases last? (·.text? field) changes with
    | none => exact CText.ofText?_eq_null_iff _
    | some argument => exact argument.shown_eq_null_iff
  · show final.app.versionCode.getD (-1) = _
    rw [h.versionCode]
    cases last? EventWrite.versionCode? changes <;> rfl
  · have codes : EventWrite.severityCode? = fun change => change.severity?.map Severity.code :=
      funext EventWrite.severityCode?_eq
    show final.severity.code = _
    rw [h.severity, codes, EventWrite.last?_map]
    cases last? EventWrite.severity? changes <;> rfl
  · show final.app.inForeground.getD false = _
    rw [h.inForeground]
    cases last? EventWrite.inForeground? changes <;> rfl

theorem text?_make (now : Instant) (field : EventText) : (EventRecord.make now).text? field = none := by
  cases field with
  | app field => cases field <;> rfl
  | _ => rfl

/-- Null is read as an event of which nothing is known. -/
theorem none_answers (now : Instant) : Answers (.make now) [] none := by
  refine ⟨fun field => ?_, fun field => iff_of_true rfl (text?_make now field), rfl, rfl, rfl, rfl, rfl,
    rfl⟩
  show CText.null = .ofText? ((EventRecord.make now).text? field)
  rw [text?_make]
  rfl

end EventAddress

/-! ## Part 5 — records and handles -/

/-- The metadata of an event that is kept as dictionaries is in order. -/
theorem EventRecord.Ordered.inOrder {event : EventRecord} (ordered : event.Ordered) :
    event.metadata.InOrder := by
  obtain ⟨sections, each⟩ := event.metadata.toJson_ordered_iff.mp ordered.own
  exact ⟨sections, fun entry member => ((Json.everywhere_object _).mp (each entry member)).1⟩

namespace Schedule

variable {κ ν : Type} {host : Host κ ν} {depth count : Nat}

/-- Writes to null do nothing. -/
theorem writeNone_runs (schedule : Schedule κ ν) (changes : List EventWrite) :
    schedule.run host (depth + 1) count (NativeCall.scriptAll (changes.map (.writeEvent none))) =
      some ((), schedule) := by
  induction changes with
  | nil => rfl
  | cons change changes ih => exact (run_bind_of_eq rfl _).trans ih

/-- **What native reads answer after native writes.**

For any event and any writes, each read answers what the last argument for its field determines, and no field
changes without one. The metadata changes by the operations of the writes, and what stands under each
pair of section and key is what they make of it; metadata that was decoded is in order to begin with.
The same holds of every handle of an event that is alive. Null is read as an event of which nothing is
known, and writes to it do nothing. -/
theorem writeNatives_answers (event : EventRecord) (changes : List EventWrite) :
    event.Overwritten changes (event.writeNatives changes) ∧
    EventAddress.Answers event changes (some (event.writeNatives changes)) ∧
    (event.metadata.InOrder →
      (event.writeNatives changes).metadata.get? =
        Metadata.Pairs.afterAll event.metadata.get? (changes.filterMap EventWrite.operation?)) ∧
    (∀ levels node, Decode.event? levels node = some event → event.metadata.InOrder) ∧
    (∀ (host : Host κ ν) (depth count : Nat) (schedule : Schedule κ ν) (handle : Handle),
      schedule.agent.event? handle = some event →
        ∃ final, schedule.run host (depth + 1) count
            (NativeCall.scriptAll (changes.map (.writeEvent (some handle)))) = some ((), final) ∧
          final.agent.event? handle = some (event.writeNatives changes) ∧
          ∀ what, final.run host (depth + 1) count (NativeCall.readEvent (some handle) what).script =
            some (EventAddress.read (some (event.writeNatives changes)) what, final)) ∧
    (∀ now, EventAddress.Answers (.make now) [] none) ∧
    ∀ (host : Host κ ν) (depth count : Nat) (schedule : Schedule κ ν),
      schedule.run host (depth + 1) count
          (NativeCall.scriptAll (changes.map (.writeEvent none))) = some ((), schedule) ∧
        ∀ what, schedule.run host (depth + 1) count (NativeCall.readEvent none what).script =
          some (EventAddress.read none what, schedule) := by
  have overwritten := event.writeNatives_overwritten changes
  refine ⟨overwritten, EventAddress.answers_of_overwritten overwritten, fun ordered => ?_,
    fun levels node read => (Decode.event?_sound read).ordered.inOrder, ?_, EventAddress.none_answers, ?_⟩
  · rw [overwritten.metadata]
    exact Metadata.get?_applyAll ordered _
  · intro host depth count schedule handle alive
    obtain ⟨final, ran, ends⟩ := writeNatives_runs alive changes
    exact ⟨final, ran, ends, readEvent_runs ends⟩
  · intro host depth count schedule
    exact ⟨schedule.writeNone_runs changes, fun what => rfl⟩

/-- An event as it is written by position, with a context, a duration and something in its metadata. -/
def positional : Json.Node :=
  let name (content : String) : List Json.Piece := content.toList.map .character
  .array [.text (name "2025-05-06T07:08:09.000000010Z"), .text (name "start"),
    .object [(name "duration", .numeral ⟨false, [9], [], none⟩)], .object [], .null, .text (name "error"),
    .bool true, .array [], .object [(name "a", .object [(name "b", .bool true)])]]

/-- Writes of octets that are no UTF-8, of an unknown code, of a negative number and of no number. -/
def badWrites : List EventWrite :=
  [.field (.context ⟨some [0xFF, 0, 0x61]⟩), .severity 99, .field (.duration 7), .field (.duration (-7)),
    .metadataDouble ⟨some [0x61]⟩ ⟨some [0x62]⟩ 0x7FF8000000000000]

/-- The event that is so written. -/
def started : EventRecord :=
  { EventRecord.make Template.daybreak with
    context := some ⟨"start", by decide, by decide⟩
    app := { AppInfo.unknown with duration := some (.ofSeconds 9) }
    unhandled := true
    metadata := ⟨[("a", [("b", .bool true)])]⟩ }

/-- A schedule in which the event is alive. -/
def attending (event : EventRecord) : Schedule Empty Unit :=
  .start ((Agent.start (.still event.timestamp) (fun _ => 0) ()).addEvent event).2

/-- The bad writes to an event that was decoded and is alive. -/
theorem writeNatives_answers_bad :
    Decode.event? 3 positional = some started ∧
      EventAddress.text (some (started.writeNatives badWrites)) .context =
        ⟨some [0xEF, 0xBF, 0xBD, 0]⟩ ∧
      (EventAddress.duration (some (started.writeNatives badWrites))).toInt = 0 ∧
      EventAddress.severity (some (started.writeNatives badWrites)) = 0 ∧
      (started.writeNatives badWrites).metadata.get? "a" "b" = none ∧
      (attending started).agent.event? ⟨0⟩ = some started ∧
      ∃ final, (attending started).run silent 1 0
          (NativeCall.scriptAll (badWrites.map (.writeEvent (some ⟨0⟩)))) = some ((), final) ∧
        final.agent.event? ⟨0⟩ = some (started.writeNatives badWrites) ∧
        ∀ what, final.run silent 1 0 (NativeCall.readEvent (some ⟨0⟩) what).script =
          some (EventAddress.read (some (started.writeNatives badWrites)) what, final) := by
  have decoded : Decode.event? 3 positional = some started := rfl
  obtain ⟨-, answers, pairs, inOrder, handles, -⟩ :=
    writeNatives_answers (κ := Empty) (ν := Unit) started badWrites
  refine ⟨decoded, answers.text .context, answers.duration, answers.severity, ?_, rfl,
    handles silent 0 0 (attending started) ⟨0⟩ rfl⟩
  rw [pairs (inOrder 3 positional decoded)]
  rfl

end Schedule

end CrashReporter
