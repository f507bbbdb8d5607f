/-
**Events survive their JSON text.**

`EventRecord.parse?_toText`, in three parts:

* the text of an event in order is read as the event, durations in whole seconds;
* every event that is made is in order;
* the text of an event that was read is read as that event, so that writing it once more gives the same
  text.

What is read back are integers: the value of a numeral with fraction or exponent is a double, of which
nothing is said here.
-/

import CrashReporter.Proofs.Event.Order
import CrashReporter.Proofs.Event.Written

namespace CrashReporter

open CrashReporter.Json (Node)

/-- No numeral of a JSON text means a double. -/
def Json.HoldsNoDouble (text : String) : Prop :=
  ∀ node, Node.parse? text = some node → node.Whole

namespace EventRecord

/-- The text of an event is read as the event, durations in whole seconds. -/
theorem parse?_toText_of_whole {event : EventRecord} (ordered : event.Ordered) (whole : event.Whole)
    (shallow : event.toJson.depth ≤ Json.nestingLimit) :
    parse? event.toText = some event.inWholeSeconds := by
  have tree : Node.parse? event.toText = some event.toJson.toNode :=
    Json.parse?_render (event.toJson_whole_iff.mpr whole)
  rw [parse?, Decode.fromText?, tree, Option.bind_some]
  exact Decode.event?_toNode whole ordered shallow

/-- What was read of a text is sound. -/
theorem sound_of_parse? {text : String} {event : EventRecord} (read : parse? text = some event) :
    ∃ node, Node.parse? text = some node ∧ Decode.SoundEvent Json.nestingLimit node event := by
  obtain ⟨node, tree, decoded⟩ := Option.bind_eq_some_iff.mp read
  exact ⟨node, tree, Decode.event?_sound decoded⟩

/-- The text of an event that was read is read as that event. -/
theorem parse?_toText_of_parse? {text : String} {event : EventRecord} (read : parse? text = some event)
    (whole : event.Whole) : parse? event.toText = some event := by
  obtain ⟨node, _, sound⟩ := sound_of_parse? read
  have again := parse?_toText_of_whole sound.ordered whole sound.shallow
  rwa [sound.inWholeSeconds] at again

/-- **Events survive their JSON text**: an event whose metadata holds no double and whose text is not
nested too deep is read back, durations in whole seconds; and an event that was read, from a text without
doubles or without doubles itself, is read back as it is, so that writing it once more gives the same
text. Metadata is kept as dictionaries to begin with, as every event that is made keeps it. -/
theorem parse?_toText :
    (∀ event : EventRecord, event.Ordered → event.Whole →
      event.toJson.depth ≤ Json.nestingLimit → parse? event.toText = some event.inWholeSeconds) ∧
    (∀ event : EventRecord, event.Made → event.Ordered) ∧
    ∀ (text : String) (event : EventRecord), parse? text = some event →
      Json.HoldsNoDouble text ∨ event.Whole →
        parse? event.toText = some event ∧ (parse? event.toText).map toText = some event.toText := by
  refine ⟨fun event => parse?_toText_of_whole, fun event => ordered_of_made, fun text event read plain => ?_⟩
  have whole : event.Whole := by
    obtain ⟨node, tree, sound⟩ := sound_of_parse? read
    rcases plain with plain | whole
    · exact sound.whole (plain node tree)
    · exact whole
  have again := parse?_toText_of_parse? read whole
  exact ⟨again, by rw [again, Option.map_some]⟩

/-- The moment of a request. -/
def asking : Instant :=
  ⟨⟨2024, 2, 29, by decide, by decide, by decide⟩,
    ⟨12, 29, 30, 500000000, by decide, by decide, by decide, by decide⟩⟩

/-- A request, with what came of it. -/
def request : Breadcrumb :=
  (Breadcrumb.mk asking ⟨"GET /", by decide, by decide⟩ .request []).withMetadata "ok" (.bool false)
    |>.withMetadata "bytes" (.number (.integer 18446744073709551615 (by decide)))

/-- A hang of an app that ran for a second and a half, after a request. -/
def slowStart : EventRecord :=
  { EventRecord.make ⟨⟨2024, 2, 29, by decide, by decide, by decide⟩,
      ⟨12, 30, 60, 250000000, by decide, by decide, by decide, by decide⟩⟩ with
    app := { AppInfo.unknown with duration := some (.ofMilliseconds 1500) }
    error := some ⟨⟨"Hang \"main\"", by decide, by decide⟩, none⟩
    breadcrumbs := [request]
    metadata := ⟨[("device", [("cores", .array [.number (.integer (-1) (by decide)), .null]),
      ("tags", .object [])])]⟩ }

theorem slowStart_made : slowStart.Made := by
  have said : Breadcrumb.make asking "GET /" .request =
      .ok ⟨asking, ⟨"GET /", by decide, by decide⟩, .request, []⟩ := rfl
  have ok : (Json.bool false).Ordered := trivial
  have bytes : (Json.number (.integer 18446744073709551615 (by decide))).Ordered := trivial
  have asked : request.Made := ((Breadcrumb.Made.make said).withMetadata "ok" ok).withMetadata "bytes" bytes
  have tags : (Write.metadata "device" "tags" (.object [])).SetsOrdered := ⟨.nil, trivial⟩
  have cores : (Write.metadata "device" "cores" (.array [.number (.integer (-1) (by decide)), .null])).SetsOrdered :=
    ⟨trivial, trivial, trivial, trivial⟩
  have written := (((Made.make slowStart.timestamp).push asked).write tags).write cores
  exact written.restate rfl fun _ member => member

/-- The event is read back, and what was read is read back once more. -/
theorem parse?_toText_slowStart :
    slowStart.Ordered ∧ parse? slowStart.toText = some slowStart.inWholeSeconds ∧
      parse? slowStart.inWholeSeconds.toText = some slowStart.inWholeSeconds ∧
        slowStart.inWholeSeconds.app.duration = some (.ofSeconds 1) := by
  have whole : slowStart.Whole := by
    refine ⟨?_, ?_⟩
    · exact ⟨trivial, ⟨trivial, ⟨trivial, trivial, trivial, trivial⟩, ⟨trivial, trivial⟩, trivial⟩, trivial⟩
    · intro breadcrumb member
      cases List.mem_singleton.mp member
      exact ⟨trivial, trivial, trivial, trivial⟩
  have shallow : slowStart.toJson.depth ≤ Json.nestingLimit := by decide
  have ordered := parse?_toText.2.1 slowStart slowStart_made
  have read := parse?_toText.1 slowStart ordered whole shallow
  have again := parse?_toText.2.2 slowStart.toText slowStart.inWholeSeconds read
    (.inr ⟨whole.own, whole.trail⟩)
  exact ⟨ordered, read, again.1, by decide⟩

end EventRecord

end CrashReporter
