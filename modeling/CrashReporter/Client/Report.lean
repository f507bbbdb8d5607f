/-
**Reports.**

An event is reported in this order:

* it is dropped if the client is closed, its error class is never reported, or its release stage is not
  enabled (`Client.gate?`, which sees it before the callbacks do);
* the on-error callbacks may change it, and one that refuses it ends the report;
* the delivery takes it over;
* if it was sent, now or for later, a breadcrumb of its error as the callbacks left it is added to the
  trail.

Callbacks and deliveries may use the client meanwhile, so reports are written for any surroundings that
hold a client (`Client.Access`), which decide how a callback is evaluated. A delivery that panics ends the
report without an outcome.
-/

import CrashReporter.Client.Basic

namespace CrashReporter

/-- The error class of a report of a hang. -/
def hangClass : String := "ANR"

/-- The message of a report of a hang. -/
def hangMessage : String := "Application did not respond to UI input"

/-- The breadcrumb of an event's error. -/
def EventRecord.errorBreadcrumb? (event : EventRecord) (now : Instant) : Option Breadcrumb :=
  match event.errorClass? with
  | none => none
  | some errorClass =>
    match Breadcrumb.make now errorClass.content .error, event.errorMessage? with
    | .ok breadcrumb, some message => some (breadcrumb.withMetadata "message" (.ofText message))
    | .ok breadcrumb, none => some breadcrumb
    | .error _, _ => none

namespace Client

variable {κ : Type} {m : Type → Type}

/-- Why an event is dropped before anybody sees it; none if it is not. -/
def gate? (client : Client κ) (event : EventRecord) : Option Outcome :=
  if client.isClosed then some .closed
  else if client.settings.release.discards (event.errorClass?.map Text.content) then some .discarded
  else if client.settings.release.allows (event.app.releaseStage.map Text.content) then none
  else some .filtered

/-- Surroundings that hold a client. -/
structure Access (κ : Type) (m : Type → Type) where
  get : m (Client κ)
  set : Client κ → m Unit
  /-- Takes a reading of the clock. -/
  now : m Instant
  /-- Adds a breadcrumb to the trail at a reading of the clock, without asking the callbacks. -/
  append : Breadcrumb → m Unit
  /-- Looks at the liveness token in a buffer. -/
  look : Hang.Buffer → m Hang.Sight
  /-- Shows an event to an on-error callback. -/
  consult : κ → EventRecord → m (Verdict × EventRecord)
  /-- Shows a breadcrumb to an on-breadcrumb callback. -/
  notice : κ → Breadcrumb → m (Verdict × Breadcrumb)
  /-- Hands an event over; there is no status if the delivery panics. -/
  deliver : Delivery κ → EventRecord → m (Option DeliveryStatus)
  /-- Waits until a monitor has ended, unless it is the one whose hook this is part of. -/
  join : Nat → m Unit

namespace Access

/-- The trail of the client. -/
def trail [Monad m] (access : Access κ m) : Trail.Access κ m where
  get := do
    let client ← access.get
    pure client.template.trail
  now := access.now
  evaluate := access.notice
  append := access.append

/-- Hands an event over to the delivery that is installed by now. -/
def send [Monad m] (access : Access κ m) (event : EventRecord) : m (Option DeliveryStatus) := do
  let client ← access.get
  access.deliver client.delivery event

/-- Adds the breadcrumb of a report whose event was handed over. -/
def conclude [Monad m] (access : Access κ m) (status : DeliveryStatus)
    (breadcrumb : Option Breadcrumb) : m Outcome := do
  match status.outcome.isSent, breadcrumb with
  | true, some breadcrumb => access.append breadcrumb
  | _, _ => pure ()
  pure status.outcome

/-- Reports an event. There is no outcome if the delivery panics. -/
def report [Monad m] (access : Access κ m) (event : EventRecord) : m (Option Outcome) := do
  let client ← access.get
  match client.gate? event with
  | some outcome => pure (some outcome)
  | none => do
    let (accepted, event) ← Registry.walk access.consult client.onError.entries event
    if accepted then do
      let now ← access.now
      match ← access.send event with
      | some status => do
        let outcome ← access.conclude status (event.errorBreadcrumb? now)
        pure (some outcome)
      | none => pure none
    else pure (some .vetoed)

/-- Reports an error in a copy of the template. A closed client does not look at it. -/
def notify [Monad m] (access : Access κ m) (errorClass : String) (message : Option String)
    (severity : Severity) : m (Except EventError (Option Outcome)) := do
  let client ← access.get
  if client.isClosed then pure (.ok (some .closed))
  else do
    let now ← access.now
    match (client.template.snapshot now).setError errorClass message with
    | .error cause => pure (.error cause)
    | .ok event => do
      let outcome ← access.report { event with severity := severity, unhandled := false }
      pure (.ok outcome)

/-- Reports a hang in a copy of the template. -/
def reportHang [Monad m] (access : Access κ m) : m (Option Outcome) := do
  let client ← access.get
  let now ← access.now
  let event := { client.template.snapshot now with severity := .error, unhandled := true }
  match event.setError hangClass (some hangMessage) with
  | .error _ => pure (some .failed)
  | .ok event => access.report event

end Access

end Client

end CrashReporter
