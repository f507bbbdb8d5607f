/-
**Clients: everything that reports are made with.**

A client owns a template, the on-error callbacks, the delivery and the monitors that it has started, of
which at most one is installed. It is made from usable settings only, if there is room for as many breadcrumbs as they
ask for (`build`), and once it is closed it stays closed.
-/

import CrashReporter.Client.Error
import CrashReporter.Config.Settings
import CrashReporter.Delivery
import CrashReporter.Hang.Lifecycle
import CrashReporter.Hang.Monitor
import CrashReporter.Template.Basic

namespace CrashReporter

/-- Everything that reports are made with. -/
structure Client (κ : Type) where
  settings : Settings
  template : Template κ
  onError : Registry κ
  delivery : Delivery κ
  /-- Closed or not, and the index of the installed monitor. -/
  lifecycle : Hang.Lifecycle Nat
  /-- The monitors in the order of their start. -/
  monitors : List Hang.Monitor
  /-- An address of the host, which is kept for it and never followed. -/
  runtimeContext : UInt64

namespace Client

variable {κ : Type}

/-- A client that was just made from settings and a template. Events go to the log unless another delivery is
given. -/
def ofTemplate (settings : Settings) (template : Template κ) (delivery : Option (Delivery κ))
    (runtimeContext : UInt64) : Client κ where
  settings := settings
  template := template
  onError := .empty
  delivery := delivery.getD .log
  lifecycle := .fresh
  monitors := []
  runtimeContext := runtimeContext

/-- A client of usable settings. There is no answer at all if the breadcrumbs that they ask room for do not
fit into memory. -/
def build (settings : Settings) (delivery : Option (Delivery κ)) (runtimeContext : UInt64) :
    Option (Except ClientError (Client κ)) :=
  match settings.validate with
  | .ok settings =>
    (Template.make? settings.breadcrumbs.maxBreadcrumbs.toNat).map fun template =>
      .ok (.ofTemplate settings template delivery runtimeContext)
  | .error cause => some (.error (.config cause))

/-- The client was closed. -/
def isClosed (client : Client κ) : Bool := client.lifecycle.closed

/-- A monitor is installed. -/
def watchesHangs (client : Client κ) : Bool := client.lifecycle.installed.isSome

/-- The listing of a client. -/
def describe (client : Client κ) : String :=
  "NativeClient \x7b closed: " ++ (if client.isClosed then "true" else "false") ++
    ", anr: " ++ Hang.describeInstalled client.watchesHangs ++ ", .. \x7d"

/-! ### Changes -/

/-- Makes a write to the template. -/
def write (client : Client κ) (change : Write) : Client κ :=
  { client with template := client.template.write change }

/-- Replaces the trail of the template. -/
def setTrail (client : Client κ) (trail : Trail κ) : Client κ :=
  { client with template := { client.template with trail := trail } }

/-- Replaces the delivery. -/
def setDelivery (client : Client κ) (delivery : Delivery κ) : Client κ :=
  { client with delivery := delivery }

/-- Registers an on-error callback. -/
def addOnError (client : Client κ) (callback : κ) : CallbackId × Client κ :=
  let (id, onError) := client.onError.add callback
  (id, { client with onError := onError })

/-- Removes an on-error callback, and tells whether there was one. -/
def removeOnError (client : Client κ) (id : CallbackId) : Bool × Client κ :=
  let (removed, onError) := client.onError.remove id
  (removed, { client with onError := onError })

/-- Registers an on-breadcrumb callback. -/
def addOnBreadcrumb (client : Client κ) (callback : κ) : CallbackId × Client κ :=
  let (id, trail) := client.template.trail.addCallback callback
  (id, client.setTrail trail)

/-- Removes an on-breadcrumb callback, and tells whether there was one. -/
def removeOnBreadcrumb (client : Client κ) (id : CallbackId) : Bool × Client κ :=
  let (removed, trail) := client.template.trail.removeCallback id
  (removed, client.setTrail trail)

/-- Replaces the state of the lifecycle. -/
def setLifecycle (client : Client κ) (lifecycle : Hang.Lifecycle Nat) : Client κ :=
  { client with lifecycle := lifecycle }

/-- Changes a monitor. -/
def modifyMonitor (client : Client κ) (index : Nat) (change : Hang.Monitor → Hang.Monitor) :
    Client κ :=
  { client with monitors := client.monitors.modify index change }

/-- Starts a monitor with a look, unless one is installed, and tells whether it did. A closed client
refuses. -/
def enableHangs (client : Client κ) (buffer : Hang.Buffer) (sight : Hang.Sight) :
    Except ClientError Bool × Client κ :=
  let hang := client.settings.hang
  let monitor :=
    Hang.Monitor.start buffer hang.thresholdSpan.toNanoseconds hang.pollSpan.toNanoseconds sight
  match client.lifecycle.enable client.monitors.length with
  | (some true, lifecycle) =>
    (.ok true, { client.setLifecycle lifecycle with monitors := client.monitors ++ [monitor] })
  | (some false, lifecycle) => (.ok false, client.setLifecycle lifecycle)
  | (none, lifecycle) => (.error .closed, client.setLifecycle lifecycle)

/-- Tells the installed monitor to stop, and answers with its index. -/
def stopMonitor (client : Client κ) : Option Nat × Client κ :=
  match client.lifecycle.installed with
  | none => (none, client)
  | some index => (some index, client.modifyMonitor index .stop)

/-- Takes the monitor out, tells it to stop, and answers with its index. -/
def disableHangs (client : Client κ) : Option Nat × Client κ :=
  let (stopped, client) := client.stopMonitor
  (stopped, client.setLifecycle client.lifecycle.disable.2)

/-- Closes the client; takes the monitor out, tells it to stop, and answers with its index. A client that
is closed already does nothing. -/
def close (client : Client κ) : Option Nat × Client κ :=
  if client.isClosed then (none, client)
  else
    let (stopped, client) := client.stopMonitor
    (stopped, client.setLifecycle client.lifecycle.close)

end Client

end CrashReporter
