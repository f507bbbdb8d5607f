/-
**Calls on a client.**

A `ClientCall` names one call, and `Client.Access.answer` makes it in any surroundings that hold a client.
-/

import CrashReporter.Client.Report

namespace CrashReporter

/-- A call on a client. -/
inductive ClientCall (κ : Type) where
  /-- Reports an error in a copy of the template. -/
  | notify (errorClass : String) (message : Option String) (severity : Severity)
  /-- Reports an event. -/
  | report (event : EventRecord)
  /-- Reports a hang in a copy of the template. -/
  | reportHang
  /-- Leaves a breadcrumb of a message. -/
  | leave (message : String) (kind : BreadcrumbKind)
  /-- Leaves a breadcrumb. -/
  | push (breadcrumb : Breadcrumb)
  /-- Removes all breadcrumbs. -/
  | clearTrail
  /-- Makes a write to the template. -/
  | write (change : Write)
  /-- Reads everything. -/
  | inspect
  | setDelivery (delivery : Delivery κ)
  | addOnError (callback : κ)
  | removeOnError (id : CallbackId)
  | addOnBreadcrumb (callback : κ)
  | removeOnBreadcrumb (id : CallbackId)
  /-- Starts a monitor. -/
  | enableHangs (buffer : Hang.Buffer)
  /-- Stops the monitor. -/
  | disableHangs
  | close

/-- What a call answers. A report has no outcome if the delivery panicked. -/
abbrev ClientCall.Answer {κ : Type} : ClientCall κ → Type
  | .notify .. => Except EventError (Option Outcome)
  | .report _ => Option Outcome
  | .reportHang => Option Outcome
  | .leave .. => Bool
  | .push _ => Bool
  | .clearTrail => Unit
  | .write _ => Unit
  | .inspect => Client κ
  | .setDelivery _ => Unit
  | .addOnError _ => CallbackId
  | .removeOnError _ => Bool
  | .addOnBreadcrumb _ => CallbackId
  | .removeOnBreadcrumb _ => Bool
  | .enableHangs _ => Except ClientError Bool
  | .disableHangs => Bool
  | .close => Unit

namespace Client.Access

variable {κ : Type} {m : Type → Type}

/-- Changes the client. -/
def modify [Monad m] (access : Access κ m) (change : Client κ → Client κ) : m Unit := do
  let client ← access.get
  access.set (change client)

/-- Changes the client and answers. -/
def modifyGet [Monad m] {α : Type} (access : Access κ m) (change : Client κ → α × Client κ) :
    m α := do
  let client ← access.get
  let (answer, client) := change client
  access.set client
  pure answer

/-- Makes a change that stops a monitor, waits until it has ended, and tells whether there was one. -/
def stop [Monad m] (access : Access κ m) (change : Client κ → Option Nat × Client κ) : m Bool := do
  match ← access.modifyGet change with
  | none => pure false
  | some monitor => do
    access.join monitor
    pure true

/-- Makes a call. -/
def answer [Monad m] (access : Access κ m) : (call : ClientCall κ) → m call.Answer
  | .notify errorClass message severity => access.notify errorClass message severity
  | .report event => access.report event
  | .reportHang => access.reportHang
  | .leave message kind => access.trail.leave message kind
  | .push breadcrumb => access.trail.push breadcrumb
  | .clearTrail => access.modify fun client => client.setTrail client.template.trail.clear
  | .write change => access.modify (·.write change)
  | .inspect => access.get
  | .setDelivery delivery => access.modify (·.setDelivery delivery)
  | .addOnError callback => access.modifyGet (·.addOnError callback)
  | .removeOnError id => access.modifyGet (·.removeOnError id)
  | .addOnBreadcrumb callback => access.modifyGet (·.addOnBreadcrumb callback)
  | .removeOnBreadcrumb id => access.modifyGet (·.removeOnBreadcrumb id)
  | .enableHangs buffer => do
    let sight ← access.look buffer
    access.modifyGet (·.enableHangs buffer sight)
  | .disableHangs => access.stop Client.disableHangs
  | .close => do
    let _ ← access.stop Client.close

end Client.Access

end CrashReporter
