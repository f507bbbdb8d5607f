/-
**The calls of native callers.**

A native caller works with the installed client and never learns of a failure: what cannot be done is left
undone, and a delivery that panics goes no further. While no client is installed, only `init` and the calls
on events do anything.

A `NativeCall` names one call, and `NativeCall.script` says what it asks of the agent.
-/

import CrashReporter.Agent.Perform
import CrashReporter.Config.Source
import CrashReporter.Native.Event

namespace CrashReporter

/-- What a native caller reads from an event. -/
inductive EventRead where
  | text (field : EventText)
  | severity
  | unhandled
  | versionCode
  | duration
  | durationInForeground
  | inForeground
  deriving DecidableEq, Repr

/-- What a read answers. -/
abbrev EventRead.Answer : EventRead → Type
  | .text _ => CText
  | .severity => Int32
  | .unhandled => Bool
  | .versionCode => Int32
  | .duration => Int64
  | .durationInForeground => Int64
  | .inForeground => Bool

/-- Reads from an event. -/
def EventAddress.read (address : EventAddress) : (what : EventRead) → what.Answer
  | .text field => address.text field
  | .severity => address.severity
  | .unhandled => address.unhandled
  | .versionCode => address.versionCode
  | .duration => address.duration
  | .durationInForeground => address.durationInForeground
  | .inForeground => address.inForeground

/-- A call of a native caller. A missing function or handle is a null address. -/
inductive NativeCall (κ : Type) where
  /-- Installs a client with the settings of the surroundings, or with the defaults if those are not
  usable. Does nothing if there is one, or if there is no room for the breadcrumbs of the new one. -/
  | init (surroundings : Surroundings) (runtimeContext : UInt64)
  /-- Closes the installed client and takes it out. -/
  | close
  /-- Replaces the delivery; null stands for the log. -/
  | setDelivery (function : Option κ)
  /-- Reports an error. Null as its name does nothing, and an unknown severity counts as the gravest. -/
  | notify (name message : CText) (severity : Int32)
  /-- Leaves a breadcrumb. Null as its message or an unknown kind does nothing. -/
  | leaveBreadcrumb (message : CText) (kind : Int32)
  /-- Registers an on-error callback, and answers with its token; zero if that is not possible. -/
  | addOnError (callback : Option κ)
  | removeOnError (token : UInt64)
  /-- Makes a write to the template. -/
  | write (change : FieldWrite)
  /-- Starts a monitor of the token at an address. -/
  | enableHangs (address : UInt64)
  | disableHangs
  /-- Makes an event from the template, or an empty one. -/
  | newEvent
  | freeEvent (handle : Option Handle)
  | readEvent (handle : Option Handle) (what : EventRead)
  | writeEvent (handle : Option Handle) (change : EventWrite)

/-- What a native call answers. -/
abbrev NativeCall.Answer {κ : Type} : NativeCall κ → Type
  | .init .. => Unit
  | .close => Unit
  | .setDelivery _ => Unit
  | .notify .. => Unit
  | .leaveBreadcrumb .. => Unit
  | .addOnError _ => UInt64
  | .removeOnError _ => Unit
  | .write _ => Unit
  | .enableHangs _ => Unit
  | .disableHangs => Unit
  | .newEvent => Handle
  | .freeEvent _ => Unit
  | .readEvent _ what => what.Answer
  | .writeEvent .. => Unit

namespace Script

variable {κ ν α : Type}

/-- Makes one request. -/
def ask (request : Request κ ν) : Script κ ν request.Answer :=
  Program.request request

/-- Makes a call on the installed client; none if there is no client. -/
def onCurrent (task : ClientCall κ) : Script κ ν (Option task.Answer) := do
  match ← (ask .current : Script κ ν (Option ClientId)) with
  | none => pure none
  | some id => do
    let answer ← ask (.call id task)
    pure (some answer)

/-- Makes a call on the installed client and forgets the answer. -/
def tell (task : ClientCall κ) : Script κ ν Unit := do
  let _ ← onCurrent task

/-- The event of a handle; none for null and for a freed event. -/
def event (handle : Option Handle) : Script κ ν EventAddress :=
  match handle with
  | none => pure none
  | some handle => ask (.event handle)

end Script

/-- The settings that a client is installed with: those of the surroundings if they are usable, the defaults
otherwise. -/
def Surroundings.settings (surroundings : Surroundings) : Settings :=
  match Settings.load surroundings with
  | .ok settings => settings
  | .error _ => .defaults

namespace NativeCall

variable {κ ν : Type}

/-- Installs a client, unless there is one or it cannot be made. -/
def initScript (surroundings : Surroundings) (runtimeContext : UInt64) : Script κ ν Unit := do
  match ← (Script.ask .current : Script κ ν (Option ClientId)) with
  | some _ => pure ()
  | none =>
    match Client.build surroundings.settings none runtimeContext with
    | some (.ok client) => Script.ask (.install client)
    | some (.error _) => pure ()
    | none => pure ()

/-- Takes the installed client out and closes it. -/
def closeScript : Script κ ν Unit := do
  match ← (Script.ask .uninstall : Script κ ν (Option ClientId)) with
  | some id => Script.ask (.call id .close)
  | none => pure ()

/-- Makes an event from the template of the installed client, or an empty one. -/
def newEventScript : Script κ ν Handle := do
  let client ← Script.onCurrent .inspect
  let now ← (Script.ask .now : Script κ ν Instant)
  match client with
  | some client => Script.ask (.addEvent (client.template.snapshot now))
  | none => Script.ask (.addEvent (.make now))

/-- The severity of a code; an unknown one counts as the gravest. -/
def severityOf (code : Int32) : Severity :=
  match Severity.ofCode code with
  | .ok severity => severity
  | .error _ => .error

/-- What a native call asks of the agent. -/
def script : (call : NativeCall κ) → Script κ ν call.Answer
  | .init surroundings runtimeContext => initScript surroundings runtimeContext
  | .close => closeScript
  | .setDelivery (some function) => Script.tell (.setDelivery (.native function))
  | .setDelivery none => Script.tell (.setDelivery .log)
  | .notify name message severity =>
    match name.read? with
    | some name => Script.tell (.notify name message.read? (severityOf severity))
    | none => pure ()
  | .leaveBreadcrumb message kind =>
    match message.read?, BreadcrumbKind.ofCode kind with
    | some message, .ok kind => Script.tell (.leave message kind)
    | _, _ => pure ()
  | .addOnError (some callback) => do
    let id ← Script.onCurrent (.addOnError callback)
    pure ((id.map CallbackId.number).getD 0)
  | .addOnError none => pure (0 : UInt64)
  | .removeOnError token => Script.tell (.removeOnError ⟨token⟩)
  | .write change =>
    match change.change? with
    | some change => Script.tell (.write change)
    | none => pure ()
  | .enableHangs address =>
    match Hang.Buffer.of? address with
    | some buffer => Script.tell (.enableHangs buffer)
    | none => pure ()
  | .disableHangs => Script.tell .disableHangs
  | .newEvent => newEventScript
  | .freeEvent none => pure ()
  | .freeEvent (some handle) => Script.ask (.setEvent handle none)
  | .readEvent handle what => do
    let address ← Script.event handle
    pure (address.read what)
  | .writeEvent handle change => do
    match handle, ← Script.event handle with
    | some handle, some event => Script.ask (.setEvent handle (some (event.writeNative change)))
    | _, _ => pure ()

end NativeCall

end CrashReporter
