/-
**What callbacks and deliveries may ask of the agent, and how it answers.**

A `Host` says what callbacks and deliveries do, as programs that make requests. `perform` answers a
request by an act; the callbacks that this involves run inside it and make requests in turn. Such calls
inside calls are counted, and one that is nested deeper than allowed has no result.

Requests come from the owner of the agent or from the hook of a monitor. Hooks of different monitors and
the owner take turns whenever one of them waits.
-/

import CrashReporter.Agent.Act

namespace CrashReporter

/-- What may be asked of the agent. -/
inductive Request (κ ν : Type) where
  /-- Reads the notes. -/
  | recall
  | remember (notes : ν)
  /-- Takes a reading of the clock. -/
  | now
  | call (client : ClientId) (task : ClientCall κ)
  /-- The installed client. -/
  | current
  /-- Takes a client in and installs it. -/
  | install (client : Client κ)
  /-- Takes the installed client out of its place. -/
  | uninstall
  /-- Keeps an event under a new handle. -/
  | addEvent (event : EventRecord)
  /-- The event of a handle, unless it was freed. -/
  | event (handle : Handle)
  /-- Replaces the event of a handle, or frees it. -/
  | setEvent (handle : Handle) (event : Option EventRecord)
  /-- The word of the host's memory at an address. -/
  | load (address : UInt64)
  /-- Writes a word to the host's memory. -/
  | store (address value : UInt64)
  /-- The monitor whose hook makes the request; none for the owner. -/
  | caller
  /-- Waits until the agent is as told, at most for a span of time, and tells whether it is. -/
  | wait (span : Nat) (ready : Agent κ ν → Bool)

/-- The answer to a request. -/
abbrev Request.Answer {κ ν : Type} : Request κ ν → Type
  | .recall => ν
  | .remember _ => Unit
  | .now => Instant
  | .call _ task => task.Answer
  | .current => Option ClientId
  | .install _ => Unit
  | .uninstall => Option ClientId
  | .addEvent _ => Handle
  | .event _ => Option EventRecord
  | .setEvent .. => Unit
  | .load _ => UInt64
  | .store .. => Unit
  | .caller => Option MonitorId
  | .wait .. => Bool

/-- A computation that makes requests. -/
abbrev Script (κ ν α : Type) := Program (Request κ ν) Request.Answer α

/-- What callbacks and deliveries do. -/
structure Host (κ ν : Type) where
  onError : κ → EventRecord → Script κ ν (Verdict × EventRecord)
  onBreadcrumb : κ → Breadcrumb → Script κ ν (Verdict × Breadcrumb)
  /-- There is no status if the delivery panics. -/
  deliver : κ → EventRecord → Script κ ν (Option DeliveryStatus)
  /-- A native delivery answers with the code of a status. -/
  deliverNative : κ → EventRecord → Script κ ν Int32

namespace Agent

variable {κ ν : Type}

/-- A client of the agent, as the caller uses it. Scripts are run by `run`. -/
def access (host : Host κ ν) (caller : Option MonitorId)
    (run : {α : Type} → Script κ ν α → Act κ ν α) (id : ClientId) :
    Client.Access κ (Act κ ν) where
  get := do
    let agent ← get
    match agent.client? id with
    | some client => pure client
    | none => Act.fail
  set client := modify fun agent => agent.setClient id client
  now := modifyGet readClock
  append breadcrumb := modify fun agent => agent.addBreadcrumb id breadcrumb
  look buffer := Act.gets fun agent => agent.look buffer
  consult callback event := do
    modify fun agent => agent.note (.consulted id callback event)
    run (host.onError callback event)
  notice callback breadcrumb := do
    modify fun agent => agent.note (.noticed id callback breadcrumb)
    run (host.onBreadcrumb callback breadcrumb)
  deliver delivery event := do
    modify fun agent => agent.note (.delivered id delivery event)
    match delivery with
    | .log => pure (some .delivered)
    | .host function => run (host.deliver function event)
    | .native function => do
      let code ← run (host.deliverNative function event)
      pure (some (.ofCode code))
  join index :=
    if caller = some ⟨id, index⟩ then pure ()
    else do
      let _ ← Act.wait none fun agent => agent.hasEnded ⟨id, index⟩

/-- Answers a request of a caller, with calls nested at most as deep as given. -/
def perform (host : Host κ ν) (caller : Option MonitorId) :
    Nat → (request : Request κ ν) → Act κ ν request.Answer
  | 0, _ => Act.fail
  | depth + 1, request =>
    match request with
    | .recall => Act.gets fun agent => agent.notes
    | .remember notes => modify fun agent => { agent with notes := notes }
    | .now => modifyGet readClock
    | .call id task =>
      (access host caller (fun script => script.run (perform host caller depth)) id).answer task
    | .current => Act.gets fun agent => agent.current
    | .install client => modify fun agent => agent.install client
    | .uninstall => modifyGet uninstall
    | .addEvent event => modifyGet fun agent => agent.addEvent event
    | .event handle => Act.gets fun agent => agent.event? handle
    | .setEvent handle event => modify fun agent => agent.setEvent handle event
    | .load address => Act.gets fun agent => agent.memory address
    | .store address value => modify fun agent => agent.store address value
    | .caller => pure caller
    | .wait span ready => Act.wait (some span) ready

/-- Runs a script of a caller, with calls nested at most as deep as given. -/
def runScript {α : Type} (host : Host κ ν) (caller : Option MonitorId) (depth : Nat)
    (script : Script κ ν α) : Act κ ν α :=
  script.run (perform host caller depth)

/-- What a monitor does that has found a hang: it reports it in its hook. A delivery that panics ends the
hook only. -/
def hook (host : Host κ ν) (depth : Nat) (id : MonitorId) : Act κ ν Unit := do
  let outcome ← (access host (some id) (runScript host (some id) depth) id.client).reportHang
  let ended : Hang.HookEnd := if outcome.isSome then .returned else .panicked
  modify fun agent => agent.modifyMonitor id fun monitor sight => monitor.rest sight ended

end Agent

end CrashReporter
