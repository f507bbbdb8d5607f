/-
**The agent: all clients of a process, and what surrounds them.**

At most one client is installed at a time; those that were installed before stay usable to whoever still
holds them. Native callers also hold events of their own, by handles.

The journal lists what the agent did: which events and breadcrumbs it showed to callbacks, which breadcrumbs
it added to trails, and which events it handed over.
-/

import CrashReporter.Client.Call
import CrashReporter.Instant.Clock

namespace CrashReporter

/-- The name of a client, which no other client ever has. -/
structure ClientId where
  index : Nat
  deriving DecidableEq, Repr

/-- The name of a monitor: its client, and its place among the monitors of that client. -/
structure MonitorId where
  client : ClientId
  index : Nat
  deriving DecidableEq, Repr

/-- The name of an event that a native caller holds. -/
structure Handle where
  index : Nat
  deriving DecidableEq, Repr

/-- Something that the agent did. -/
inductive Happening (κ : Type) where
  /-- An event was shown to an on-error callback. -/
  | consulted (client : ClientId) (callback : κ) (event : EventRecord)
  /-- A breadcrumb was shown to an on-breadcrumb callback. -/
  | noticed (client : ClientId) (callback : κ) (breadcrumb : Breadcrumb)
  /-- A breadcrumb was added to the trail. -/
  | added (client : ClientId) (breadcrumb : Breadcrumb)
  /-- An event was handed over. -/
  | delivered (client : ClientId) (delivery : Delivery κ) (event : EventRecord)

/-- All clients of a process, and what surrounds them. The owner keeps notes `ν` of its own. -/
structure Agent (κ ν : Type) where
  /-- Clients in the order of their making. -/
  clients : List (Client κ)
  /-- The installed client. -/
  current : Option ClientId
  /-- The events of native callers; none where one was freed. -/
  events : List (Option EventRecord)
  clock : Clock
  memory : Hang.Memory
  /-- The time in nanoseconds, from some origin. -/
  time : Int
  notes : ν
  /-- What the agent did, the latest first. -/
  journal : List (Happening κ)

namespace Agent

variable {κ ν : Type}

/-- An agent without clients. -/
def start (clock : Clock) (memory : Hang.Memory) (notes : ν) : Agent κ ν :=
  { clients := []
    current := none
    events := []
    clock := clock
    memory := memory
    time := 0
    notes := notes
    journal := [] }

/-! ### Clients -/

/-- The client of a name. -/
def client? (agent : Agent κ ν) (id : ClientId) : Option (Client κ) :=
  agent.clients[id.index]?

/-- Replaces the client of a name. -/
def setClient (agent : Agent κ ν) (id : ClientId) (client : Client κ) : Agent κ ν :=
  { agent with clients := agent.clients.set id.index client }

/-- Takes a client in under a new name. -/
def addClient (agent : Agent κ ν) (client : Client κ) : ClientId × Agent κ ν :=
  (⟨agent.clients.length⟩, { agent with clients := agent.clients ++ [client] })

/-- Takes a client in and installs it. -/
def install (agent : Agent κ ν) (client : Client κ) : Agent κ ν :=
  let (id, agent) := agent.addClient client
  { agent with current := some id }

/-- Takes the installed client out of its place. -/
def uninstall (agent : Agent κ ν) : Option ClientId × Agent κ ν :=
  (agent.current, { agent with current := none })

/-! ### Events of native callers -/

/-- The event of a handle. -/
def event? (agent : Agent κ ν) (handle : Handle) : Option EventRecord :=
  agent.events[handle.index]?.join

/-- Keeps an event under a new handle. -/
def addEvent (agent : Agent κ ν) (event : EventRecord) : Handle × Agent κ ν :=
  (⟨agent.events.length⟩, { agent with events := agent.events ++ [some event] })

/-- Replaces the event of a handle, or frees it. -/
def setEvent (agent : Agent κ ν) (handle : Handle) (event : Option EventRecord) : Agent κ ν :=
  { agent with events := agent.events.set handle.index event }

/-! ### What surrounds the clients -/

/-- Takes a reading of the clock. -/
def readClock (agent : Agent κ ν) : Instant × Agent κ ν :=
  let (now, clock) := agent.clock.read
  (now, { agent with clock := clock })

/-- Writes a word to the host's memory. -/
def store (agent : Agent κ ν) (address value : UInt64) : Agent κ ν :=
  { agent with
    memory := fun other => if other = address then value else agent.memory other }

/-- Looks at the liveness token in a buffer. -/
def look (agent : Agent κ ν) (buffer : Hang.Buffer) : Hang.Sight :=
  ⟨buffer.load agent.memory, agent.time⟩

/-! ### Monitors -/

/-- The monitor of a name. -/
def monitor? (agent : Agent κ ν) (id : MonitorId) : Option Hang.Monitor :=
  (agent.client? id.client).bind fun client => client.monitors[id.index]?

/-- The names of the monitors of all clients. -/
def monitorIds (agent : Agent κ ν) : List MonitorId :=
  agent.clients.zipIdx.flatMap fun (client, index) =>
    (List.range client.monitors.length).map (MonitorId.mk ⟨index⟩)

/-- Changes the monitor of a name, which may look at the token in its buffer. -/
def modifyMonitor (agent : Agent κ ν) (id : MonitorId)
    (change : Hang.Monitor → Hang.Sight → Hang.Monitor) : Agent κ ν :=
  match agent.client? id.client with
  | none => agent
  | some client =>
    agent.setClient id.client
      (client.modifyMonitor id.index fun monitor => change monitor (agent.look monitor.buffer))

/-- A monitor has ended. -/
def hasEnded (agent : Agent κ ν) (id : MonitorId) : Bool :=
  (agent.monitor? id).all Hang.Monitor.hasEnded

/-- A monitor is inside its hook. -/
def isCalling (agent : Agent κ ν) (id : MonitorId) : Bool :=
  (agent.monitor? id).any Hang.Monitor.isCalling

/-- A client has a monitor installed. -/
def watchesHangs (agent : Agent κ ν) (id : ClientId) : Bool :=
  (agent.client? id).any Client.watchesHangs

/-! ### The journal -/

/-- Adds to the journal. -/
def note (agent : Agent κ ν) (happening : Happening κ) : Agent κ ν :=
  { agent with journal := happening :: agent.journal }

/-- Adds a breadcrumb to the trail of a client, at a reading of the clock. -/
def addBreadcrumb (agent : Agent κ ν) (id : ClientId) (breadcrumb : Breadcrumb) : Agent κ ν :=
  match agent.client? id with
  | none => agent
  | some client =>
    let (now, agent) := agent.readClock
    let trail := client.template.trail.append now breadcrumb
    (agent.setClient id (client.setTrail trail)).note (.added id breadcrumb)

end Agent

end CrashReporter
