/-
**Agents apart from their past.**

At any moment an agent has a past: so many clients, events of native callers and happenings, and a time
(`Past`). What is left of it later without that past, and without the readings of its clock
(`Agent.relativeTo`), counts clients, events and time from there. The past is settled (`Agent.Settled`) if
none of its clients is installed and their monitors were all told to stop, so that these do nothing more
than to end.

Two agents are alike (`Agent.Alike`) if their pasts are settled and what is left of them is the same. What is
read of the one and of the other is the same up to times, and what is done to both alike leaves them alike.
-/

import CrashReporter.Agent.Basic
import CrashReporter.Proofs.Client.Pairs
import CrashReporter.Proofs.Native.Code

namespace CrashReporter

variable {κ ν α : Type}

/-- Where the images are the same, there is a value on both sides or on neither. -/
theorem rel_of_map_eq {β γ : Type} {image : α → γ} {image' : β → γ} {value : Option α} {value' : Option β}
    (same : value.map image = value'.map image') :
    Option.Rel (fun value value' => image value = image' value') value value' := by
  cases value with
  | none =>
    cases value' with
    | none => exact .none
    | some value' => cases same
  | some value =>
    cases value' with
    | none => cases same
    | some value' => exact .some (Option.some.inj same)

/-- What an agent has come to at some moment. -/
structure Past where
  clients : Nat
  events : Nat
  happenings : Nat
  time : Int
  /-- How many monitors may not have ended yet. -/
  lingering : Nat

namespace Past

/-- The name that the client of an index has among those of after the past. -/
def client (past : Past) (id : ClientId) : ClientId := ⟨past.clients + id.index⟩

/-- The handle that the event of an index has among those of after the past. -/
def handle (past : Past) (handle : Handle) : Handle := handle.after past.events

/-- The name of a monitor of a client of after the past. -/
def monitor (past : Past) (id : MonitorId) : MonitorId := ⟨past.client id.client, id.index⟩

end Past

/-- The place of a client among those of after the past. -/
def ClientId.relativeTo (past : Past) (id : ClientId) : ClientId := ⟨id.index - past.clients⟩

theorem ClientId.relativeTo_client (past : Past) (id : ClientId) : (past.client id).relativeTo past = id :=
  congrArg ClientId.mk (Nat.add_sub_cancel_left ..)

/-- Two names are those of clients at the same place after the pasts. -/
def Past.Names (past past' : Past) (id id' : ClientId) : Prop :=
  ∃ place, id = past.client place ∧ id' = past'.client place

/-- A client of after the past is found at its place. -/
theorem Past.client_relativeTo (past : Past) {id : ClientId} (later : past.clients ≤ id.index) :
    past.client (id.relativeTo past) = id :=
  congrArg ClientId.mk (Nat.add_sub_of_le later)

/-- A happening, with its client counted from the past, and without its times. -/
def Happening.relativeTo (past : Past) : Happening κ → Happening κ
  | .consulted client callback event => .consulted (client.relativeTo past) callback event.undated
  | .noticed client callback breadcrumb => .noticed (client.relativeTo past) callback breadcrumb.undated
  | .added client breadcrumb => .added (client.relativeTo past) breadcrumb.undated
  | .delivered client delivery event => .delivered (client.relativeTo past) delivery event.undated

/-- Asleep or at the end. -/
def Hang.Phase.IsStill (phase : Hang.Phase) : Prop := (∃ detector, phase = .waiting detector) ∨ phase = .ended

/-- A monitor that was told to stop, and sleeps or has ended. -/
def Hang.Monitor.IsRetired (monitor : Hang.Monitor) : Prop :=
  monitor.watcher.stopped = true ∧ monitor.watcher.phase.IsStill

namespace Agent

/-- What is left of an agent without its past and without the readings of its clock. The memory is the
host's. -/
def relativeTo (past : Past) (agent : Agent κ ν) : Agent κ ν where
  clients := (agent.clients.drop past.clients).map (Client.relativeTo past.time)
  current := agent.current.map (ClientId.relativeTo past)
  events := (agent.events.drop past.events).map (Option.map EventRecord.undated)
  clock := .still .sometime
  memory := fun _ => 0
  time := agent.time - past.time
  notes := agent.notes
  journal := (agent.journal.take (agent.journal.length - past.happenings)).map (Happening.relativeTo past)

/-- The agent as if there were only the clients of the past. -/
def elders (past : Past) (agent : Agent κ ν) : Agent κ ν :=
  { agent with clients := agent.clients.take past.clients }

/-- The number of monitors that have not ended. -/
def lingering (agent : Agent κ ν) : Nat := agent.monitorIds.countP fun id => !agent.hasEnded id

/-- Nothing of the past will do anything but end. -/
structure Settled (past : Past) (agent : Agent κ ν) : Prop where
  clients : past.clients ≤ agent.clients.length
  events : past.events ≤ agent.events.length
  happenings : past.happenings ≤ agent.journal.length
  current : ∀ id, agent.current = some id → past.clients ≤ id.index
  retired : ∀ id monitor, (agent.elders past).monitor? id = some monitor → monitor.IsRetired
  lingering : (agent.elders past).lingering ≤ past.lingering

variable {past past' : Past} {agent agent' : Agent κ ν}

theorem monitor?_congr (clients : agent'.clients = agent.clients) (id : MonitorId) :
    agent'.monitor? id = agent.monitor? id := by
  unfold monitor? client?
  rw [clients]

theorem lingering_congr (clients : agent'.clients = agent.clients) : agent'.lingering = agent.lingering := by
  unfold lingering hasEnded monitorIds
  rw [clients]
  refine List.countP_congr fun id _ => ?_
  rw [monitor?_congr clients]

/-- What is done to other clients and besides them leaves the past settled. -/
theorem Settled.of_take {later : Agent κ ν} (settled : agent.Settled past)
    (elders : later.clients.take past.clients = agent.clients.take past.clients)
    (clients : agent.clients.length ≤ later.clients.length)
    (events : agent.events.length ≤ later.events.length)
    (journal : agent.journal.length ≤ later.journal.length)
    (current : ∀ id, later.current = some id → past.clients ≤ id.index) : later.Settled past := by
  have same : (later.elders past).clients = (agent.elders past).clients := elders
  refine ⟨settled.clients.trans clients, settled.events.trans events, settled.happenings.trans journal,
    current, fun id monitor held => ?_, ?_⟩
  · rw [monitor?_congr same] at held
    exact settled.retired id monitor held
  · rw [lingering_congr same]
    exact settled.lingering

/-- What surrounds the clients does not matter. -/
theorem Settled.besides {later : Agent κ ν} (settled : agent.Settled past)
    (clients : later.clients = agent.clients) (events : later.events = agent.events)
    (journal : later.journal = agent.journal)
    (current : ∀ id, later.current = some id → past.clients ≤ id.index) : later.Settled past :=
  settled.of_take (by rw [clients]) (by rw [clients]) (by rw [events]) (by rw [journal]) current

/-! ### What is read -/

theorem client?_relativeTo (past : Past) (agent : Agent κ ν) (id : ClientId) :
    (agent.relativeTo past).client? id =
      (agent.client? (past.client id)).map (Client.relativeTo past.time) := by
  show ((agent.clients.drop past.clients).map _)[id.index]? = _
  rw [List.getElem?_map, List.getElem?_drop]
  rfl

theorem event?_relativeTo (past : Past) (agent : Agent κ ν) (handle : Handle) :
    (agent.relativeTo past).event? handle =
      (agent.event? (past.handle handle)).map EventRecord.undated := by
  show ((agent.events.drop past.events).map _)[handle.index]?.join = _
  rw [List.getElem?_map, List.getElem?_drop]
  unfold event? Past.handle Handle.after
  dsimp only
  cases agent.events[past.events + handle.index]? <;> rfl

theorem monitor?_relativeTo (past : Past) (agent : Agent κ ν) (id : MonitorId) :
    (agent.relativeTo past).monitor? id =
      (agent.monitor? (past.monitor id)).map (Hang.Monitor.relativeTo past.time) := by
  unfold monitor?
  rw [client?_relativeTo]
  show _ = ((agent.client? (past.client id.client)).bind fun client => client.monitors[id.index]?).map _
  cases agent.client? (past.client id.client) with
  | none => rfl
  | some client =>
    show (client.monitors.map _)[id.index]? = client.monitors[id.index]?.map _
    exact List.getElem?_map

theorem hasEnded_relativeTo (past : Past) (agent : Agent κ ν) (id : MonitorId) :
    (agent.relativeTo past).hasEnded id = agent.hasEnded (past.monitor id) := by
  unfold hasEnded
  rw [monitor?_relativeTo]
  cases agent.monitor? (past.monitor id) with
  | none => rfl
  | some monitor => exact monitor.hasEnded_relativeTo past.time

theorem isCalling_relativeTo (past : Past) (agent : Agent κ ν) (id : MonitorId) :
    (agent.relativeTo past).isCalling id = agent.isCalling (past.monitor id) := by
  unfold isCalling
  rw [monitor?_relativeTo]
  cases agent.monitor? (past.monitor id) with
  | none => rfl
  | some monitor => exact monitor.isCalling_relativeTo past.time

/-! ### What is done -/

theorem setClient_relativeTo (past : Past) (agent : Agent κ ν) (id : ClientId) (client : Client κ) :
    (agent.setClient (past.client id) client).relativeTo past =
      (agent.relativeTo past).setClient id (client.relativeTo past.time) := by
  have clients : (agent.clients.set (past.clients + id.index) client).drop past.clients =
      (agent.clients.drop past.clients).set id.index client := by
    rw [List.drop_set, if_neg (by omega), Nat.add_sub_cancel_left]
  unfold relativeTo setClient Past.client
  dsimp only
  rw [clients, List.map_set]

theorem Settled.setClient (settled : agent.Settled past) (id : ClientId) (client : Client κ) :
    (agent.setClient (past.client id) client).Settled past :=
  settled.of_take (List.take_set_of_le (Nat.le_add_right ..)) List.length_set.ge le_rfl le_rfl settled.current

theorem note_relativeTo (settled : agent.Settled past) (happening : Happening κ) :
    (agent.note happening).relativeTo past =
      (agent.relativeTo past).note (happening.relativeTo past) := by
  have journal : (happening :: agent.journal).take (agent.journal.length + 1 - past.happenings) =
      happening :: agent.journal.take (agent.journal.length - past.happenings) := by
    rw [Nat.succ_sub settled.happenings, List.take_succ_cons]
  unfold relativeTo note
  dsimp only
  rw [List.length_cons, journal, List.map_cons]

theorem Settled.note (settled : agent.Settled past) (happening : Happening κ) :
    (agent.note happening).Settled past :=
  settled.of_take rfl le_rfl le_rfl (Nat.le_succ _) settled.current

theorem install_relativeTo (settled : agent.Settled past) (client : Client κ) :
    (agent.install client).relativeTo past =
      (agent.relativeTo past).install (client.relativeTo past.time) := by
  have place : agent.clients.length - past.clients =
      ((agent.clients.drop past.clients).map (Client.relativeTo past.time)).length := by
    rw [List.length_map, List.length_drop]
  unfold relativeTo install addClient
  dsimp only
  rw [List.drop_append_of_le_length settled.clients, List.map_append, List.map_singleton, ← place]
  rfl

theorem Settled.install (settled : agent.Settled past) (client : Client κ) :
    (agent.install client).Settled past := by
  refine settled.of_take (List.take_append_of_le_length settled.clients) ?_ le_rfl le_rfl ?_
  · exact (Nat.le_add_right ..).trans_eq List.length_append.symm
  · rintro id ⟨⟩
    exact settled.clients

theorem addEvent_relativeTo (settled : agent.Settled past) (event : EventRecord) :
    (agent.addEvent event).2.relativeTo past = ((agent.relativeTo past).addEvent event.undated).2 := by
  unfold relativeTo addEvent
  dsimp only
  rw [List.drop_append_of_le_length settled.events, List.map_append, List.map_singleton]
  rfl

theorem Settled.addEvent (settled : agent.Settled past) (event : EventRecord) :
    (agent.addEvent event).2.Settled past :=
  settled.of_take rfl le_rfl ((Nat.le_add_right ..).trans_eq List.length_append.symm) le_rfl settled.current

theorem setEvent_relativeTo (past : Past) (agent : Agent κ ν) (handle : Handle)
    (event : Option EventRecord) :
    (agent.setEvent (past.handle handle) event).relativeTo past =
      (agent.relativeTo past).setEvent handle (event.map EventRecord.undated) := by
  have events : (agent.events.set (past.events + handle.index) event).drop past.events =
      (agent.events.drop past.events).set handle.index event := by
    rw [List.drop_set, if_neg (by omega), Nat.add_sub_cancel_left]
  unfold relativeTo setEvent Past.handle Handle.after
  dsimp only
  rw [events, List.map_set]

theorem Settled.setEvent (settled : agent.Settled past) (handle : Handle) (event : Option EventRecord) :
    (agent.setEvent handle event).Settled past :=
  settled.of_take rfl le_rfl List.length_set.ge le_rfl settled.current

/-! ### Agents that are alike -/

/-- What is left of two agents without their pasts is the same, and so are the words of the host's memory at
some addresses, which are all that is watched. -/
structure Alike (watched : UInt64 → Prop) (past past' : Past) (agent agent' : Agent κ ν) : Prop where
  settled : agent.Settled past
  settled' : agent'.Settled past'
  same : agent.relativeTo past = agent'.relativeTo past'
  watches : ∀ client ∈ agent.clients.drop past.clients, client.Watches watched
  memory : ∀ address, watched address → agent.memory address = agent'.memory address

namespace Alike

variable {watched : UInt64 → Prop} (alike : Alike watched past past' agent agent')

include alike

theorem notes : agent.notes = agent'.notes := by
  show (agent.relativeTo past).notes = (agent'.relativeTo past').notes
  rw [alike.same]

theorem time : agent.time - past.time = agent'.time - past'.time := by
  show (agent.relativeTo past).time = (agent'.relativeTo past').time
  rw [alike.same]

/-- The installed clients have the same place after the pasts. -/
theorem current : Option.Rel (Past.Names past past') agent.current agent'.current := by
  have same : agent.current.map (ClientId.relativeTo past) =
      agent'.current.map (ClientId.relativeTo past') := by
    show (agent.relativeTo past).current = (agent'.relativeTo past').current
    rw [alike.same]
  generalize installed : agent.current = current, installed' : agent'.current = current' at same ⊢
  cases rel_of_map_eq same with
  | none => exact .none
  | @some id id' place =>
    refine .some ⟨id.relativeTo past, ?_, ?_⟩
    · exact (past.client_relativeTo (alike.settled.current id installed)).symm
    · rw [place]
      exact (past'.client_relativeTo (alike.settled'.current id' installed')).symm

theorem client? (id : ClientId) :
    Option.Rel (Client.Alike watched past.time past'.time) (agent.client? (past.client id))
      (agent'.client? (past'.client id)) := by
  have same : (agent.relativeTo past).client? id = (agent'.relativeTo past').client? id := by
    rw [alike.same]
  rw [client?_relativeTo, client?_relativeTo] at same
  generalize held : agent.client? (past.client id) = found,
    agent'.client? (past'.client id) = found' at same ⊢
  cases rel_of_map_eq same with
  | none => exact .none
  | @some client client' equal =>
    refine .some ⟨equal, alike.watches client ?_⟩
    exact List.mem_of_getElem? (List.getElem?_drop.trans held)

theorem event? (handle : Handle) :
    (agent.event? (past.handle handle)).map EventRecord.undated =
      (agent'.event? (past'.handle handle)).map EventRecord.undated := by
  rw [← event?_relativeTo, ← event?_relativeTo, alike.same]

/-- The next events get the same handles. -/
theorem handle : (Handle.mk agent.events.length).without past.events =
    (Handle.mk agent'.events.length).without past'.events := by
  have same : (agent.relativeTo past).events.length = (agent'.relativeTo past').events.length := by
    rw [alike.same]
  unfold relativeTo at same
  dsimp only at same
  rw [List.length_map, List.length_map, List.length_drop, List.length_drop] at same
  exact congrArg Handle.mk same

theorem hasEnded (id : MonitorId) :
    agent.hasEnded (past.monitor id) = agent'.hasEnded (past'.monitor id) := by
  rw [← hasEnded_relativeTo, ← hasEnded_relativeTo, alike.same]

theorem isCalling (id : MonitorId) :
    agent.isCalling (past.monitor id) = agent'.isCalling (past'.monitor id) := by
  rw [← isCalling_relativeTo, ← isCalling_relativeTo, alike.same]

theorem look {buffer : Hang.Buffer} (permitted : watched buffer.address) :
    (agent.look buffer).relativeTo past.time = (agent'.look buffer).relativeTo past'.time := by
  have token : agent.memory buffer.address = agent'.memory buffer.address := alike.memory _ permitted
  show Hang.Sight.mk (agent.memory buffer.address) (agent.time - past.time) = ⟨_, agent'.time - past'.time⟩
  rw [token, alike.time]
  rfl

/-! What is done to both leaves them alike. -/

theorem tick : Alike watched past past' agent.readClock.2 agent'.readClock.2 where
  settled := alike.settled.besides rfl rfl rfl alike.settled.current
  settled' := alike.settled'.besides rfl rfl rfl alike.settled'.current
  same := alike.same
  watches := alike.watches
  memory := alike.memory

theorem setClient (id : ClientId) {client client' : Client κ}
    (clients : Client.Alike watched past.time past'.time client client') :
    Alike watched past past' (agent.setClient (past.client id) client)
      (agent'.setClient (past'.client id) client') where
  settled := alike.settled.setClient id client
  settled' := alike.settled'.setClient id client'
  same := by rw [setClient_relativeTo, setClient_relativeTo, alike.same, clients.same]
  watches other member := by
    change other ∈ (agent.clients.set (past.clients + id.index) client).drop past.clients at member
    rw [List.drop_set, if_neg (by omega)] at member
    rcases List.mem_or_eq_of_mem_set member with member | same
    · exact alike.watches other member
    · rw [same]
      exact clients.watches
  memory := alike.memory

theorem note {happening happening' : Happening κ}
    (happenings : happening.relativeTo past = happening'.relativeTo past') :
    Alike watched past past' (agent.note happening) (agent'.note happening') where
  settled := alike.settled.note happening
  settled' := alike.settled'.note happening'
  same := by rw [note_relativeTo alike.settled, note_relativeTo alike.settled', alike.same, happenings]
  watches := alike.watches
  memory := alike.memory

theorem addBreadcrumb (id : ClientId) {breadcrumb breadcrumb' : Breadcrumb}
    (breadcrumbs : breadcrumb.undated = breadcrumb'.undated) :
    Alike watched past past' (agent.addBreadcrumb (past.client id) breadcrumb)
      (agent'.addBreadcrumb (past'.client id) breadcrumb') := by
  have clients := alike.client? id
  unfold Agent.addBreadcrumb
  generalize agent.client? (past.client id) = held, agent'.client? (past'.client id) = held' at clients ⊢
  cases clients with
  | none => exact alike
  | @some client client' clients =>
    have trails : Client.Alike watched past.time past'.time
        (client.setTrail (client.template.trail.append agent.readClock.1 breadcrumb))
        (client'.setTrail (client'.template.trail.append agent'.readClock.1 breadcrumb')) := by
      refine ⟨?_, clients.watches⟩
      rw [Client.append_relativeTo, Client.append_relativeTo, clients.same, breadcrumbs]
    refine (alike.tick.setClient id trails).note ?_
    show Happening.added ((past.client id).relativeTo past) _ =
      Happening.added ((past'.client id).relativeTo past') _
    rw [ClientId.relativeTo_client, ClientId.relativeTo_client, breadcrumbs]

theorem install {client client' : Client κ}
    (clients : Client.Alike watched past.time past'.time client client') :
    Alike watched past past' (agent.install client) (agent'.install client') where
  settled := alike.settled.install client
  settled' := alike.settled'.install client'
  same := by
    rw [install_relativeTo alike.settled, install_relativeTo alike.settled', alike.same, clients.same]
  watches other member := by
    change other ∈ (agent.clients ++ [client]).drop past.clients at member
    rw [List.drop_append_of_le_length alike.settled.clients] at member
    rcases List.mem_append.mp member with member | member
    · exact alike.watches other member
    · rw [List.mem_singleton.mp member]
      exact clients.watches
  memory := alike.memory

theorem uninstall : Alike watched past past' agent.uninstall.2 agent'.uninstall.2 where
  settled := alike.settled.besides rfl rfl rfl nofun
  settled' := alike.settled'.besides rfl rfl rfl nofun
  same := by
    show (agent.relativeTo past).uninstall.2 = (agent'.relativeTo past').uninstall.2
    rw [alike.same]
  watches := alike.watches
  memory := alike.memory

theorem addEvent {event event' : EventRecord} (events : event.undated = event'.undated) :
    Alike watched past past' (agent.addEvent event).2 (agent'.addEvent event').2 where
  settled := alike.settled.addEvent event
  settled' := alike.settled'.addEvent event'
  same := by rw [addEvent_relativeTo alike.settled, addEvent_relativeTo alike.settled', alike.same, events]
  watches := alike.watches
  memory := alike.memory

theorem setEvent (handle : Handle) {event event' : Option EventRecord}
    (events : event.map EventRecord.undated = event'.map EventRecord.undated) :
    Alike watched past past' (agent.setEvent (past.handle handle) event)
      (agent'.setEvent (past'.handle handle) event') where
  settled := alike.settled.setEvent _ event
  settled' := alike.settled'.setEvent _ event'
  same := by rw [setEvent_relativeTo, setEvent_relativeTo, alike.same, events]
  watches := alike.watches
  memory := alike.memory

theorem remember (notes : ν) :
    Alike watched past past' { agent with notes := notes } { agent' with notes := notes } where
  settled := alike.settled.besides rfl rfl rfl alike.settled.current
  settled' := alike.settled'.besides rfl rfl rfl alike.settled'.current
  same := by
    show { agent.relativeTo past with notes := notes } = { agent'.relativeTo past' with notes := notes }
    rw [alike.same]
  watches := alike.watches
  memory := alike.memory

theorem store (address value : UInt64) :
    Alike watched past past' (agent.store address value) (agent'.store address value) where
  settled := alike.settled.besides rfl rfl rfl alike.settled.current
  settled' := alike.settled'.besides rfl rfl rfl alike.settled'.current
  same := alike.same
  watches := alike.watches
  memory other permitted := by
    show (if other = address then value else _) = if other = address then value else _
    rw [alike.memory other permitted]

/-- Times that are counted from the past are the same. -/
theorem later {time time' : Int} (times : time - past.time = time' - past'.time) :
    Alike watched past past' { agent with time := time } { agent' with time := time' } where
  settled := alike.settled.besides rfl rfl rfl alike.settled.current
  settled' := alike.settled'.besides rfl rfl rfl alike.settled'.current
  same := by
    show { agent.relativeTo past with time := time - past.time } =
      { agent'.relativeTo past' with time := time' - past'.time }
    rw [alike.same, times]
  watches := alike.watches
  memory := alike.memory

/-- A monitor may be changed by what it sees. -/
theorem modifyMonitor (id : MonitorId) {change : Hang.Monitor → Hang.Sight → Hang.Monitor}
    (commutes : ∀ origin monitor sight, (change monitor sight).relativeTo origin =
      change (monitor.relativeTo origin) (sight.relativeTo origin))
    (kept : ∀ monitor sight, (change monitor sight).buffer = monitor.buffer) :
    Alike watched past past' (agent.modifyMonitor (past.monitor id) change)
      (agent'.modifyMonitor (past'.monitor id) change) := by
  have clients := alike.client? id.client
  unfold Agent.modifyMonitor
  dsimp only [Past.monitor]
  generalize agent.client? (past.client id.client) = held,
    agent'.client? (past'.client id.client) = held' at clients ⊢
  cases clients with
  | none => exact alike
  | @some client client' clients =>
    refine alike.setClient id.client ⟨?_, clients.watches.modifyMonitor _ fun _ => kept _ _⟩
    have seen (past : Past) (agent : Agent κ ν) (client : Client κ) :
        (client.modifyMonitor id.index fun monitor =>
            change monitor (agent.look monitor.buffer)).relativeTo past.time =
          (client.relativeTo past.time).modifyMonitor id.index fun monitor =>
            change monitor ((agent.look monitor.buffer).relativeTo past.time) :=
      client.modifyMonitor_relativeTo past.time fun monitor => commutes _ _ _
    rw [seen past agent, seen past' agent', ← clients.same]
    refine Client.modifyMonitor_congr fun monitor member => ?_
    obtain ⟨before, watched, rfl⟩ := List.mem_map.mp member
    exact congrArg (change _) (alike.look (clients.watches before watched))

end Alike

end Agent

end CrashReporter
