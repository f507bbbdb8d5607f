/-
**Turns after a past.**

While the owner of an agent waits, the monitors of all clients take their turns, those of the past among
them. A monitor of a settled past was told to stop: if it has a turn, that is due now, and all that it does is
to end (`Agent.Fades`). All other turns are those of what is left of the agent without its past, at times
and with names that are counted from there (`Schedule.turns_eq`). So the next turn is one at which a monitor
of the past ends, or the next one of what is left (`Schedule.next?_cases`).
-/

import CrashReporter.Agent.Schedule
import CrashReporter.Proofs.Agent.History
import CrashReporter.Proofs.Agent.Past

namespace CrashReporter

variable {κ ν : Type}

/-! ### The earliest turn -/

namespace Turn

/-- The turn of the same place after a past. -/
def after (past : Past) : Turn → Turn
  | .monitor id => .monitor (past.monitor id)
  | .hook index => .hook index

/-- A turn whose time and place are counted from a past. -/
def timedAfter (past : Past) (timed : Int × Turn) : Int × Turn :=
  (timed.1 + past.time, timed.2.after past)

theorem earliest?_cons (turn : Int × Turn) (rest : List (Int × Turn)) :
    earliest? (turn :: rest) = match earliest? rest with
      | none => some turn
      | some other => some (if turn.1 ≤ other.1 then turn else other) := rfl

/-- The earliest turn is one of them. -/
theorem mem_of_earliest? {turns : List (Int × Turn)} {turn : Int × Turn} (found : earliest? turns = some turn) :
    turn ∈ turns := by
  induction turns generalizing turn with
  | nil => cases found
  | cons first rest ih =>
    rw [earliest?_cons] at found
    cases earlier : earliest? rest with
    | none =>
      rw [earlier] at found
      cases found
      exact List.mem_cons_self
    | some other =>
      rw [earlier] at found
      dsimp only at found
      split at found
      · cases found
        exact List.mem_cons_self
      · cases found
        exact List.mem_cons_of_mem _ (ih earlier)

/-- The earliest of the turns of two lists is one of the first list, or the earliest of the second. -/
theorem earliest?_append (first second : List (Int × Turn)) :
    (∃ turn ∈ first, earliest? (first ++ second) = some turn) ∨
      earliest? (first ++ second) = earliest? second := by
  induction first with
  | nil => exact .inr rfl
  | cons turn first ih =>
    rw [List.cons_append, earliest?_cons]
    rcases ih with ⟨other, member, found⟩ | same
    · left
      rw [found]
      by_cases earlier : turn.1 ≤ other.1
      · exact ⟨turn, List.mem_cons_self, congrArg some (if_pos earlier)⟩
      · exact ⟨other, List.mem_cons_of_mem _ member, congrArg some (if_neg earlier)⟩
    · rw [same]
      cases found : earliest? second with
      | none => exact .inl ⟨turn, List.mem_cons_self, rfl⟩
      | some other =>
        by_cases earlier : turn.1 ≤ other.1
        · exact .inl ⟨turn, List.mem_cons_self, congrArg some (if_pos earlier)⟩
        · exact .inr (congrArg some (if_neg earlier))

theorem earliest?_timedAfter (past : Past) (turns : List (Int × Turn)) :
    earliest? (turns.map (timedAfter past)) = (earliest? turns).map (timedAfter past) := by
  induction turns with
  | nil => rfl
  | cons turn turns ih =>
    rw [List.map_cons, earliest?_cons, earliest?_cons, ih]
    cases earliest? turns with
    | none => rfl
    | some other =>
      have order : (timedAfter past turn).1 ≤ (timedAfter past other).1 ↔ turn.1 ≤ other.1 := by
        show turn.1 + past.time ≤ other.1 + past.time ↔ _
        omega
      by_cases earlier : turn.1 ≤ other.1
      · simp only [Option.map_some, if_pos earlier, if_pos (order.mpr earlier)]
      · simp only [Option.map_some, if_neg earlier, if_neg (earlier ∘ order.mp)]

end Turn

/-! ### Monitors -/

namespace Agent

variable {past : Past} {agent : Agent κ ν}

theorem mem_monitorIds (agent : Agent κ ν) (id : MonitorId) :
    id ∈ agent.monitorIds ↔ (agent.monitor? id).isSome := by
  unfold monitorIds monitor? client?
  rw [List.mem_flatMap]
  constructor
  · rintro ⟨⟨client, place⟩, member, named⟩
    obtain ⟨index, bound, rfl⟩ := List.mem_map.mp named
    have held : agent.clients[place]? = some client := List.mem_zipIdx_iff_getElem?.mp member
    dsimp only
    rw [held, Option.bind_some, isSome_getElem?]
    exact List.mem_range.mp bound
  · intro some
    cases held : agent.clients[id.client.index]? with
    | none => rw [held] at some; cases some
    | some client =>
      rw [held, Option.bind_some, isSome_getElem?] at some
      exact ⟨(client, id.client.index), List.mem_zipIdx_iff_getElem?.mpr held,
        List.mem_map.mpr ⟨id.index, List.mem_range.mpr some, rfl⟩⟩

/-- The names of the monitors of clients that have so many each. -/
def namesOf (counts : List Nat) : List MonitorId :=
  counts.zipIdx.flatMap fun (count, index) => (List.range count).map (MonitorId.mk ⟨index⟩)

theorem monitorIds_eq_namesOf (agent : Agent κ ν) :
    agent.monitorIds = namesOf (agent.clients.map fun client => client.monitors.length) := by
  unfold monitorIds namesOf
  rw [List.zipIdx_map, List.flatMap_map]
  rfl

/-- A client with as many monitors leaves the names of all monitors as they are. -/
theorem monitorIds_setClient {id : ClientId} {client present : Client κ} (held : agent.client? id = some client)
    (same : present.monitors.length = client.monitors.length) :
    (agent.setClient id present).monitorIds = agent.monitorIds := by
  obtain ⟨bound, found⟩ := List.getElem?_eq_some_iff.mp held
  rw [monitorIds_eq_namesOf, monitorIds_eq_namesOf]
  refine congrArg namesOf ?_
  show (agent.clients.set id.index _).map _ = _
  rw [List.map_set, same, ← found]
  exact List.map_set.symm.trans (congrArg (List.map _) (List.set_getElem_self bound))

theorem monitorIds_modifyMonitor (agent : Agent κ ν) (id : MonitorId)
    (change : Hang.Monitor → Hang.Sight → Hang.Monitor) :
    (agent.modifyMonitor id change).monitorIds = agent.monitorIds := by
  unfold modifyMonitor
  cases held : agent.client? id.client with
  | none => rfl
  | some client => exact monitorIds_setClient held (List.length_modify ..)

/-- A change of one monitor leaves all others as they are. -/
theorem monitor?_modifyMonitor (agent : Agent κ ν) (id other : MonitorId)
    (change : Hang.Monitor → Hang.Sight → Hang.Monitor) :
    (agent.modifyMonitor id change).monitor? other =
      (agent.monitor? other).map fun monitor =>
        if other = id then change monitor (agent.look monitor.buffer) else monitor := by
  unfold modifyMonitor
  cases held : agent.client? id.client with
  | none =>
    cases watched : agent.monitor? other with
    | none => rfl
    | some monitor =>
      have apart : other ≠ id := by
        rintro rfl
        unfold monitor? at watched
        rw [held] at watched
        cases watched
      rw [Option.map_some, if_neg apart]
  | some client =>
    by_cases same : other.client = id.client
    · have named : other = id ↔ id.index = other.index := by
        obtain ⟨_, index⟩ := other
        obtain ⟨_, index'⟩ := id
        cases same
        exact ⟨fun equal => (MonitorId.mk.inj equal).2.symm, fun equal => by cases equal; rfl⟩
      unfold monitor?
      rw [same, client?_setClient held, held, Option.bind_some, Option.bind_some]
      show (client.monitors.modify id.index _)[other.index]? = _
      rw [List.getElem?_modify]
      simp only [named]
      rfl
    · have apart : other ≠ id := fun equal => same (congrArg MonitorId.client equal)
      unfold monitor?
      rw [client?_setClient_ne (Ne.symm same)]
      simp only [if_neg apart, Option.map_id']

/-- The turns of all monitors. -/
def monitorTurns (agent : Agent κ ν) : List (Int × Turn) :=
  agent.monitorIds.filterMap fun id =>
    ((agent.monitor? id).bind fun monitor => monitor.wakes? agent.time).map fun time =>
      (time, Turn.monitor id)

/-- A monitor of the past is one of the agent. -/
theorem monitor?_of_elders {id : MonitorId} {monitor : Hang.Monitor}
    (held : (agent.elders past).monitor? id = some monitor) :
    id.client.index < past.clients ∧ agent.monitor? id = some monitor := by
  obtain ⟨client, found, monitored⟩ := Option.bind_eq_some_iff.mp held
  change (agent.clients.take past.clients)[id.client.index]? = some client at found
  rw [List.getElem?_take] at found
  by_cases early : id.client.index < past.clients
  · rw [if_pos early] at found
    exact ⟨early, Option.bind_eq_some_iff.mpr ⟨client, found, monitored⟩⟩
  · rw [if_neg early] at found
    cases found

/-- The names of the monitors are those of the first clients, and then those of the others, counted from
there. -/
theorem namesOf_eq (past : Past) {counts : List Nat} (bound : past.clients ≤ counts.length) :
    namesOf counts =
      namesOf (counts.take past.clients) ++ (namesOf (counts.drop past.clients)).map past.monitor := by
  have split : counts.zipIdx = (counts.take past.clients).zipIdx ++
      (counts.drop past.clients).zipIdx.map fun (count, index) => (count, past.clients + index) := by
    conv_lhs => rw [← List.take_append_drop past.clients counts]
    rw [List.zipIdx_append, List.length_take, Nat.min_eq_left bound, Nat.zero_add]
    exact congrArg _ List.zipIdx_eq_map_add
  unfold namesOf
  rw [split, List.flatMap_append, List.flatMap_map, List.map_flatMap]
  simp only [List.map_map]
  rfl

theorem monitorIds_eq (settled : agent.Settled past) :
    agent.monitorIds =
      (agent.elders past).monitorIds ++ (agent.relativeTo past).monitorIds.map past.monitor := by
  rw [monitorIds_eq_namesOf, monitorIds_eq_namesOf, monitorIds_eq_namesOf]
  show _ = namesOf ((agent.clients.take past.clients).map _) ++
    (namesOf (((agent.clients.drop past.clients).map _).map _)).map _
  rw [List.map_map, List.map_take]
  have relative : (fun client : Client κ => client.monitors.length) ∘ Client.relativeTo past.time =
      fun client => client.monitors.length := funext fun client => List.length_map ..
  rw [relative, List.map_drop]
  refine namesOf_eq past ?_
  rw [List.length_map]
  exact settled.clients

theorem monitorTurns_eq (settled : agent.Settled past) :
    agent.monitorTurns = (agent.elders past).monitorTurns ++
      (agent.relativeTo past).monitorTurns.map (Turn.timedAfter past) := by
  unfold monitorTurns
  rw [monitorIds_eq settled, List.filterMap_append, List.filterMap_map, List.map_filterMap]
  congr 1
  · refine List.filterMap_congr fun id member => ?_
    obtain ⟨monitor, held⟩ := Option.isSome_iff_exists.mp ((mem_monitorIds _ id).mp member)
    rw [held, (monitor?_of_elders held).2]
    rfl
  · refine List.filterMap_congr fun id _ => ?_
    rw [monitor?_relativeTo]
    show ((agent.monitor? (past.monitor id)).bind _).map _ = _
    cases agent.monitor? (past.monitor id) with
    | none => rfl
    | some monitor =>
      show (monitor.wakes? agent.time).map _ =
        (((monitor.relativeTo past.time).wakes? (agent.time - past.time)).map _).map _
      rw [Hang.Monitor.wakes?_relativeTo]
      cases monitor.wakes? agent.time with
      | none => rfl
      | some time =>
        show some (time, Turn.monitor (past.monitor id)) =
          some (time - past.time + past.time, Turn.monitor (past.monitor id))
        rw [Int.sub_add_cancel]

/-! ### Monitors of the past -/

/-- A monitor of the past ended, and nothing else happened. -/
structure Fades (past : Past) (agent later : Agent κ ν) : Prop where
  settled : later.Settled past
  fewer : (later.elders past).lingering < (agent.elders past).lingering
  clients : later.clients.drop past.clients = agent.clients.drop past.clients
  length : later.clients.length = agent.clients.length
  besides : later = { agent with clients := later.clients }

theorem modifyMonitor_besides (agent : Agent κ ν) (id : MonitorId)
    (change : Hang.Monitor → Hang.Sight → Hang.Monitor) :
    (agent.modifyMonitor id change).clients.length = agent.clients.length ∧
      agent.modifyMonitor id change =
        { agent with clients := (agent.modifyMonitor id change).clients } := by
  unfold modifyMonitor
  cases agent.client? id.client with
  | none => exact ⟨rfl, rfl⟩
  | some client => exact ⟨List.length_set, rfl⟩

/-- A change of a monitor of the past is one of the past, and of nothing else. -/
theorem modifyMonitor_early {id : MonitorId} (early : id.client.index < past.clients) (agent : Agent κ ν)
    (change : Hang.Monitor → Hang.Sight → Hang.Monitor) :
    (agent.modifyMonitor id change).elders past = (agent.elders past).modifyMonitor id change ∧
      (agent.modifyMonitor id change).clients.drop past.clients = agent.clients.drop past.clients := by
  have same : (agent.elders past).client? id.client = agent.client? id.client := by
    show (agent.clients.take past.clients)[id.client.index]? = agent.clients[id.client.index]?
    rw [List.getElem?_take, if_pos early]
  unfold modifyMonitor
  rw [same]
  cases agent.client? id.client with
  | none => exact ⟨rfl, rfl⟩
  | some client =>
    constructor
    · show { agent with clients := (agent.clients.set _ _).take past.clients } = _
      rw [List.take_set]
      rfl
    · show (agent.clients.set _ _).drop past.clients = _
      rw [List.drop_set, if_pos early]

/-- A monitor that sleeps although it was told to stop ends when it wakes. -/
theorem ended_of_wake {monitor : Hang.Monitor} {detector : Hang.Detector}
    (stopped : monitor.watcher.stopped = true) (waiting : monitor.watcher.phase = .waiting detector)
    (sight : Hang.Sight) :
    (monitor.wake sight).watcher = ⟨monitor.watcher.threshold, true, .ended⟩ := by
  obtain ⟨buffer, interval, due, threshold, stopped, phase⟩ := monitor
  cases stopped
  cases waiting
  rfl

/-- Where one fewer is counted of a list, fewer are counted. -/
theorem countP_lt {α : Type} {counted still : α → Bool} {elements : List α} {element : α}
    (member : element ∈ elements) (were : ∀ other, still other = true → counted other = true)
    (was : counted element = true) (gone : still element = false) :
    elements.countP still < elements.countP counted := by
  have both : elements.filter still = (elements.filter counted).filter still := by
    rw [List.filter_filter]
    refine List.filter_congr fun other _ => ?_
    cases now : still other with
    | false => rfl
    | true => rw [were other now, Bool.and_self]
  rw [List.countP_eq_length_filter, List.countP_eq_length_filter, both]
  refine List.length_filter_lt_length_iff_exists.mpr ⟨element, List.mem_filter.mpr ⟨member, was⟩, ?_⟩
  rw [gone]
  exact Bool.false_ne_true

section Wake

variable {id : MonitorId} {monitor : Hang.Monitor} {detector : Hang.Detector}
  (held : (agent.elders past).monitor? id = some monitor) (stopped : monitor.watcher.stopped = true)
  (waiting : monitor.watcher.phase = .waiting detector)

include held stopped waiting

theorem lingering_wake :
    ((agent.modifyMonitor id Hang.Monitor.wake).elders past).lingering <
      (agent.elders past).lingering := by
  have changed (other : MonitorId) := monitor?_modifyMonitor (agent.elders past) id other Hang.Monitor.wake
  have ends (sight : Hang.Sight) : (monitor.wake sight).hasEnded = true := by
    unfold Hang.Monitor.hasEnded
    rw [ended_of_wake stopped waiting]
    rfl
  unfold lingering
  rw [(modifyMonitor_early (monitor?_of_elders held).1 agent _).1, monitorIds_modifyMonitor]
  refine countP_lt ((mem_monitorIds _ id).mpr (held ▸ rfl)) (fun other was => ?_) ?_ ?_
  · unfold hasEnded at was ⊢
    rw [changed other] at was
    by_cases own : other = id
    · rw [own, held, Option.map_some, if_pos rfl, Option.all_some, ends] at was
      cases was
    · simpa only [if_neg own, Option.map_id'] using was
  · unfold hasEnded
    rw [held, Option.all_some]
    unfold Hang.Monitor.hasEnded
    rw [waiting]
    rfl
  · unfold hasEnded
    rw [changed id, held, Option.map_some, if_pos rfl, Option.all_some, ends]
    rfl

theorem Settled.wake (settled : agent.Settled past) :
    (agent.modifyMonitor id Hang.Monitor.wake).Settled past := by
  obtain ⟨length, besides⟩ := modifyMonitor_besides agent id Hang.Monitor.wake
  have fewer := lingering_wake held stopped waiting
  refine ⟨settled.clients.trans_eq length.symm, ?_, ?_, ?_, fun other later found => ?_,
    fewer.le.trans settled.lingering⟩
  · rw [besides]
    exact settled.events
  · rw [besides]
    exact settled.happenings
  · rw [besides]
    exact settled.current
  · rw [(modifyMonitor_early (monitor?_of_elders held).1 agent _).1, monitor?_modifyMonitor] at found
    obtain ⟨before, was, rfl⟩ := Option.map_eq_some_iff.mp found
    by_cases own : other = id
    · obtain rfl := Option.some_inj.mp (held.symm.trans (own ▸ was))
      rw [if_pos own]
      unfold Hang.Monitor.IsRetired
      rw [ended_of_wake stopped waiting]
      exact ⟨rfl, .inr rfl⟩
    · rw [if_neg own]
      exact settled.retired other before was

theorem fades_of_wake (settled : agent.Settled past) :
    (agent.modifyMonitor id Hang.Monitor.wake).isCalling id = false ∧
      Fades past agent (agent.modifyMonitor id Hang.Monitor.wake) := by
  obtain ⟨early, found⟩ := monitor?_of_elders held
  obtain ⟨length, besides⟩ := modifyMonitor_besides agent id Hang.Monitor.wake
  refine ⟨?_, settled.wake held stopped waiting, lingering_wake held stopped waiting,
    (modifyMonitor_early early agent _).2, length, besides⟩
  unfold isCalling
  rw [monitor?_modifyMonitor, found, Option.map_some, if_pos rfl, Option.any_some]
  unfold Hang.Monitor.isCalling
  rw [ended_of_wake stopped waiting]
  rfl

end Wake

/-- **A monitor of a settled past that has a turn has it now, and ends.** -/
theorem fades_of_turn (settled : agent.Settled past) {time : Int} {turn : Turn}
    (due : (time, turn) ∈ (agent.elders past).monitorTurns) :
    time = agent.time ∧ ∃ id, turn = .monitor id ∧
      (agent.modifyMonitor id Hang.Monitor.wake).isCalling id = false ∧
      Fades past agent (agent.modifyMonitor id Hang.Monitor.wake) := by
  obtain ⟨id, member, timed⟩ := List.mem_filterMap.mp due
  obtain ⟨_, woken, same⟩ := Option.map_eq_some_iff.mp timed
  obtain ⟨rfl, rfl⟩ := Prod.mk.inj same
  obtain ⟨monitor, held, wakes⟩ := Option.bind_eq_some_iff.mp woken
  unfold Hang.Monitor.wakes? at wakes
  obtain ⟨stopped, ⟨detector, waiting⟩ | ended⟩ := settled.retired id monitor held
  · rw [waiting, stopped] at wakes
    exact ⟨(Option.some_inj.mp wakes).symm, id, rfl, fades_of_wake held stopped waiting settled⟩
  · rw [ended] at wakes
    cases wakes

namespace Fades

variable {later : Agent κ ν} (fades : Fades past agent later)

include fades

theorem relativeTo : later.relativeTo past = agent.relativeTo past := by
  unfold Agent.relativeTo
  rw [fades.clients, fades.besides]

theorem memory : later.memory = agent.memory := by
  rw [fades.besides]

variable {watched : UInt64 → Prop} {past' : Past} {other : Agent κ ν}

/-- To an agent of which a monitor of the past ended, others are alike as before. -/
theorem alike (alike : Alike watched past past' agent other) : Alike watched past past' later other := by
  refine ⟨fades.settled, alike.settled', fades.relativeTo.trans alike.same, ?_, ?_⟩
  · rw [fades.clients]
    exact alike.watches
  · rw [fades.memory]
    exact alike.memory

theorem alike' (alike : Alike watched past' past other agent) : Alike watched past' past other later := by
  refine ⟨alike.settled, fades.settled, alike.same.trans fades.relativeTo.symm, alike.watches, ?_⟩
  rw [fades.memory]
  exact alike.memory

end Fades

end Agent

end CrashReporter
