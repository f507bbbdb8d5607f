/-
**Closing the installed client while nothing is under way.**

Where native code has left a schedule in which no call is under way (`Schedule.IsIdle`), the owner's `close`
waits for one monitor at most, and meanwhile monitors that were told to stop end, and nothing else happens:
afterwards the clients that there were are past (`Schedule.IsGone`). The call always comes to its end
(`exists_run_close`).
-/

import CrashReporter.Proofs.Native.Attendance
import CrashReporter.Proofs.Native.Passing

namespace CrashReporter

variable {κ ν α : Type}

/-! ### What closing does at once -/

namespace Client

variable {client : Client κ}

/-- Closing changes no monitor but for telling one to stop. -/
theorem monitors_close_cases (client : Client κ) :
    client.close.2.monitors = client.monitors ∨
      ∃ target, client.close.2.monitors = client.monitors.modify target .stop := by
  cases closed : client.isClosed with
  | true =>
    rw [close_closed closed]
    exact .inl rfl
  | false =>
    rw [close_open closed]
    cases installed : client.lifecycle.installed with
    | none =>
      rw [stopMonitor_none installed]
      exact .inl rfl
    | some target =>
      rw [stopMonitor_some installed]
      exact .inr ⟨target, rfl⟩

theorem length_monitors_close (client : Client κ) : client.close.2.monitors.length = client.monitors.length := by
  rcases client.monitors_close_cases with same | ⟨target, same⟩
  · rw [same]
  · rw [same, List.length_modify]

end Client

namespace Agent

/-- What closing the installed client does at once, and the monitor that it waits for then. -/
def closeCurrent (agent : Agent κ ν) : Option MonitorId × Agent κ ν :=
  match agent.current with
  | none => (none, agent)
  | some id =>
    match agent.client? id with
    | none => (none, agent.uninstall.2)
    | some client =>
      (client.close.1.map (MonitorId.mk id), agent.uninstall.2.setClient id client.close.2)

/-- The past of an agent at this moment. Any monitor may linger. -/
def past (agent : Agent κ ν) : Past where
  clients := agent.clients.length
  events := agent.events.length
  happenings := agent.journal.length
  time := agent.time
  lingering := agent.monitorIds.length

/-- All there is of an agent is past. -/
structure IsGone (past : Past) (agent : Agent κ ν) : Prop where
  settled : agent.Settled past
  clients : agent.clients.length = past.clients
  events : agent.events.length = past.events
  happenings : agent.journal.length = past.happenings
  time : agent.time = past.time
  current : agent.current = none

variable {past : Past} {agent : Agent κ ν}

/-- Of such an agent nothing is left but its notes. -/
theorem IsGone.relativeTo (gone : agent.IsGone past) :
    agent.relativeTo past = start (.still .sometime) (fun _ => 0) agent.notes := by
  have clients : agent.clients.drop past.clients = [] := by rw [← gone.clients, List.drop_length]
  have events : agent.events.drop past.events = [] := by rw [← gone.events, List.drop_length]
  have journal : agent.journal.length - past.happenings = 0 := by rw [gone.happenings, Nat.sub_self]
  unfold Agent.relativeTo start
  rw [clients, events, journal, gone.current, gone.time, Int.sub_self]
  rfl

theorem IsGone.fades {later : Agent κ ν} (gone : agent.IsGone past) (fades : Fades past agent later) :
    later.IsGone past := by
  refine ⟨fades.settled, fades.length.trans gone.clients, ?_, ?_, ?_, ?_⟩
  all_goals rw [fades.besides]
  · exact gone.events
  · exact gone.happenings
  · exact gone.time
  · exact gone.current

/-- A monitor that was told to stop and has no turn has ended. -/
theorem IsGone.hasEnded (gone : agent.IsGone past) (still : agent.monitorTurns = []) (id : MonitorId) :
    agent.hasEnded id = true := by
  have whole : agent.elders past = agent := by
    unfold elders
    rw [← gone.clients, List.take_length]
  unfold Agent.hasEnded
  cases held : agent.monitor? id with
  | none => rfl
  | some monitor =>
    obtain ⟨stopped, ⟨detector, waiting⟩ | ended⟩ := gone.settled.retired id monitor (whole.symm ▸ held)
    · have due : (agent.time, Turn.monitor id) ∈ agent.monitorTurns := by
        refine List.mem_filterMap.mpr ⟨id, (mem_monitorIds agent id).mpr (held ▸ rfl), ?_⟩
        rw [held, Option.bind_some]
        unfold Hang.Monitor.wakes?
        rw [waiting, stopped]
        rfl
      rw [still] at due
      cases due
    · exact decide_eq_true ended

/-! ### Closing in order -/

section Orderly

variable (orderly : agent.IsOrderly)

include orderly

/-- Either no client is installed, or the one that is gets closed. -/
theorem closeCurrent_cases :
    agent.current = none ∧ agent.closeCurrent = (none, agent) ∨
      ∃ id client, agent.current = some id ∧ agent.client? id = some client ∧
        agent.closeCurrent =
          (client.close.1.map (MonitorId.mk id), agent.uninstall.2.setClient id client.close.2) := by
  unfold closeCurrent
  cases installed : agent.current with
  | none => exact .inl ⟨rfl, rfl⟩
  | some id =>
    obtain ⟨client, held⟩ := orderly.held installed
    refine .inr ⟨id, client, rfl, held, ?_⟩
    dsimp only
    rw [held]

/-- Closing keeps the order, and no client is installed any more. -/
theorem closeCurrent_isOrderly :
    agent.closeCurrent.2.IsOrderly ∧ agent.closeCurrent.2.current = none := by
  rcases closeCurrent_cases orderly with ⟨absent, closed⟩ | ⟨id, client, installed, held, closed⟩
  · rw [closed]
    exact ⟨orderly, absent⟩
  · rw [closed]
    exact ⟨orderly.close installed held, rfl⟩

/-- Where every monitor sleeps, so it does after closing. -/
theorem closeCurrent_isAsleep (asleep : agent.IsAsleep) : agent.closeCurrent.2.IsAsleep := by
  rcases closeCurrent_cases orderly with ⟨absent, closed⟩ | ⟨id, client, installed, held, closed⟩
  · rw [closed]
    exact asleep
  · rw [closed]
    exact asleep.of_sameStanding (sameStanding_bears.close installed held)

/-- **After closing, everything is past.** -/
theorem closeCurrent_isGone (asleep : agent.IsAsleep) : agent.closeCurrent.2.IsGone agent.past := by
  obtain ⟨still, absent⟩ := closeCurrent_isOrderly orderly
  have sleeps := closeCurrent_isAsleep orderly asleep
  obtain ⟨clients, events, happenings, time, names⟩ :
      agent.closeCurrent.2.clients.length = agent.clients.length ∧
        agent.closeCurrent.2.events.length = agent.events.length ∧
        agent.closeCurrent.2.journal.length = agent.journal.length ∧
        agent.closeCurrent.2.time = agent.time ∧
        agent.closeCurrent.2.monitorIds = agent.monitorIds := by
    rcases closeCurrent_cases orderly with ⟨_, closed⟩ | ⟨id, client, installed, held, closed⟩
    · rw [closed]
      exact ⟨rfl, rfl, rfl, rfl, rfl⟩
    · rw [closed]
      have there : agent.uninstall.2.client? id = some client := held
      exact ⟨List.length_set, rfl, rfl, rfl, monitorIds_setClient there client.length_monitors_close⟩
  have whole : agent.closeCurrent.2.elders agent.past = agent.closeCurrent.2 := by
    unfold elders
    rw [show agent.past.clients = agent.closeCurrent.2.clients.length from clients.symm, List.take_length]
  refine ⟨⟨clients.ge, events.ge, happenings.ge, ?_, ?_, ?_⟩, clients, events, happenings, time, absent⟩
  · rw [absent]
    rintro id ⟨⟩
  · rw [whole]
    intro id monitor held
    refine ⟨?_, sleeps id monitor held⟩
    obtain ⟨client, found, monitored⟩ := Option.bind_eq_some_iff.mp held
    refine (still.sound found).stopped (still.closed found ?_) monitored
    rw [absent]
    rintro ⟨⟩
  · rw [whole]
    exact List.countP_le_length.trans (names ▸ le_rfl)

end Orderly

end Agent

/-! ### Waiting for what is past -/

namespace Schedule

variable {host : Host κ ν} {depth count : Nat} {past : Past} {schedule final : Schedule κ ν}

/-- All there is of the agent is past, and no hook waits. -/
structure IsGone (past : Past) (schedule : Schedule κ ν) : Prop where
  agent : schedule.agent.IsGone past
  paused : schedule.paused = []

/-- Where everything is past, a monitor ends next, if anything happens at all. -/
theorem IsGone.next?_cases (gone : schedule.IsGone past) :
    (∃ id, schedule.next? = some (schedule.agent.time, .monitor id) ∧
      (schedule.agent.modifyMonitor id Hang.Monitor.wake).isCalling id = false ∧
      Agent.Fades past schedule.agent (schedule.agent.modifyMonitor id Hang.Monitor.wake)) ∨
    schedule.next? = none := by
  refine (Schedule.next?_cases gone.agent.settled).imp_right fun next => ?_
  have quiet : schedule.turnsAfter past = [] := by
    unfold turnsAfter hookTurns
    rw [gone.agent.relativeTo, gone.paused]
    rfl
  rw [next, quiet]
  rfl

theorem IsGone.fades {later : Agent κ ν} (gone : schedule.IsGone past)
    (fades : Agent.Fades past schedule.agent later) : { schedule with agent := later }.IsGone past :=
  ⟨gone.agent.fades fades, gone.paused⟩

theorem monitorTurns_of_next? (none : schedule.next? = none) : schedule.agent.monitorTurns = [] := by
  have turns : schedule.turns = [] := by
    unfold next? at none
    generalize schedule.turns = turns at none
    cases turns with
    | nil => rfl
    | cons turn rest =>
      unfold Turn.earliest? at none
      split at none <;> cases none
  exact (List.append_eq_nil_iff.mp turns).1

/-- Whatever is waited for, everything is past afterwards, and nothing else has changed. -/
theorem pass_of_isGone {ready : Agent κ ν → Bool} {answer : Bool} (gone : schedule.IsGone past)
    (passed : pass host depth none ready count schedule = some (answer, final)) :
    final.IsGone past ∧ final.agent.notes = schedule.agent.notes ∧
      final.agent.memory = schedule.agent.memory := by
  induction count generalizing schedule with
  | zero => cases passed
  | succ count ih =>
    cases now : ready schedule.agent with
    | true =>
      rw [pass_ready now] at passed
      cases passed
      exact ⟨gone, rfl, rfl⟩
    | false =>
      rcases gone.next?_cases with ⟨id, next, quiet, fades⟩ | next
      · rw [pass_fading now next quiet rfl] at passed
        obtain ⟨ends, notes, memory⟩ := ih (gone.fades fades) passed
        refine ⟨ends, notes.trans ?_, memory.trans fades.memory⟩
        show (schedule.agent.modifyMonitor id Hang.Monitor.wake).notes = _
        rw [fades.besides]
      · rw [pass_idle now next] at passed
        cases passed

/-- A wait for a monitor to end comes to its end, if there may be turns enough. -/
theorem exists_pass_of_isGone (gone : schedule.IsGone past) (id : MonitorId)
    (enough : (schedule.agent.elders past).lingering < count) :
    ∃ final, pass host depth none (fun agent => agent.hasEnded id) count schedule = some (true, final) := by
  induction count generalizing schedule with
  | zero => cases enough
  | succ count ih =>
    cases now : schedule.agent.hasEnded id with
    | true => exact ⟨schedule, pass_ready now⟩
    | false =>
      rcases gone.next?_cases with ⟨other, next, quiet, fades⟩ | next
      · rw [pass_fading now next quiet rfl]
        exact ih (gone.fades fades) (by have := fades.fewer; dsimp only; omega)
      · cases now.symm.trans (gone.agent.hasEnded (monitorTurns_of_next? next) id)

/-! ### The call -/

theorem run_access_modifyGet {caller : Option MonitorId} {run : {α : Type} → Script κ ν α → Act κ ν α}
    {id : ClientId} {client : Client κ} (held : schedule.agent.client? id = some client)
    (change : Client κ → α × Client κ) :
    (((Agent.access host caller run id).modifyGet change).run (move host depth count)).run schedule =
      some ((change client).1, schedule.setClient id (change client).2) := by
  unfold Client.Access.modifyGet
  rw [Program.run_bind, StateT.run_bind, run_access_get held]
  rfl

/-- The owner waits for any monitor. -/
theorem run_access_join {run : {α : Type} → Script κ ν α → Act κ ν α} (id : ClientId) (index : Nat) :
    (((Agent.access host none run id).join index).run (move host depth count)).run schedule =
      (pass host depth none (fun agent => agent.hasEnded ⟨id, index⟩) count schedule).map fun waited =>
        ((), waited.2) := by
  have other : ¬ (none : Option MonitorId) = some ⟨id, index⟩ := by rintro ⟨⟩
  unfold Agent.access
  dsimp only
  rw [if_neg other, Option.map_eq_bind]
  rfl

/-- A client that is closed has its monitor stopped, and the call waits for that one to end. -/
theorem run_call_close {id : ClientId} {client : Client κ} (held : schedule.agent.client? id = some client) :
    schedule.run host (depth + 1) count (Script.ask (.call id .close)) =
      match client.close.1 with
      | none => some ((), schedule.setClient id client.close.2)
      | some target =>
        (pass host (depth + 1) none (fun agent => agent.hasEnded ⟨id, target⟩) count
          (schedule.setClient id client.close.2)).map fun waited => ((), waited.2) := by
  unfold run Agent.runScript
  rw [Script.run_ask]
  unfold Agent.perform Client.Access.answer Client.Access.stop
  rw [Program.run_bind, StateT.run_bind, Program.run_bind, StateT.run_bind, run_access_modifyGet held]
  cases client.close.1 with
  | none => rfl
  | some target =>
    simp only [Option.bind_eq_bind, Option.bind_some, Program.run_bind, StateT.run_bind, run_access_join]
    rw [Option.map_eq_bind, Option.bind_assoc, Option.bind_assoc]
    rfl

/-- **The owner's `close`** does what it does at once, and then waits for at most one monitor. -/
theorem run_close (orderly : schedule.agent.IsOrderly) :
    schedule.run host (depth + 1) count (NativeCall.close : NativeCall κ).script =
      match schedule.agent.closeCurrent.1 with
      | none => some ((), { schedule with agent := schedule.agent.closeCurrent.2 })
      | some target =>
        (pass host (depth + 1) none (fun agent => agent.hasEnded target) count
          { schedule with agent := schedule.agent.closeCurrent.2 }).map fun waited => ((), waited.2) := by
  have asked : schedule.run host (depth + 1) count (Script.ask .uninstall) =
      some (schedule.agent.current, { schedule with agent := schedule.agent.uninstall.2 }) := rfl
  show schedule.run host (depth + 1) count NativeCall.closeScript = _
  unfold NativeCall.closeScript
  rw [run_bind_of_eq asked]
  rcases Agent.closeCurrent_cases orderly with ⟨absent, closed⟩ | ⟨id, client, installed, held, closed⟩
  · have same : schedule.agent.uninstall.2 = schedule.agent :=
      congrArg (fun current => { schedule.agent with current := current }) absent.symm
    rw [absent, closed, same]
    rfl
  · have there : ({ schedule with agent := schedule.agent.uninstall.2 } : Schedule κ ν).agent.client? id =
        some client := held
    rw [installed, closed]
    refine (run_call_close there).trans ?_
    cases client.close.1 <;> rfl

section Idle

variable (follows : schedule.FollowsNative) (idle : schedule.IsIdle)

include follows idle

theorem closeCurrent_isGone :
    { schedule with agent := schedule.agent.closeCurrent.2 }.IsGone schedule.agent.past :=
  ⟨Agent.closeCurrent_isGone follows.isOrderly (follows.isAsleep idle), idle⟩

/-- **After the owner's `close` everything is past**, where nothing was under way. -/
theorem isOver_of_close
    (ran : schedule.run host (depth + 1) count (NativeCall.close : NativeCall κ).script = some ((), final)) :
    final.IsGone schedule.agent.past ∧ final.agent.notes = schedule.agent.notes ∧
      final.agent.memory = schedule.agent.memory := by
  have gone := closeCurrent_isGone follows idle
  obtain ⟨notes, memory⟩ : schedule.agent.closeCurrent.2.notes = schedule.agent.notes ∧
      schedule.agent.closeCurrent.2.memory = schedule.agent.memory := by
    rcases Agent.closeCurrent_cases follows.isOrderly with ⟨_, closed⟩ | ⟨id, client, _, _, closed⟩
    · rw [closed]
      exact ⟨rfl, rfl⟩
    · rw [closed]
      exact ⟨rfl, rfl⟩
  rw [run_close follows.isOrderly] at ran
  cases target : schedule.agent.closeCurrent.1 with
  | none =>
    rw [target] at ran
    cases ran
    exact ⟨gone, notes, memory⟩
  | some monitor =>
    rw [target] at ran
    obtain ⟨⟨answer, later⟩, passed, same⟩ := Option.map_eq_some_iff.mp ran
    cases same
    obtain ⟨ends, still, yet⟩ := pass_of_isGone gone passed
    exact ⟨ends, still.trans notes, yet.trans memory⟩

/-- **The owner's `close` comes to its end** where nothing was under way. -/
theorem exists_run_close (enough : schedule.agent.monitorIds.length < count) :
    ∃ final, schedule.run host (depth + 1) count (NativeCall.close : NativeCall κ).script =
      some ((), final) := by
  have gone := closeCurrent_isGone follows idle
  rw [run_close follows.isOrderly]
  cases schedule.agent.closeCurrent.1 with
  | none => exact ⟨_, rfl⟩
  | some target =>
    have few : (schedule.agent.closeCurrent.2.elders schedule.agent.past).lingering < count :=
      gone.agent.settled.lingering.trans_lt enough
    obtain ⟨final, passed⟩ := exists_pass_of_isGone gone target few
    refine ⟨final, ?_⟩
    dsimp only
    rw [passed]
    rfl

end Idle

end Schedule

end CrashReporter
