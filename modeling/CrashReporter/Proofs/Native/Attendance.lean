/-
**Monitors inside their hooks.**

What native callers do moves no monitor that there is, and starts new ones asleep (`Agent.SameStanding`). So a
monitor is inside its hook for as long as the hook is under way: between two turns of a schedule, the
monitors inside their hooks are those whose hooks wait, one each, and all others sleep or have ended
(`Schedule.Attends`). In particular all do where no hook waits (`Schedule.FollowsNative.isAsleep`).
-/

import CrashReporter.Proofs.Agent.Turns
import CrashReporter.Proofs.Native.Order
import Mathlib.Data.List.Forall2
import Mathlib.Data.List.Perm.Basic

namespace CrashReporter

variable {κ ν α : Type}

/-! ### Where monitors stand -/

/-- A watcher that wakes goes back to sleep, ends, or calls its hook. -/
theorem Hang.Watcher.round_of_waiting {watcher : Hang.Watcher} {detector : Hang.Detector}
    (waiting : watcher.phase = .waiting detector) (sight : Hang.Sight) :
    (watcher.round sight).phase.IsStill ∨ (watcher.round sight).phase.isCalling = true := by
  obtain ⟨threshold, stopped, phase⟩ := watcher
  subst waiting
  cases stopped with
  | true => exact .inl (.inr rfl)
  | false =>
    have looked : (⟨threshold, false, .looking detector⟩ : Hang.Watcher).step sight .returned =
        ⟨threshold, false, if (detector.observe sight).1 then .alarmed (detector.observe sight).2
          else .waiting (detector.observe sight).2⟩ := rfl
    show (Hang.Watcher.goOn sight 3 ⟨threshold, false, .looking detector⟩).phase.IsStill ∨
      (Hang.Watcher.goOn sight 3 ⟨threshold, false, .looking detector⟩).phase.isCalling = true
    unfold Hang.Watcher.goOn
    rw [looked]
    cases (detector.observe sight).1 with
    | true => exact .inr rfl
    | false => exact .inl (.inl ⟨_, rfl⟩)

/-- A watcher whose hook ends goes to sleep. -/
theorem Hang.Watcher.step_of_calling {watcher : Hang.Watcher} {detector : Hang.Detector}
    (calling : watcher.phase = .calling detector) (sight : Hang.Sight) (ended : Hang.HookEnd) :
    (watcher.step sight ended).phase = .waiting detector := by
  unfold step
  rw [calling]
  cases ended <;> rfl

namespace Client

variable {client : Client κ}

/-- Where a monitor stands. -/
def phase? (client : Client κ) (index : Nat) : Option Hang.Phase :=
  client.monitors[index]?.map fun monitor => monitor.watcher.phase

/-- Who is told to stop stays where it is. -/
theorem phase?_stopMonitor (client : Client κ) (index : Nat) :
    client.stopMonitor.2.phase? index = client.phase? index := by
  cases installed : client.lifecycle.installed with
  | none => rw [stopMonitor_none installed]
  | some target =>
    rw [stopMonitor_some installed]
    unfold phase?
    rw [getElem?_modifyMonitor, Option.map_map]
    refine congrFun (congrArg Option.map (funext fun monitor => ?_)) _
    show (if target = index then monitor.stop else monitor).watcher.phase = monitor.watcher.phase
    split <;> rfl

end Client

/-- **No call moves a monitor**, and one that it starts is asleep. -/
theorem ClientCall.Makes.phase? {call : ClientCall κ} {change : Client κ → Client κ} {client : Client κ}
    (made : call.Makes change) (index : Nat) :
    (change client).phase? index = client.phase? index ∨
      client.phase? index = none ∧ ∃ detector, (change client).phase? index = some (.waiting detector) := by
  cases made with
  | enableHangs buffer sight =>
    rcases client.enableHangs_cases buffer sight with same | ⟨_, monitor, detector, asleep, changed⟩
    · exact .inl (congrArg (Client.phase? · index) same)
    · dsimp only
      rw [changed]
      unfold Client.phase?
      dsimp only
      rcases lt_or_ge index client.monitors.length with early | late
      · rw [List.getElem?_append_left early]
        exact .inl rfl
      · rw [List.getElem?_append_right late, List.getElem?_eq_none late]
        cases place : index - client.monitors.length with
        | zero => exact .inr ⟨rfl, detector, congrArg some asleep⟩
        | succ place => exact .inl rfl
  | disableHangs => exact .inl (client.phase?_stopMonitor index)
  | close =>
    left
    cases closed : client.isClosed with
    | true =>
      dsimp only
      rw [Client.close_closed closed]
    | false =>
      dsimp only
      rw [Client.close_open closed]
      exact client.phase?_stopMonitor index
  | _ => exact .inl rfl

namespace Agent

open Act

/-- Where a monitor stands. -/
def phase? (agent : Agent κ ν) (id : MonitorId) : Option Hang.Phase :=
  (agent.monitor? id).map fun monitor => monitor.watcher.phase

/-- Every monitor stands where it stood, and those that are new are asleep. -/
def SameStanding (agent later : Agent κ ν) : Prop :=
  ∀ id, later.phase? id = agent.phase? id ∨
    agent.phase? id = none ∧ ∃ detector, later.phase? id = some (.waiting detector)

instance : IsPreorder (Agent κ ν) SameStanding where
  refl _ _ := .inl rfl
  trans _ _ _ first second id := by
    rcases second id with same | ⟨absent, detector, asleep⟩
    · rw [same]
      exact first id
    · rcases first id with before | ⟨_, other, present⟩
      · exact .inr ⟨before.symm.trans absent, detector, asleep⟩
      · cases absent.symm.trans present

variable {agent later origin middle final : Agent κ ν} {id : ClientId} {client present : Client κ}

theorem sameStanding_of_clients (clients : later.clients = agent.clients) : SameStanding agent later := by
  intro id
  unfold phase?
  rw [monitor?_congr clients]
  exact .inl rfl

theorem sameStanding_setClient (held : agent.client? id = some client)
    (standing : ∀ index, present.phase? index = client.phase? index ∨
      client.phase? index = none ∧ ∃ detector, present.phase? index = some (.waiting detector)) :
    SameStanding agent (agent.setClient id present) := by
  intro monitor
  unfold phase? monitor?
  by_cases same : id = monitor.client
  · subst same
    rw [client?_setClient held, held]
    exact standing monitor.index
  · rw [client?_setClient_ne same]
    exact .inl rfl

/-- **Native callers move no monitor.** -/
theorem sameStanding_bears : NativeBears (SameStanding (κ := κ) (ν := ν)) where
  bears id call :=
    { tick := fun agent => sameStanding_of_clients rfl
      change := fun held made => sameStanding_setClient held made.phase?
      breadcrumb := fun agent breadcrumb => by
        unfold addBreadcrumb
        cases held : agent.client? id with
        | none => exact refl_of SameStanding agent
        | some client =>
          have read : agent.readClock.2.client? id = some client := held
          exact sameStanding_setClient read fun index => .inl rfl
      note := fun agent happening _ _ => sameStanding_of_clients rfl }
  launch agent surroundings runtimeContext _ id := by
    left
    unfold phase? monitor?
    rcases lt_or_ge id.client.index agent.clients.length with early | late
    · rw [show (agent.install (.initial surroundings runtimeContext)).client? id.client =
        agent.client? id.client from List.getElem?_append_left early]
    · have absent : agent.client? id.client = none := List.getElem?_eq_none late
      rw [absent]
      cases found : (agent.install (.initial surroundings runtimeContext)).client? id.client with
      | none => rfl
      | some client =>
        rcases client?_install_cases found with there | ⟨_, rfl⟩
        · cases absent.symm.trans there
        · rfl
  close _ held := sameStanding_setClient held ClientCall.Makes.close.phase?
  besides clients _ _ := sameStanding_of_clients clients

/-! ### Hooks that are under way -/

/-- Every monitor sleeps or has ended. -/
def IsAsleep (agent : Agent κ ν) : Prop :=
  ∀ id monitor, agent.monitor? id = some monitor → monitor.watcher.phase.IsStill

theorem IsAsleep.of_sameStanding (asleep : agent.IsAsleep) (same : SameStanding agent later) :
    later.IsAsleep := by
  intro id monitor held
  have found : later.phase? id = some monitor.watcher.phase := congrArg (Option.map _) held
  rcases same id with standing | ⟨_, detector, fresh⟩
  · obtain ⟨before, was, phase⟩ := Option.map_eq_some_iff.mp (standing.symm.trans found)
    rw [← phase]
    exact asleep id before was
  · rw [← Option.some_inj.mp (fresh.symm.trans found)]
    exact .inl ⟨detector, rfl⟩

/-- Some monitors are inside their hooks, and all others sleep or have ended. -/
structure Attended (ids : List MonitorId) (agent : Agent κ ν) : Prop where
  inside : ∀ id ∈ ids, ∃ detector, agent.phase? id = some (.calling detector)
  still : ∀ id phase, agent.phase? id = some phase → id ∉ ids → phase.IsStill

variable {ids : List MonitorId} {monitor : MonitorId}

theorem Attended.of_sameStanding (attended : agent.Attended ids) (same : SameStanding agent later) :
    later.Attended ids := by
  refine ⟨fun id member => ?_, fun id phase found apart => ?_⟩
  · obtain ⟨detector, calling⟩ := attended.inside id member
    rcases same id with standing | ⟨absent, _⟩
    · exact ⟨detector, standing.trans calling⟩
    · cases absent.symm.trans calling
  · rcases same id with standing | ⟨_, detector, asleep⟩
    · exact attended.still id phase (standing.symm.trans found) apart
    · obtain rfl := Option.some_inj.mp (asleep.symm.trans found)
      exact .inl ⟨detector, rfl⟩

theorem Attended.perm {others : List MonitorId} (attended : agent.Attended ids) (same : others.Perm ids) :
    agent.Attended others :=
  ⟨fun id member => attended.inside id (same.mem_iff.mp member),
    fun id phase found apart => attended.still id phase found (apart ∘ same.mem_iff.mpr)⟩

theorem phase?_modifyMonitor (agent : Agent κ ν) (id : MonitorId)
    (change : Hang.Monitor → Hang.Sight → Hang.Monitor) :
    (∀ other, other ≠ id → (agent.modifyMonitor id change).phase? other = agent.phase? other) ∧
      (agent.modifyMonitor id change).phase? id =
        (agent.monitor? id).map fun monitor => (change monitor (agent.look monitor.buffer)).watcher.phase := by
  unfold phase?
  refine ⟨fun other apart => ?_, ?_⟩
  · rw [monitor?_modifyMonitor, Option.map_map]
    simp only [if_neg apart, Function.comp_def]
  · rw [monitor?_modifyMonitor, Option.map_map]
    simp only [if_true, Function.comp_def]

theorem isCalling_eq (agent : Agent κ ν) (id : MonitorId) :
    agent.isCalling id = (agent.phase? id).any Hang.Phase.isCalling := by
  unfold isCalling phase?
  cases agent.monitor? id <;> rfl

/-- A change of one monitor decides only whether that one is inside its hook. -/
theorem Attended.modifyMonitor {others : List MonitorId} {change : Hang.Monitor → Hang.Sight → Hang.Monitor}
    (attended : agent.Attended ids) (same : ∀ id, id ≠ monitor → (id ∈ others ↔ id ∈ ids))
    (inside : monitor ∈ others →
      ∃ detector, (agent.modifyMonitor monitor change).phase? monitor = some (.calling detector))
    (still : monitor ∉ others →
      ∀ phase, (agent.modifyMonitor monitor change).phase? monitor = some phase → phase.IsStill) :
    (agent.modifyMonitor monitor change).Attended others := by
  obtain ⟨besides, _⟩ := phase?_modifyMonitor agent monitor change
  refine ⟨fun id member => ?_, fun id phase found apart => ?_⟩
  · by_cases own : id = monitor
    · subst own
      exact inside member
    · rw [besides id own]
      exact attended.inside id ((same id own).mp member)
  · by_cases own : id = monitor
    · subst own
      exact still apart phase found
    · rw [besides id own] at found
      exact attended.still id phase found (apart ∘ (same id own).mpr)

/-- A monitor that wakes is inside its hook then, or sleeps again, or has ended. -/
theorem Attended.wake (attended : agent.Attended ids) {detector : Hang.Detector}
    (waiting : agent.phase? monitor = some (.waiting detector)) :
    monitor ∉ ids ∧
      ((agent.modifyMonitor monitor Hang.Monitor.wake).isCalling monitor = true ∧
          (agent.modifyMonitor monitor Hang.Monitor.wake).Attended (monitor :: ids) ∨
        (agent.modifyMonitor monitor Hang.Monitor.wake).isCalling monitor = false ∧
          (agent.modifyMonitor monitor Hang.Monitor.wake).Attended ids) := by
  have apart : monitor ∉ ids := by
    intro member
    obtain ⟨other, calling⟩ := attended.inside monitor member
    cases waiting.symm.trans calling
  refine ⟨apart, ?_⟩
  obtain ⟨asleep, held, phase⟩ := Option.map_eq_some_iff.mp waiting
  have woken := (phase?_modifyMonitor agent monitor Hang.Monitor.wake).2
  rw [held, Option.map_some] at woken
  change _ = some (asleep.watcher.round (agent.look asleep.buffer)).phase at woken
  have wakes := Hang.Watcher.round_of_waiting phase (agent.look asleep.buffer)
  rw [isCalling_eq, woken, Option.any_some]
  generalize (asleep.watcher.round (agent.look asleep.buffer)).phase = after at woken wakes
  cases calling : after.isCalling with
  | true =>
    refine .inl ⟨rfl, attended.modifyMonitor (fun id own => ?_) (fun _ => ?_) fun absent => ?_⟩
    · exact List.mem_cons.trans (or_iff_right own)
    · cases after with
      | calling detector => exact ⟨detector, woken⟩
      | _ => cases calling
    · exact absurd List.mem_cons_self absent
  | false =>
    refine .inr ⟨rfl, attended.modifyMonitor (fun _ _ => .rfl) (fun member => absurd member apart) ?_⟩
    intro _ phase found
    obtain rfl := Option.some_inj.mp (woken.symm.trans found)
    exact wakes.resolve_right (by rw [calling]; exact Bool.false_ne_true)

/-- A monitor whose hook ends goes to sleep. -/
theorem Attended.rest (attended : agent.Attended (monitor :: ids)) (apart : monitor ∉ ids)
    (ended : Hang.HookEnd) :
    (agent.modifyMonitor monitor fun inside sight => inside.rest sight ended).Attended ids := by
  refine attended.modifyMonitor (fun id own => ?_) (fun member => absurd member apart) fun _ phase found => ?_
  · exact (List.mem_cons.trans (or_iff_right own)).symm
  · obtain ⟨detector, calling⟩ := attended.inside monitor List.mem_cons_self
    obtain ⟨inside, held, calls⟩ := Option.map_eq_some_iff.mp calling
    rw [(phase?_modifyMonitor agent monitor _).2, held, Option.map_some] at found
    obtain rfl := Option.some_inj.mp found
    exact .inl ⟨detector, inside.watcher.step_of_calling calls _ ended⟩

/-- The monitor comes to rest after a report. -/
def comeToRest (id : MonitorId) (outcome : Option Outcome) : Act κ ν Unit :=
  modify fun agent => agent.modifyMonitor id fun monitor sight =>
    monitor.rest sight (if outcome.isSome then .returned else .panicked)

end Agent

namespace Act

open Agent

/-- What is left of the hook of a monitor: a report that moves no monitor, and then that one comes to rest. -/
def Attends (id : MonitorId) (act : Act κ ν Unit) : Prop :=
  ∃ report : Act κ ν (Option Outcome), Leads SameStanding report ∧ act = report >>= comeToRest id

theorem hook_attends (native : NativeHost κ ν) (events depth : Nat) (id : MonitorId) :
    Attends id (hook (native.host events) depth id) :=
  ⟨_, reportHang_leads sameStanding_bears native events depth id, rfl⟩

/-- Up to its next wait, a hook moves no monitor; if it ends, its monitor comes to rest. -/
theorem goOn_attends {id : MonitorId} {report : Act κ ν (Option Outcome)} {origin agent final : Agent κ ν}
    {pause : Option (Pause κ ν)} (from_ : LeadsFrom SameStanding report origin agent)
    (went : goOn (report >>= comeToRest id) agent = some (final, pause)) :
    (pause = none ∧ ∃ middle ended, SameStanding origin middle ∧
        final = middle.modifyMonitor id fun monitor sight => monitor.rest sight ended) ∨
      ∃ waiting, pause = some waiting ∧ SameStanding origin final ∧
        ∀ answer, Attends id (waiting.next answer) := by
  rcases goOn_bind_leads from_ went with ⟨outcome, middle, standing, ended⟩ | ⟨waiting, rfl, standing, further⟩
  · cases ended
    exact .inl ⟨rfl, middle, _, standing, rfl⟩
  · exact .inr ⟨waiting, rfl, standing, further⟩

end Act

/-! ### Schedules -/

namespace Schedule

open Agent

/-- The monitors inside their hooks are those whose hooks wait. -/
structure Attends (ids : List MonitorId) (schedule : Schedule κ ν) : Prop where
  hooks : List.Forall₂ (fun pause id => ∀ answer, Act.Attends id (pause.next answer)) schedule.paused ids
  apart : ids.Nodup
  agent : schedule.agent.Attended ids

variable {host : Host κ ν} {depth count : Nat} {schedule final : Schedule κ ν} {ids : List MonitorId}
  {monitor : MonitorId}

theorem act_attends {hook : Act κ ν Unit}
    (hooks : List.Forall₂ (fun pause id => ∀ answer, Act.Attends id (pause.next answer)) schedule.paused ids)
    (apart : (monitor :: ids).Nodup) (attended : schedule.agent.Attended (monitor :: ids))
    (attends : Act.Attends monitor hook) (acted : schedule.act hook = some final) :
    ∃ ids, final.Attends ids := by
  obtain ⟨alone, others⟩ := List.nodup_cons.mp apart
  obtain ⟨report, led, rfl⟩ := attends
  unfold act at acted
  cases went : Act.goOn (report >>= comeToRest monitor) schedule.agent with
  | none =>
    rw [went] at acted
    cases acted
  | some ended =>
    obtain ⟨agent, pause⟩ := ended
    rw [went] at acted
    rcases Act.goOn_attends (led _) went with
      ⟨rfl, middle, ended, standing, rfl⟩ | ⟨waiting, rfl, standing, further⟩
    · cases acted
      exact ⟨ids, hooks, others, (attended.of_sameStanding standing).rest alone ended⟩
    · cases acted
      have same := List.perm_append_singleton monitor ids
      exact ⟨ids ++ [monitor], List.rel_append hooks (.cons further .nil), same.nodup_iff.mpr apart,
        (attended.of_sameStanding standing).perm same⟩

/-- A monitor that has the next turn is asleep. -/
theorem phase?_of_next? {time : Int} (next : schedule.next? = some (time, .monitor monitor)) :
    ∃ detector, schedule.agent.phase? monitor = some (.waiting detector) := by
  rcases List.mem_append.mp (Turn.mem_of_earliest? next) with member | member
  · obtain ⟨id, _, timed⟩ := List.mem_filterMap.mp member
    obtain ⟨_, woken, same⟩ := Option.map_eq_some_iff.mp timed
    cases same
    obtain ⟨asleep, held, wakes⟩ := Option.bind_eq_some_iff.mp woken
    unfold Agent.phase?
    rw [held, Option.map_some]
    unfold Hang.Monitor.wakes? at wakes
    split at wakes
    · exact ⟨_, congrArg some ‹_›⟩
    · cases wakes
  · obtain ⟨_, _, timed⟩ := List.mem_filterMap.mp member
    obtain ⟨_, _, same⟩ := Option.map_eq_some_iff.mp timed
    cases same

/-- Turns are taken by monitors that sleep, and by hooks that wait. -/
theorem take_attends {native : NativeHost κ ν} {events : Nat} (attends : schedule.Attends ids) {turn : Turn}
    (due : ∀ id, turn = .monitor id → ∃ detector, schedule.agent.phase? id = some (.waiting detector))
    (taken : schedule.take (native.host events) depth turn = some final) : ∃ ids, final.Attends ids := by
  cases turn with
  | monitor id =>
    obtain ⟨detector, waiting⟩ := due id rfl
    obtain ⟨apart, woken⟩ := attends.agent.wake waiting
    unfold take at taken
    dsimp only at taken
    rcases woken with ⟨calling, attended⟩ | ⟨quiet, attended⟩
    · rw [if_pos calling] at taken
      have hooks : List.Forall₂ (fun pause id => ∀ answer, Act.Attends id (pause.next answer))
          (Schedule.mk (schedule.agent.modifyMonitor id Hang.Monitor.wake) schedule.paused).paused ids :=
        attends.hooks
      exact act_attends hooks (List.nodup_cons.mpr ⟨apart, attends.apart⟩) attended
        (Act.hook_attends native events depth id) taken
    · rw [if_neg (by rw [quiet]; exact Bool.false_ne_true)] at taken
      cases taken
      exact ⟨ids, attends.hooks, attends.apart, attended⟩
  | hook index =>
    unfold take at taken
    dsimp only at taken
    cases paused : schedule.paused[index]? with
    | none =>
      rw [paused] at taken
      cases taken
      exact ⟨ids, attends⟩
    | some pause =>
      rw [paused] at taken
      obtain ⟨bound, rfl⟩ := List.getElem?_eq_some_iff.mp paused
      have bound' : index < ids.length := attends.hooks.length_eq ▸ bound
      have same := List.getElem_cons_eraseIdx_perm bound'
      have hooks : List.Forall₂ (fun pause id => ∀ answer, Act.Attends id (pause.next answer))
          (Schedule.mk schedule.agent (schedule.paused.eraseIdx index)).paused (ids.eraseIdx index) := by
        show List.Forall₂ _ (schedule.paused.eraseIdx index) _
        rw [List.eraseIdx_eq_take_drop_succ, List.eraseIdx_eq_take_drop_succ]
        exact List.rel_append (List.forall₂_take index attends.hooks)
          (List.forall₂_drop (index + 1) attends.hooks)
      exact act_attends hooks (same.nodup_iff.mpr attends.apart) (attends.agent.perm same)
        (attends.hooks.get bound bound' _) taken

theorem passTo_attends (attends : schedule.Attends ids) (time : Int) : (schedule.passTo time).Attends ids :=
  ⟨attends.hooks, attends.apart, attends.agent.of_sameStanding (sameStanding_of_clients rfl)⟩

/-- **While the owner waits**, the monitors inside their hooks are those whose hooks wait. -/
theorem pass_attends {native : NativeHost κ ν} {events : Nat} {limit : Option Int} {ready : Agent κ ν → Bool}
    {answer : Bool} (attends : schedule.Attends ids)
    (passed : pass (native.host events) depth limit ready count schedule = some (answer, final)) :
    ∃ ids, final.Attends ids := by
  induction count generalizing schedule ids with
  | zero => cases passed
  | succ count ih =>
    unfold pass at passed
    by_cases now : ready schedule.agent
    · rw [if_pos now] at passed
      cases passed
      exact ⟨ids, attends⟩
    · rw [if_neg now] at passed
      cases next : schedule.next? with
      | none =>
        rw [next] at passed
        cases limit with
        | none => cases passed
        | some limit =>
          cases passed
          exact ⟨ids, passTo_attends attends limit⟩
      | some turn =>
        obtain ⟨time, turn⟩ := turn
        rw [next] at passed
        dsimp only at passed
        split at passed
        · cases passed
          exact ⟨ids, passTo_attends attends _⟩
        · cases taken : (schedule.passTo time).take (native.host events) depth turn with
          | none =>
            rw [taken] at passed
            cases passed
          | some later =>
            rw [taken] at passed
            have due (id : MonitorId) (own : turn = .monitor id) :
                ∃ detector, (schedule.passTo time).agent.phase? id = some (.waiting detector) := by
              subst own
              obtain ⟨detector, asleep⟩ := phase?_of_next? next
              exact ⟨detector, asleep⟩
            obtain ⟨ids, still⟩ := take_attends (passTo_attends attends time) due taken
            exact ih still passed

/-- What the owner does moves no monitor, apart from its waits. -/
theorem attends_of_act {native : NativeHost κ ν} {events : Nat} {act : Act κ ν α} {origin : Agent κ ν}
    {result : α} (attends : (Schedule.mk origin schedule.paused).Attends ids)
    (from_ : Act.LeadsFrom SameStanding act origin schedule.agent)
    (ran : (act.run (move (native.host events) depth count)).run schedule = some (result, final)) :
    ∃ ids, final.Attends ids := by
  induction act generalizing schedule origin ids with
  | done value =>
    cases ran
    exact ⟨ids, attends.hooks, attends.apart, attends.agent.of_sameStanding from_⟩
  | ask asked next ih =>
    obtain ⟨⟨answer, middle⟩, moved, continued⟩ := Option.bind_eq_some_iff.mp ran
    cases asked with
    | get =>
      cases moved
      exact ih _ attends from_ continued
    | set changed =>
      cases moved
      have still : (Schedule.mk origin (Schedule.mk changed schedule.paused).paused).Attends ids := attends
      exact ih _ still from_ continued
    | wait span ready =>
      have reached : schedule.Attends ids :=
        ⟨attends.hooks, attends.apart, attends.agent.of_sameStanding from_.1⟩
      obtain ⟨ids, still⟩ := pass_attends reached moved
      exact ih _ still (from_.2 _ _) continued
    | fail => cases moved

/-- **Where native code was, the monitors inside their hooks are those whose hooks wait.** -/
theorem FollowsNative.attends (follows : schedule.FollowsNative) : ∃ ids, schedule.Attends ids := by
  obtain ⟨native, clock, memory, notes, α, code, depth, count, result, ran⟩ := follows
  have nobody (id : MonitorId) : (Agent.start clock memory notes : Agent κ ν).phase? id = none := rfl
  have attends : (start (Agent.start clock memory notes : Agent κ ν)).Attends [] := by
    refine ⟨.nil, List.nodup_nil, ⟨fun id member => (by cases member), fun id phase found _ => ?_⟩⟩
    cases (nobody id).symm.trans found
  exact attends_of_act attends (Agent.ownScript_leads sameStanding_bears native 0 depth code _) ran

/-- No call is under way: no hook waits. -/
def IsIdle (schedule : Schedule κ ν) : Prop := schedule.paused = []

instance (schedule : Schedule κ ν) : Decidable schedule.IsIdle :=
  decidable_of_iff (schedule.paused.isEmpty = true) List.isEmpty_iff

/-- **Where no call is under way, every monitor sleeps or has ended.** -/
theorem FollowsNative.isAsleep (follows : schedule.FollowsNative) (idle : schedule.IsIdle) :
    schedule.agent.IsAsleep := by
  intro id monitor held
  obtain ⟨ids, attends⟩ := follows.attends
  have hooks := attends.hooks
  rw [show schedule.paused = [] from idle] at hooks
  cases hooks
  exact attends.agent.still id _ (congrArg (Option.map _) held) List.not_mem_nil

end Schedule

end CrashReporter
