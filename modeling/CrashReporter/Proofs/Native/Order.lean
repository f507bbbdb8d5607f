/-
**The order that native callers keep.**

Whatever native callers do, all clients but the installed one are closed, and a monitor that was not told to
stop is the one that its client has installed (`Agent.IsOrderly`). So it is in every state that native code
leaves (`Schedule.FollowsNative`), whatever is still under way there: native code keeps the order while it
acts, and so do the hooks of the monitors while it waits.
-/

import CrashReporter.Proofs.Agent.Reentrance
import CrashReporter.Proofs.Native.Conduct

namespace CrashReporter

variable {κ ν α : Type}

/-! ### Monitors -/

namespace Hang.Watcher

/-- Going on does not tell a watcher to stop. -/
theorem stopped_goOn (watcher : Watcher) (sight : Sight) (count : Nat) :
    (watcher.goOn sight count).stopped = watcher.stopped := by
  induction count generalizing watcher with
  | zero => rfl
  | succ count ih =>
    unfold goOn
    dsimp only
    split
    all_goals simp only [ih, stopped_step]

theorem stopped_round (watcher : Watcher) (sight : Sight) :
    (watcher.round sight).stopped = watcher.stopped := watcher.stopped_goOn sight 4

end Hang.Watcher

/-! ### Clients -/

namespace Client

variable {client : Client κ}

/-- What is closed has no monitor installed, and a monitor that was not told to stop is installed. -/
structure IsSound (client : Client κ) : Prop where
  tidy : client.IsTidy
  running : ∀ index monitor, client.monitors[index]? = some monitor → monitor.watcher.stopped = false →
    client.lifecycle.installed = some index

theorem getElem?_modifyMonitor (client : Client κ) (index other : Nat) (change : Hang.Monitor → Hang.Monitor) :
    (client.modifyMonitor index change).monitors[other]? =
      client.monitors[other]?.map fun monitor => if index = other then change monitor else monitor := by
  show (client.monitors.modify index change)[other]? = _
  rw [List.getElem?_modify]
  rfl

theorem stopMonitor_none (installed : client.lifecycle.installed = none) :
    client.stopMonitor = (none, client) := by
  unfold stopMonitor
  rw [installed]

theorem stopMonitor_some {index : Nat} (installed : client.lifecycle.installed = some index) :
    client.stopMonitor = (some index, client.modifyMonitor index .stop) := by
  unfold stopMonitor
  rw [installed]

theorem close_open (unclosed : client.isClosed = false) :
    client.close =
      (client.stopMonitor.1, client.stopMonitor.2.setLifecycle client.stopMonitor.2.lifecycle.close) := by
  unfold close
  rw [unclosed]
  rfl

/-- A monitor is started where none is installed; then it is installed, and asleep. -/
theorem enableHangs_cases (client : Client κ) (buffer : Hang.Buffer) (sight : Hang.Sight) :
    (client.enableHangs buffer sight).2 = client ∨
      client.lifecycle.installed = none ∧ ∃ monitor detector, monitor.watcher.phase = .waiting detector ∧
        (client.enableHangs buffer sight).2 =
          { client with
            lifecycle := ⟨false, some client.monitors.length⟩
            monitors := client.monitors ++ [monitor] } := by
  cases closed : client.isClosed with
  | true =>
    rw [enableHangs_closed closed]
    exact .inl rfl
  | false =>
    have lifecycle : client.lifecycle = ⟨false, client.lifecycle.installed⟩ :=
      congrArg (Hang.Lifecycle.mk · _) closed
    cases installed : client.lifecycle.installed with
    | some target =>
      rw [installed] at lifecycle
      refine .inl ?_
      unfold enableHangs
      rw [lifecycle]
      exact congrArg (client.setLifecycle) lifecycle.symm
    | none =>
      rw [installed] at lifecycle
      refine .inr ⟨rfl, .start buffer client.settings.hang.thresholdSpan.toNanoseconds
        client.settings.hang.pollSpan.toNanoseconds sight, _, rfl, ?_⟩
      unfold enableHangs
      rw [lifecycle]
      rfl

/-- After the installed monitor was told to stop, all monitors were. -/
theorem IsSound.stopMonitor (sound : client.IsSound) {index : Nat} {monitor : Hang.Monitor}
    (held : client.stopMonitor.2.monitors[index]? = some monitor) : monitor.watcher.stopped = true := by
  by_contra running
  rw [Bool.not_eq_true] at running
  cases installed : client.lifecycle.installed with
  | none =>
    rw [stopMonitor_none installed] at held
    cases installed.symm.trans (sound.running index monitor held running)
  | some target =>
    rw [stopMonitor_some installed, getElem?_modifyMonitor] at held
    obtain ⟨before, was, rfl⟩ := Option.map_eq_some_iff.mp held
    by_cases own : target = index
    · rw [if_pos own] at running
      cases running
    · rw [if_neg own] at running
      have other := sound.running index before was running
      exact own (Option.some_inj.mp (installed.symm.trans other))

/-- All monitors of a closed client were told to stop. -/
theorem IsSound.stopped (sound : client.IsSound) (closed : client.isClosed = true) {index : Nat}
    {monitor : Hang.Monitor} (held : client.monitors[index]? = some monitor) :
    monitor.watcher.stopped = true := by
  by_contra running
  have installed := sound.running index monitor held (Bool.not_eq_true _ ▸ running)
  cases (sound.tidy closed).symm.trans installed

theorem IsSound.enableHangs (sound : client.IsSound) (buffer : Hang.Buffer) (sight : Hang.Sight) {index : Nat}
    {monitor : Hang.Monitor} (held : (client.enableHangs buffer sight).2.monitors[index]? = some monitor)
    (running : monitor.watcher.stopped = false) :
    (client.enableHangs buffer sight).2.lifecycle.installed = some index := by
  rcases client.enableHangs_cases buffer sight with same | ⟨absent, started, _, _, changed⟩
  · rw [same] at held ⊢
    exact sound.running index monitor held running
  · rw [changed] at held ⊢
    show some client.monitors.length = some index
    rcases lt_or_ge index client.monitors.length with early | late
    · have before := (List.getElem?_append_left early).symm.trans held
      cases absent.symm.trans (sound.running index monitor before running)
    · have bound := (List.getElem?_eq_some_iff.mp held).1
      rw [List.length_append, List.length_singleton] at bound
      congr 1
      omega

theorem initial_isSound (surroundings : Surroundings) (runtimeContext : UInt64) :
    (initial surroundings runtimeContext : Client κ).IsSound where
  tidy _ := rfl
  running index monitor held _ := by cases held

/-- A change of a monitor that does not tell it to stop. -/
theorem IsSound.modifyMonitor (sound : client.IsSound) {index : Nat} {change : Hang.Monitor → Hang.Monitor}
    (same : ∀ monitor, (change monitor).watcher.stopped = monitor.watcher.stopped) :
    (client.modifyMonitor index change).IsSound := by
  refine ⟨sound.tidy, fun other monitor held running => ?_⟩
  rw [getElem?_modifyMonitor] at held
  obtain ⟨before, was, rfl⟩ := Option.map_eq_some_iff.mp held
  refine sound.running other before was ?_
  split at running
  · rwa [same] at running
  · exact running

end Client

/-- **No call leaves a monitor running that is not installed.** -/
theorem ClientCall.Makes.isSound {call : ClientCall κ} {change : Client κ → Client κ} {client : Client κ}
    (made : call.Makes change) (sound : client.IsSound) : (change client).IsSound := by
  refine ⟨made.isTidy sound.tidy, ?_⟩
  cases made with
  | enableHangs buffer sight => exact fun _ _ held running => sound.enableHangs buffer sight held running
  | disableHangs =>
    intro index monitor held running
    rw [sound.stopMonitor held] at running
    cases running
  | close =>
    intro index monitor held running
    cases closed : client.isClosed with
    | true =>
      dsimp only at held ⊢
      rw [Client.close_closed closed] at held ⊢
      exact sound.running index monitor held running
    | false =>
      dsimp only at held
      rw [Client.close_open closed] at held
      rw [sound.stopMonitor held] at running
      cases running
  | _ => exact sound.running

/-! ### Agents -/

namespace Agent

/-- All clients but the installed one are closed, and only installed monitors go on. -/
structure IsOrderly (agent : Agent κ ν) : Prop where
  sound : ∀ {id client}, agent.client? id = some client → client.IsSound
  closed : ∀ {id client}, agent.client? id = some client → agent.current ≠ some id → client.isClosed = true
  held : ∀ {id}, agent.current = some id → ∃ client, agent.client? id = some client

variable {agent later : Agent κ ν} {id : ClientId} {client present : Client κ}

theorem start_isOrderly (clock : Clock) (memory : Hang.Memory) (notes : ν) :
    (start clock memory notes : Agent κ ν).IsOrderly where
  sound held := by cases held
  closed held := by cases held
  held installed := by cases installed

/-- What else there is does not matter. -/
theorem IsOrderly.besides (orderly : agent.IsOrderly) (clients : later.clients = agent.clients)
    (current : later.current = agent.current) : later.IsOrderly := by
  refine ⟨fun held => ?_, fun held apart => ?_, fun installed => ?_⟩
  · exact orderly.sound ((client?_congr clients _).symm.trans held)
  · exact orderly.closed ((client?_congr clients _).symm.trans held) (current ▸ apart)
  · rw [client?_congr clients]
    exact orderly.held (current ▸ installed)

theorem IsOrderly.setClient (orderly : agent.IsOrderly) (held : agent.client? id = some client)
    (sound : present.IsSound) (closed : client.isClosed = true → present.isClosed = true) :
    (agent.setClient id present).IsOrderly := by
  refine ⟨fun {other found} there => ?_, fun {other found} there apart => ?_, fun {other} installed => ?_⟩
  · rcases client?_setClient_cases held there with ⟨_, rfl⟩ | ⟨_, before⟩
    · exact sound
    · exact orderly.sound before
  · rcases client?_setClient_cases held there with ⟨rfl, rfl⟩ | ⟨_, before⟩
    · exact closed (orderly.closed held apart)
    · exact orderly.closed before apart
  · by_cases same : id = other
    · subst same
      exact ⟨present, client?_setClient held present⟩
    · obtain ⟨found, there⟩ := orderly.held installed
      exact ⟨found, (client?_setClient_ne same agent present).trans there⟩

theorem IsOrderly.modifyMonitor (orderly : agent.IsOrderly) (id : MonitorId)
    {change : Hang.Monitor → Hang.Sight → Hang.Monitor}
    (same : ∀ monitor sight, (change monitor sight).watcher.stopped = monitor.watcher.stopped) :
    (agent.modifyMonitor id change).IsOrderly := by
  unfold Agent.modifyMonitor
  cases held : agent.client? id.client with
  | none => exact orderly
  | some client =>
    refine orderly.setClient held ((orderly.sound held).modifyMonitor fun monitor => ?_) fun closed => closed
    exact same monitor (agent.look monitor.buffer)

/-- Whoever is found after an installation was there, or is the client that was installed. -/
theorem client?_install_cases {agent : Agent κ ν} {installed : Client κ}
    (held : (agent.install installed).client? id = some client) :
    agent.client? id = some client ∨ id = ⟨agent.clients.length⟩ ∧ client = installed := by
  change (agent.clients ++ [installed])[id.index]? = some client at held
  rcases lt_or_ge id.index agent.clients.length with early | late
  · exact .inl ((List.getElem?_append_left early).symm.trans held)
  · have bound := (List.getElem?_eq_some_iff.mp held).1
    rw [List.length_append, List.length_singleton] at bound
    have place : id.index = agent.clients.length := by omega
    rw [place, List.getElem?_concat_length] at held
    exact .inr ⟨congrArg ClientId.mk place, (Option.some_inj.mp held).symm⟩

theorem IsOrderly.launch (orderly : agent.IsOrderly) (absent : agent.current = none)
    (surroundings : Surroundings) (runtimeContext : UInt64) :
    (agent.install (.initial surroundings runtimeContext)).IsOrderly := by
  refine ⟨fun {id client} held => ?_, fun {id client} held apart => ?_, fun {id} installed => ?_⟩
  · rcases client?_install_cases held with there | ⟨_, rfl⟩
    · exact orderly.sound there
    · exact Client.initial_isSound surroundings runtimeContext
  · rcases client?_install_cases held with there | ⟨rfl, rfl⟩
    · exact orderly.closed there (by rw [absent]; exact fun none => by cases none)
    · exact absurd rfl apart
  · cases installed
    exact ⟨_, List.getElem?_concat_length⟩

/-- The client that is taken out is closed. -/
theorem IsOrderly.close (orderly : agent.IsOrderly) (installed : agent.current = some id)
    (held : agent.client? id = some client) :
    (agent.uninstall.2.setClient id client.close.2).IsOrderly := by
  have still : agent.uninstall.2.client? id = some client := held
  have sound := ClientCall.Makes.close.isSound (orderly.sound held)
  refine ⟨fun {other found} there => ?_, fun {other found} there _ => ?_, fun installed => by cases installed⟩
  · rcases client?_setClient_cases still there with ⟨_, rfl⟩ | ⟨_, before⟩
    · exact sound
    · exact orderly.sound before
  · rcases client?_setClient_cases still there with ⟨rfl, rfl⟩ | ⟨apart, before⟩
    · exact (Client.close_isShut (orderly.sound held).tidy).1
    · refine orderly.closed before ?_
      rw [installed]
      exact fun equal => apart (Option.some_inj.mp equal).symm

/-- The order is kept. -/
def StaysOrderly (agent later : Agent κ ν) : Prop := agent.IsOrderly → later.IsOrderly

instance : IsPreorder (Agent κ ν) StaysOrderly where
  refl _ orderly := orderly
  trans _ _ _ first second orderly := second (first orderly)

/-- **Native callers keep the order.** -/
theorem staysOrderly_bears : NativeBears (StaysOrderly (κ := κ) (ν := ν)) where
  bears id task :=
    { tick := fun agent orderly => orderly.besides rfl rfl
      change := fun held made orderly =>
        orderly.setClient held (made.isSound (orderly.sound held)) made.isClosed
      breadcrumb := fun agent breadcrumb orderly => by
        unfold addBreadcrumb
        cases held : agent.client? id with
        | none => exact orderly
        | some client =>
          have read : agent.readClock.2.IsOrderly := orderly.besides rfl rfl
          have there : agent.readClock.2.client? id = some client := held
          have sound : (client.setTrail (client.template.trail.append agent.readClock.1 breadcrumb)).IsSound :=
            ⟨(orderly.sound held).tidy, (orderly.sound held).running⟩
          exact (read.setClient there sound fun closed => closed).besides rfl rfl
      note := fun agent happening _ _ orderly => orderly.besides rfl rfl }
  launch agent surroundings runtimeContext absent orderly := orderly.launch absent surroundings runtimeContext
  close installed held orderly := orderly.close installed held
  besides clients current _ orderly := orderly.besides clients current

end Agent

/-! ### Schedules -/

/-- Time, monitors and their hooks lead on, if native callers do and monitors that wake. -/
theorem NativeHost.keeps_of_bears {leads : Agent κ ν → Agent κ ν → Prop} [IsPreorder (Agent κ ν) leads]
    (bears : Agent.NativeBears leads) (time : ∀ (agent : Agent κ ν) time, leads agent { agent with time := time })
    (wake : ∀ (agent : Agent κ ν) id, leads agent (agent.modifyMonitor id Hang.Monitor.wake))
    (rest : ∀ (agent : Agent κ ν) id ended,
      leads agent (agent.modifyMonitor id fun monitor sight => monitor.rest sight ended))
    (native : NativeHost κ ν) (events depth : Nat) : (native.host events).Keeps depth leads where
  time := time
  wake := wake
  hook id := Agent.hook_leads bears rest native events depth id

namespace Schedule

/-- Native code left the schedule so, having begun with nothing. -/
def FollowsNative (schedule : Schedule κ ν) : Prop :=
  ∃ (native : NativeHost κ ν) (clock : Clock) (memory : Hang.Memory) (notes : ν) (α : Type)
    (code : NativeCode κ ν α) (depth count : Nat) (result : α),
    (start (Agent.start clock memory notes)).run (native.host 0) depth count (NativeCode.ownScript 0 code) =
      some (result, schedule)

variable {schedule : Schedule κ ν}

/-- Where native code was, everything was led on as native callers do, and will be by the hooks that wait. -/
theorem FollowsNative.leads (follows : schedule.FollowsNative) {leads : Agent κ ν → Agent κ ν → Prop}
    [IsPreorder (Agent κ ν) leads] (bears : Agent.NativeBears leads)
    (keeps : ∀ (native : NativeHost κ ν) events depth, (native.host events).Keeps depth leads) :
    ∃ clock memory notes, leads (Agent.start clock memory notes) schedule.agent ∧ schedule.Proper leads := by
  obtain ⟨native, clock, memory, notes, α, code, depth, count, result, ran⟩ := follows
  obtain ⟨runs, proper⟩ := runs_of_run (keeps native 0 depth) (start_proper _ _) ran
  exact ⟨clock, memory, notes,
    runs.leads_of_leadsFrom (Agent.ownScript_leads bears native 0 depth code _), proper⟩

/-- **Native code leaves order.** -/
theorem FollowsNative.isOrderly (follows : schedule.FollowsNative) : schedule.agent.IsOrderly := by
  have keeps (native : NativeHost κ ν) := native.keeps_of_bears Agent.staysOrderly_bears
    (fun _ _ orderly => orderly.besides rfl rfl)
    (fun _ id orderly => orderly.modifyMonitor id fun monitor sight => monitor.watcher.stopped_round sight)
    fun _ id ended orderly => orderly.modifyMonitor id fun monitor sight =>
      monitor.watcher.stopped_step sight ended
  obtain ⟨clock, memory, notes, led, _⟩ := follows.leads Agent.staysOrderly_bears keeps
  exact led (Agent.start_isOrderly clock memory notes)

end Schedule

end CrashReporter
