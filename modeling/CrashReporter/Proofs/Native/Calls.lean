/-
**What native calls do to a schedule.**

A script of the owner runs request by request (`Schedule.run_bind`). What a native call does without
calling the host back follows from two things: who is installed (`Schedule.Installs`), and which event a
handle has. The settings of any surroundings are valid (`Surroundings.validate_settings`), so that `init` installs
a client if there is none and as many breadcrumbs fit into memory as the settings ask for (`run_init`), and otherwise
nothing (`run_init_of_not_hasRoom`).
-/

import CrashReporter.Agent.Schedule
import CrashReporter.Native.Call
import CrashReporter.Proofs.Agent.Untouched

namespace CrashReporter

variable {κ ν α β : Type}

/-! ### Settings -/

theorem Settings.validate_of_ok {settings valid : Settings} (checked : settings.validate = .ok valid) :
    valid.validate = .ok valid := by
  have same : settings = valid := by
    unfold validate at checked
    split at checked
    · cases checked
    · exact Except.ok.inj checked
  rw [same] at checked
  exact checked

/-- **The settings of any surroundings are valid.** -/
theorem Surroundings.validate_settings (surroundings : Surroundings) :
    surroundings.settings.validate = .ok surroundings.settings := by
  unfold settings
  cases loaded : Settings.load surroundings with
  | error cause => rfl
  | ok settings =>
    unfold Settings.load Settings.loadFrom at loaded
    cases merged : Settings.mergeSources surroundings .empty (Source.ordered
        ([.defaults, .environment] ++ (Source.ofVariable? surroundings.environment).toList)) with
    | error cause =>
      rw [merged] at loaded
      cases loaded
    | ok layer =>
      rw [merged] at loaded
      exact Settings.validate_of_ok loaded

/-- The client that `init` installs. -/
def Client.initial (surroundings : Surroundings) (runtimeContext : UInt64) : Client κ :=
  .ofTemplate surroundings.settings
    (.ofTrail (.ofCapacity surroundings.settings.breadcrumbs.maxBreadcrumbs.toNat)) none runtimeContext

/-- As many breadcrumbs as the settings of a launch ask for fit into memory. -/
def Surroundings.HasRoom (surroundings : Surroundings) : Prop :=
  Trail.Fits surroundings.settings.breadcrumbs.maxBreadcrumbs.toNat

theorem Client.build_settings {surroundings : Surroundings} (room : surroundings.HasRoom)
    (runtimeContext : UInt64) :
    (build surroundings.settings none runtimeContext : Option (Except ClientError (Client κ))) =
      some (.ok (initial surroundings runtimeContext)) := by
  unfold build Template.make?
  rw [surroundings.validate_settings]
  dsimp only
  rw [Trail.make?_of_fits room]
  rfl

theorem Client.build_settings_of_not_hasRoom {surroundings : Surroundings} (full : ¬ surroundings.HasRoom)
    (runtimeContext : UInt64) :
    (build surroundings.settings none runtimeContext : Option (Except ClientError (Client κ))) = none := by
  unfold build Template.make?
  rw [surroundings.validate_settings]
  dsimp only
  rw [Trail.make?_of_not_fits full]
  rfl

theorem Script.run_ask {answer : (request : Request κ ν) → Act κ ν request.Answer} (request : Request κ ν) :
    (Script.ask request).run answer = answer request := Program.run_request answer request

/-- A script that begins with a request runs by its answer. -/
theorem Script.run_ask_bind {answer : (request : Request κ ν) → Act κ ν request.Answer} (request : Request κ ν)
    (next : request.Answer → Script κ ν α) :
    (Script.ask request >>= next).run answer =
      answer request >>= fun result => (next result).run answer := rfl

namespace Schedule

/-- The client of a name is installed, and this is how it is. -/
structure Installs (schedule : Schedule κ ν) (id : ClientId) (client : Client κ) : Prop where
  current : schedule.agent.current = some id
  held : schedule.agent.client? id = some client

variable {host : Host κ ν} {depth count : Nat} {schedule : Schedule κ ν} {id : ClientId}
  {client : Client κ}

theorem run_bind (script : Script κ ν α) (next : α → Script κ ν β) :
    schedule.run host depth count (script >>= next) =
      (schedule.run host depth count script).bind fun (result, later) =>
        later.run host depth count (next result) := by
  unfold run Agent.runScript
  rw [Program.run_bind, Program.run_bind]
  rfl

/-- What follows a script that is known to run. -/
theorem run_bind_of_eq {script : Script κ ν α} {result : α} {later : Schedule κ ν}
    (ran : schedule.run host depth count script = some (result, later)) (next : α → Script κ ν β) :
    schedule.run host depth count (script >>= next) = later.run host depth count (next result) := by
  rw [run_bind, ran, Option.bind_some]

/-! ### Calls on the installed client -/

theorem run_onCurrent_some (installed : schedule.agent.current = some id) (task : ClientCall κ) :
    schedule.run host (depth + 1) count (Script.onCurrent task) =
      (schedule.run host (depth + 1) count (Script.ask (.call id task))).bind
        fun (answer, later) => some (some answer, later) := by
  have asked : schedule.run host (depth + 1) count (Script.ask .current) = some (some id, schedule) :=
    congrArg (fun current => some (current, schedule)) installed
  unfold Script.onCurrent
  rw [run_bind_of_eq asked, run_bind]
  rfl

/-- Puts a client in the place of the one of a name. -/
def setClient (schedule : Schedule κ ν) (id : ClientId) (client : Client κ) : Schedule κ ν :=
  { schedule with agent := schedule.agent.setClient id client }

theorem Installs.setClient (installs : schedule.Installs id client) (other : Client κ) :
    (schedule.setClient id other).Installs id other where
  current := installs.current
  held := Agent.client?_setClient installs.held _

/-- Whoever reads a client finds it as it is. -/
theorem run_access_get {caller : Option MonitorId} {run : {α : Type} → Script κ ν α → Act κ ν α}
    (held : schedule.agent.client? id = some client) :
    ((Agent.access host caller run id).get.run (move host depth count)).run schedule =
      some (client, schedule) := by
  have read : ((get : Act κ ν (Agent κ ν)).run (move host depth count)).run schedule =
      some (schedule.agent, schedule) := rfl
  unfold Agent.access
  dsimp only
  rw [Program.run_bind, StateT.run_bind, read, Option.bind_eq_bind, Option.bind_some, held]
  rfl

theorem run_call_write (held : schedule.agent.client? id = some client) (change : Write) :
    schedule.run host (depth + 1) count (Script.ask (.call id (.write change))) =
      some ((), schedule.setClient id (client.write change)) := by
  unfold run Agent.runScript
  rw [Script.run_ask]
  unfold Agent.perform Client.Access.answer Client.Access.modify
  rw [Program.run_bind, StateT.run_bind, run_access_get held]
  rfl

theorem run_call_inspect (held : schedule.agent.client? id = some client) :
    schedule.run host (depth + 1) count (Script.ask (.call id .inspect)) = some (client, schedule) := by
  unfold run Agent.runScript
  rw [Script.run_ask]
  exact run_access_get held

/-! ### Making a client -/

/-- Where no client is installed, `init` installs one, if there is room for its breadcrumbs. -/
theorem run_init (absent : schedule.agent.current = none) {surroundings : Surroundings}
    (room : surroundings.HasRoom) (runtimeContext : UInt64) :
    schedule.run host (depth + 1) count (NativeCall.init surroundings runtimeContext).script =
      some ((), { schedule with agent := schedule.agent.install (.initial surroundings runtimeContext) }) := by
  have asked : schedule.run host (depth + 1) count (Script.ask .current) = some (none, schedule) :=
    congrArg (fun current => some (current, schedule)) absent
  show schedule.run host (depth + 1) count (NativeCall.initScript surroundings runtimeContext) = _
  unfold NativeCall.initScript
  rw [run_bind_of_eq asked]
  dsimp only
  rw [Client.build_settings room]
  rfl

/-- Where there is no room for the breadcrumbs of a client, `init` leaves everything as it is. -/
theorem run_init_of_not_hasRoom (absent : schedule.agent.current = none) {surroundings : Surroundings}
    (full : ¬ surroundings.HasRoom) (runtimeContext : UInt64) :
    schedule.run host (depth + 1) count (NativeCall.init surroundings runtimeContext).script =
      some ((), schedule) := by
  have asked : schedule.run host (depth + 1) count (Script.ask .current) = some (none, schedule) :=
    congrArg (fun current => some (current, schedule)) absent
  show schedule.run host (depth + 1) count (NativeCall.initScript surroundings runtimeContext) = _
  unfold NativeCall.initScript
  rw [run_bind_of_eq asked]
  dsimp only
  rw [Client.build_settings_of_not_hasRoom full]
  rfl

end Schedule

end CrashReporter
