/-
**Where native code leads.**

A native caller installs a client only where there is none, and closes the one that it takes out at once. So
whether native code leads an agent on in a given way (`Act.Leads`) is decided by few things more than for
calls on clients (`Agent.NativeBears`), and then so do all native callbacks, however deep calls are nested,
and the hooks of monitors: `ownScript_leads`, `hook_leads`.
-/

import CrashReporter.Proofs.Agent.Conduct
import CrashReporter.Proofs.Native.Calls
import CrashReporter.Proofs.Native.Code

namespace CrashReporter.Agent

open Act

variable {κ ν α β : Type}

/-- What native code and its callbacks do to the agent itself leads on. -/
structure NativeBears (leads : Agent κ ν → Agent κ ν → Prop) : Prop where
  bears : ∀ id call, Bears leads id call
  launch : ∀ (agent : Agent κ ν) surroundings runtimeContext, agent.current = none →
    leads agent (agent.install (.initial surroundings runtimeContext))
  close : ∀ {agent : Agent κ ν} {id client}, agent.current = some id → agent.client? id = some client →
    leads agent (agent.uninstall.2.setClient id client.close.2)
  /-- What else there is does not matter. -/
  besides : ∀ {agent final : Agent κ ν}, final.clients = agent.clients → final.current = agent.current →
    final.time = agent.time → leads agent final

variable {leads : Agent κ ν → Agent κ ν → Prop} [IsPreorder (Agent κ ν) leads]

omit [IsPreorder (Agent κ ν) leads] in
theorem leadsFrom_gets {read : Agent κ ν → α} {next : α → Act κ ν β} {origin agent : Agent κ ν}
    (further : LeadsFrom leads (next (read agent)) origin agent) :
    LeadsFrom leads (gets read >>= next) origin agent := further

omit [IsPreorder (Agent κ ν) leads] in
theorem leadsFrom_modifyGet {change : Agent κ ν → α × Agent κ ν} {next : α → Act κ ν β}
    {origin agent : Agent κ ν} (further : LeadsFrom leads (next (change agent).1) origin (change agent).2) :
    LeadsFrom leads (modifyGet change >>= next) origin agent := further

/-! ### Native calls -/

section Calls

variable {host : Host κ ν} {caller : Option MonitorId} {depth : Nat} (bears : NativeBears leads)
  (calls : ∀ id (task : ClientCall κ), Leads leads (perform host caller (depth + 1) (.call id task)))

include calls in
theorem onCurrent_leads (task : ClientCall κ) :
    Leads leads ((Script.onCurrent task).run (perform host caller (depth + 1))) := by
  refine leads_composes.bind (gets_leads _) fun current => ?_
  cases current with
  | none => exact leads_composes.pure _
  | some id => exact leads_composes.bind (calls id task) fun _ => leads_composes.pure _

include calls in
theorem tell_leads (task : ClientCall κ) :
    Leads leads ((Script.tell task).run (perform host caller (depth + 1))) := by
  unfold Script.tell
  rw [Program.run_bind]
  exact leads_composes.bind (onCurrent_leads calls task) fun _ => leads_composes.pure _

include bears in
theorem init_leads (surroundings : Surroundings) (runtimeContext : UInt64) :
    Leads leads ((NativeCall.initScript surroundings runtimeContext).run
      (perform host caller (depth + 1))) := by
  intro agent
  unfold NativeCall.initScript
  rw [Script.run_ask_bind]
  refine leadsFrom_gets ?_
  cases installed : agent.current with
  | some id => exact refl_of leads agent
  | none =>
    dsimp only
    by_cases room : surroundings.HasRoom
    · rw [Client.build_settings room]
      exact bears.launch agent surroundings runtimeContext installed
    · rw [Client.build_settings_of_not_hasRoom room]
      exact refl_of leads agent

include bears in
/-- The client that is taken out is closed before anybody else acts. -/
theorem close_leads : Leads leads (NativeCall.closeScript.run (perform host caller (depth + 1))) := by
  intro agent
  unfold NativeCall.closeScript
  rw [Script.run_ask_bind]
  refine leadsFrom_modifyGet ?_
  rw [show agent.uninstall.1 = agent.current from rfl]
  cases installed : agent.current with
  | none => exact bears.besides rfl installed.symm rfl
  | some id =>
    dsimp only
    rw [Script.run_ask]
    refine LeadsFrom.bind ?_ fun _ => leads_composes.pure ()
    refine LeadsFrom.bind (access_get_leadsFrom fun client held => bears.close installed held) fun target => ?_
    cases target with
    | none => exact leads_composes.pure false
    | some monitor =>
      refine leads_composes.bind ?_ fun _ => leads_composes.pure true
      show Leads leads (if _ then _ else _)
      split
      · exact leads_composes.pure ()
      · exact leads_composes.bind (wait_leads _ _) fun _ => leads_composes.pure ()

include bears calls

theorem newEvent_leads :
    Leads leads (NativeCall.newEventScript.run (perform host caller (depth + 1))) := by
  have addEvent (event : EventRecord) :
      Leads leads ((Script.ask (.addEvent event)).run (perform host caller (depth + 1))) := by
    rw [Script.run_ask]
    exact modifyGet_leads fun _ => bears.besides rfl rfl rfl
  unfold NativeCall.newEventScript
  rw [Program.run_bind]
  refine leads_composes.bind (onCurrent_leads calls _) fun client => ?_
  rw [Script.run_ask_bind]
  refine leads_composes.bind (modifyGet_leads fun _ => bears.besides rfl rfl rfl) fun now => ?_
  cases client <;> exact addEvent _

theorem nativeCall_leads (events : Nat) (task : NativeCall κ) :
    Leads leads ((task.scriptAfter events).run (perform host caller (depth + 1))) := by
  have event (handle : Handle) :
      Leads leads ((Script.event (some handle)).run (perform host caller (depth + 1))) := by
    dsimp only [Script.event]
    rw [Script.run_ask]
    exact gets_leads _
  have setEvent (handle : Handle) (event : Option EventRecord) :
      Leads leads ((Script.ask (.setEvent handle event)).run (perform host caller (depth + 1))) := by
    rw [Script.run_ask]
    exact modify_leads fun _ => bears.besides rfl rfl rfl
  refine task.scriptAfter_cases
    (motive := fun script => Leads leads ((script events).run (perform host caller (depth + 1))))
    (fun _ => leads_composes.pure _) (init_leads bears) (close_leads bears)
    (fun told _ => tell_leads calls told) (fun callback => ?addOnError) ?newEvent
    (fun handle => setEvent _ _) (fun handle what => ?readEvent) (fun handle change => ?writeEvent)
  case addOnError =>
    rw [Program.run_bind]
    exact leads_composes.bind (onCurrent_leads calls _) fun _ => leads_composes.pure _
  case newEvent =>
    rw [Program.run_bind]
    exact leads_composes.bind (newEvent_leads bears calls) fun _ => leads_composes.pure _
  case readEvent =>
    rw [Program.run_bind]
    exact leads_composes.bind (event _) fun _ => leads_composes.pure _
  case writeEvent =>
    rw [Program.run_bind]
    refine leads_composes.bind (event _) fun address => ?_
    cases address with
    | none => exact leads_composes.pure _
    | some event => exact setEvent _ _

theorem move_leads (events : Nat) (move : NativeMove κ ν) (given : EventAddress) :
    Leads leads ((move.scriptAfter events given).run (perform host caller (depth + 1))) := by
  cases move with
  | call task =>
    dsimp only [NativeMove.scriptAfter]
    rw [Program.run_bind]
    exact leads_composes.bind (nativeCall_leads bears calls events task) fun _ => leads_composes.pure _
  | readGiven what => exact leads_composes.pure _
  | writeGiven change => exact leads_composes.pure _
  | «recall» => exact leads_composes.bind (gets_leads _) fun _ => leads_composes.pure _
  | remember notes =>
    exact leads_composes.bind (modify_leads fun _ => bears.besides rfl rfl rfl) fun _ =>
      leads_composes.pure _
  | store address value =>
    exact leads_composes.bind (modify_leads fun _ => bears.besides rfl rfl rfl) fun _ =>
      leads_composes.pure _
  | wait span ready => exact leads_composes.bind (wait_leads _ _) fun _ => leads_composes.pure _

end Calls

/-! ### Native code -/

section Code

variable {host : Host κ ν} {native : NativeHost κ ν} {events : Nat}

/-- Native code leads on if its moves do. -/
theorem code_leads {answer : (request : Request κ ν) → Act κ ν request.Answer}
    (moves : ∀ (move : NativeMove κ ν) given, Leads leads ((move.scriptAfter events given).run answer))
    (code : NativeCode κ ν α) (given : EventAddress) :
    Leads leads ((NativeCode.scriptAfter events code given).run answer) := by
  induction code generalizing given with
  | done result => exact leads_composes.pure _
  | ask move next ih =>
    dsimp only [NativeCode.scriptAfter]
    rw [Program.run_bind]
    exact leads_composes.bind (moves move given) fun (result, given) => ih result given

/-- What surrounds a call leads on if native code does that is run meanwhile. -/
theorem access_bears (bears : NativeBears leads)
    {answer : (request : Request κ ν) → Act κ ν request.Answer}
    (codes : ∀ {α : Type} (code : NativeCode κ ν α) given,
      Leads leads ((NativeCode.scriptAfter events code given).run answer)) (caller : Option MonitorId)
    (id : ClientId) (task : ClientCall κ) :
    (access (native.host events) caller (fun script => script.run answer) id).Offers (Leads leads) task := by
  refine access_offers leads_admits (bears.bears id task) (fun callback event => ?_)
    (fun _ _ => leads_composes.pure _) (fun _ _ => leads_composes.pure _) fun callback event => ?_
  · dsimp only [NativeHost.host]
    rw [Program.run_bind]
    exact leads_composes.bind (codes _ _) fun _ => leads_composes.pure _
  · dsimp only [NativeHost.host]
    rw [Program.run_bind]
    exact leads_composes.bind (codes _ _) fun _ => leads_composes.pure _

/-- Where calls may not be nested any deeper, nothing is done at all. -/
theorem run_zero_leads (caller : Option MonitorId) (script : Script κ ν α) :
    Leads leads (script.run (perform host caller 0)) := by
  cases script with
  | done result => exact leads_composes.pure _
  | ask request next => exact fun _ => trivial

/-- **Native code leads on**, and so does everything that it starts, however deep calls are nested. -/
theorem scriptAfter_leads (bears : NativeBears leads) (native : NativeHost κ ν) (events : Nat)
    (caller : Option MonitorId) (depth : Nat) (code : NativeCode κ ν α) (given : EventAddress) :
    Leads leads ((NativeCode.scriptAfter events code given).run
      (perform (native.host events) caller depth)) := by
  -- Callbacks are run one level below.
  induction depth generalizing α code given with
  | zero => exact run_zero_leads caller _
  | succ depth ih =>
    refine code_leads (move_leads bears (fun id task => ?_) events) code given
    exact Client.Access.answer_of_offers leads_composes task
      (access_bears bears ih caller id task)

/-- **Native code of the owner leads on.** -/
theorem ownScript_leads (bears : NativeBears leads) (native : NativeHost κ ν) (events depth : Nat)
    (code : NativeCode κ ν α) :
    Leads leads (runScript (native.host events) none depth (NativeCode.ownScript events code)) := by
  unfold runScript NativeCode.ownScript
  rw [Program.run_bind]
  exact leads_composes.bind (scriptAfter_leads bears native events none depth code none) fun _ =>
    leads_composes.pure _

/-- **The report of a hook leads on**, with the native code that it starts. -/
theorem reportHang_leads (bears : NativeBears leads) (native : NativeHost κ ν) (events depth : Nat)
    (id : MonitorId) :
    Leads leads (access (native.host events) (some id) (runScript (native.host events) (some id) depth)
      id.client).reportHang :=
  Client.Access.answer_of_offers leads_composes .reportHang
    (access_bears bears (scriptAfter_leads bears native events (some id) depth) (some id) id.client .reportHang)

/-- **Hooks lead on**, if monitors do that come to rest. -/
theorem hook_leads (bears : NativeBears leads)
    (rest : ∀ (agent : Agent κ ν) id ended,
      leads agent (agent.modifyMonitor id fun monitor sight => monitor.rest sight ended))
    (native : NativeHost κ ν) (events depth : Nat) (id : MonitorId) :
    Leads leads (hook (native.host events) depth id) :=
  leads_composes.bind (reportHang_leads bears native events depth id) fun _ =>
    modify_leads fun agent => rest agent id _

end Code

end CrashReporter.Agent
