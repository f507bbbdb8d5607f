/-
**Where calls and hooks lead.**

Whether a call leads the agent on in a given way is decided by the few things that it does to the agent
itself: it changes its client, adds breadcrumbs, reads the clock, and notes whom it calls
(`Agent.Bears`). Everything else is done by the callbacks. So if all that a host asks for leads on, so does
every request (`perform_leads`), however deep calls are nested, and so do the hooks of the monitors
(`keeps_of_tolerates`).
-/

import CrashReporter.Proofs.Agent.Company
import CrashReporter.Proofs.Agent.Deeds

namespace CrashReporter

variable {κ ν α : Type}

namespace Agent

/-- A request that is allowed leads on, as far as it does something to the agent itself, and so does what
monitors do. -/
structure Tolerates (leads : Agent κ ν → Agent κ ν → Prop) (allowed : Request κ ν → Prop) : Prop where
  bears : ∀ id call, allowed (.call id call) → Bears leads id call
  hang : ∀ id, allowed (.call id .reportHang)
  install : ∀ agent client, allowed (.install client) → leads agent (agent.install client)
  monitor : ∀ agent id change, leads agent (agent.modifyMonitor id change)
  /-- What surrounds the clients does not matter. -/
  besides : ∀ {agent final}, final.clients = agent.clients → final.journal = agent.journal →
    leads agent final

section Access

variable {leads : Agent κ ν → Agent κ ν → Prop} {host : Host κ ν} {caller : Option MonitorId}
  {run : {α : Type} → Script κ ν α → Act κ ν α} {id : ClientId}

/-- Reading the client gives the one that the agent has. -/
theorem access_get_leadsFrom {next : Client κ → Act κ ν α} {origin agent : Agent κ ν}
    (further : ∀ client, agent.client? id = some client →
      Act.LeadsFrom leads (next client) origin agent) :
    Act.LeadsFrom leads ((access host caller run id).get >>= next) origin agent := by
  rw [access_get]
  show Act.LeadsFrom leads ((agent.client? id).elim Act.fail pure >>= next) origin agent
  cases held : agent.client? id with
  | none => trivial
  | some client => exact further client held

/-- Whether an act leads on is decided by the changes that it makes. -/
theorem leads_admits [IsPreorder (Agent κ ν) leads] : Act.Admits (Act.Leads leads) leads where
  composes := Act.leads_composes
  gets := Act.gets_leads
  modify := Act.modify_leads
  modifyGet := Act.modifyGet_leads
  withClient _ change _ := access_get_leadsFrom fun _ held => change held
  wait := Act.wait_leads
  fail := Act.fail_leads

end Access

section Perform

variable {leads : Agent κ ν → Agent κ ν → Prop} [IsPreorder (Agent κ ν) leads]
  {allowed : Request κ ν → Prop} {host : Host κ ν}

/-- **A request that is allowed leads on**, however deep calls are nested. -/
theorem perform_leads (tolerates : Tolerates leads allowed) (asks : host.Asks allowed)
    (caller : Option MonitorId) (depth : Nat) :
    ∀ request : Request κ ν, allowed request → Act.Leads leads (perform host caller depth request) :=
  perform_of_admits leads_admits tolerates.bears (fun _ _ _ => asks) tolerates.install tolerates.besides caller
    depth

theorem runScript_leads (tolerates : Tolerates leads allowed) (asks : host.Asks allowed)
    (caller : Option MonitorId) (depth : Nat) {script : Script κ ν α} (permitted : script.Asks allowed) :
    Act.Leads leads (runScript host caller depth script) :=
  run_of_asks Act.leads_composes (perform_leads tolerates asks caller depth) permitted

/-- **Time, monitors and their hooks lead on**, if everything does that the host asks for. -/
theorem keeps_of_tolerates (tolerates : Tolerates leads allowed) (asks : host.Asks allowed) (depth : Nat) :
    host.Keeps depth leads where
  time _ _ := tolerates.besides rfl rfl
  wake agent id := tolerates.monitor agent id _
  hook id := by
    refine Act.leads_composes.bind (Client.Access.answer_of_offers Act.leads_composes .reportHang
      (access_offers leads_admits (tolerates.bears id.client .reportHang (tolerates.hang id.client))
        (fun callback event => runScript_leads tolerates asks _ depth (asks.onError callback event))
        (fun callback breadcrumb =>
          runScript_leads tolerates asks _ depth (asks.onBreadcrumb callback breadcrumb))
        (fun callback event => runScript_leads tolerates asks _ depth (asks.deliver callback event))
        (fun callback event =>
          runScript_leads tolerates asks _ depth (asks.deliverNative callback event)))) fun outcome => ?_
    exact Act.modify_leads fun agent => tolerates.monitor agent id _

end Perform

end Agent

end CrashReporter
