/-
**What a script that leaves a client alone cannot change.**

A request leaves a client alone if it is no call on it and starts none by a callback (`Request.Spares`).
Whatever else is asked meanwhile, calls on other clients above all, the client stays as it is, and the
journal tells nothing new of it (`Agent.Untouched`):

* `Agent.Tells`: the client stays as it is, while the journal tells of it what was done;
* `Agent.perform_spares`: the answer to such a request, however deep calls are nested;
* `Agent.runScript_spares`: a script of such requests.
-/

import CrashReporter.Proofs.Agent.Deeds

namespace CrashReporter

variable {κ ν α β : Type}

/-! ### Acts while nobody else acts -/

namespace Act

@[simp] theorem alone_bind (act : Act κ ν α) (next : α → Act κ ν β) :
    (act >>= next).alone = act.alone >>= fun result => (next result).alone :=
  Program.run_bind moveAlone act next

/-- Acts in sequence are done one after the other. -/
theorem alone_bind_run {act : Act κ ν α} {next : α → Act κ ν β} {agent final : Agent κ ν} {last : β}
    (ran : (act >>= next).alone.run agent = some (last, final)) :
    ∃ result middle, act.alone.run agent = some (result, middle) ∧
      (next result).alone.run middle = some (last, final) := by
  rw [alone_bind] at ran
  obtain ⟨⟨result, middle⟩, first, second⟩ := Option.bind_eq_some_iff.mp ran
  exact ⟨result, middle, first, second⟩

end Act

/-! ### Clients that stay as they are -/

namespace Agent

/-- What the agent did to a client, the latest first. -/
def journalOf (agent : Agent κ ν) (id : ClientId) : List (Happening κ) :=
  agent.journal.filter (·.client = id)

/-- A client stayed as it was, while the journal came to tell this of it. -/
structure Tells (id : ClientId) (agent : Agent κ ν) (happenings : List (Happening κ))
    (final : Agent κ ν) : Prop where
  client : ∀ client, agent.client? id = some client → final.client? id = some client
  journal : final.journalOf id = happenings.reverse ++ agent.journalOf id

namespace Tells

variable {id : ClientId} {agent middle final : Agent κ ν} {happenings rest : List (Happening κ)}

theorem nil (id : ClientId) (agent : Agent κ ν) : Tells id agent [] agent :=
  ⟨fun _ held => held, rfl⟩

theorem append (first : Tells id agent happenings middle) (second : Tells id middle rest final) :
    Tells id agent (happenings ++ rest) final := by
  refine ⟨fun client held => second.client client (first.client client held), ?_⟩
  rw [second.journal, first.journal, List.reverse_append, List.append_assoc]

/-- What is noted of a client is told of it. -/
theorem note (happening : Happening κ) (about : happening.client = id) (agent : Agent κ ν) :
    Tells id agent [happening] (agent.note happening) := by
  refine ⟨fun client held => held, ?_⟩
  show (happening :: agent.journal).filter _ = _
  rw [List.filter_cons_of_pos (by simpa using about)]
  rfl

end Tells

/-- A client stayed as it was, and the journal tells nothing new of it. -/
abbrev Untouched (id : ClientId) (agent final : Agent κ ν) : Prop := Tells id agent [] final

theorem client?_congr {agent final : Agent κ ν} (clients : final.clients = agent.clients) (id : ClientId) :
    final.client? id = agent.client? id := by
  unfold client?
  rw [clients]

theorem client?_setClient {id : ClientId} {agent : Agent κ ν} {client : Client κ}
    (held : agent.client? id = some client) (present : Client κ) :
    (agent.setClient id present).client? id = some present :=
  List.getElem?_set_self (List.getElem?_eq_some_iff.mp held).1

theorem client?_setClient_ne {id other : ClientId} (apart : other ≠ id) (agent : Agent κ ν)
    (present : Client κ) : (agent.setClient other present).client? id = agent.client? id :=
  List.getElem?_set_ne fun same => apart (by cases other; cases id; congr)

/-- Whoever is found after a client was replaced is the new one, or was there. -/
theorem client?_setClient_cases {id other : ClientId} {agent : Agent κ ν} {client present found : Client κ}
    (held : agent.client? id = some client) (there : (agent.setClient id present).client? other = some found) :
    other = id ∧ found = present ∨ other ≠ id ∧ agent.client? other = some found := by
  by_cases same : other = id
  · subst same
    exact .inl ⟨rfl, Option.some_inj.mp (there.symm.trans (client?_setClient held present))⟩
  · exact .inr ⟨same, (client?_setClient_ne (Ne.symm same) agent present).symm.trans there⟩

namespace Untouched

variable {id other : ClientId} {agent final : Agent κ ν}

/-- Nothing but the clients and the journal matters. -/
theorem of_eq (clients : final.clients = agent.clients) (journal : final.journal = agent.journal) :
    Untouched id agent final := by
  refine ⟨fun client held => (client?_congr clients id).trans held, ?_⟩
  unfold journalOf
  rw [journal]
  rfl

theorem setClient (apart : other ≠ id) (agent : Agent κ ν) (client : Client κ) :
    Untouched id agent (agent.setClient other client) :=
  ⟨fun _ member => (client?_setClient_ne apart agent client).trans member, rfl⟩

theorem note {happening : Happening κ} (apart : happening.client ≠ id) (agent : Agent κ ν) :
    Untouched id agent (agent.note happening) := by
  refine ⟨fun client held => held, ?_⟩
  show (happening :: agent.journal).filter _ = agent.journal.filter _
  rw [List.filter_cons_of_neg (by simpa using apart)]

theorem addBreadcrumb (apart : other ≠ id) (agent : Agent κ ν) (breadcrumb : Breadcrumb) :
    Untouched id agent (agent.addBreadcrumb other breadcrumb) := by
  unfold Agent.addBreadcrumb
  cases agent.client? other with
  | none => exact Tells.nil id agent
  | some client =>
    have read : Untouched id agent agent.readClock.2 := of_eq rfl rfl
    exact (read.append (setClient apart _ _)).append (note (by exact apart) _)

theorem install (agent : Agent κ ν) (client : Client κ) : Untouched id agent (agent.install client) := by
  refine ⟨fun held member => ?_, rfl⟩
  show (agent.clients ++ [client])[id.index]? = some held
  have bound : id.index < agent.clients.length := (List.getElem?_eq_some_iff.mp member).1
  rw [List.getElem?_append_left bound]
  exact member

end Untouched

end Agent

/-! ### Acts that leave a client alone -/

/-- Whatever an act does while nobody else acts, a client stays as it was. -/
def Act.Spares (id : ClientId) ⦃α : Type⦄ (act : Act κ ν α) : Prop :=
  ∀ agent result final, act.alone.run agent = some (result, final) → agent.Untouched id final

namespace Act

variable {id : ClientId}

/-- Acts that leave a client alone do so one after the other. -/
theorem spares_composes (id : ClientId) : Composes (Spares (κ := κ) (ν := ν) id) where
  pure result agent answer final ran := by
    cases ran
    exact .nil id agent
  bind first next agent answer final ran := by
    obtain ⟨result, middle, begun, continued⟩ := alone_bind_run ran
    exact (first agent result middle begun).append (next result middle answer final continued)

theorem gets_spares (read : Agent κ ν → α) : Spares id (gets read) := by
  intro agent result final ran
  cases ran
  exact .nil id agent

theorem modify_spares {change : Agent κ ν → Agent κ ν}
    (untouched : ∀ agent : Agent κ ν, agent.Untouched id (change agent)) :
    Spares id (modify change : Act κ ν PUnit) := by
  intro agent result final ran
  cases ran
  exact untouched agent

theorem modifyGet_spares {change : Agent κ ν → α × Agent κ ν}
    (untouched : ∀ agent : Agent κ ν, agent.Untouched id (change agent).2) :
    Spares id (modifyGet change : Act κ ν α) := by
  intro agent result final ran
  cases ran
  exact untouched agent

@[simp] theorem alone_wait (span : Option Nat) (ready : Agent κ ν → Bool) :
    (wait span ready).alone = moveAlone (.wait span ready) :=
  Program.run_request moveAlone (Move.wait span ready)

theorem wait_spares (span : Option Nat) (ready : Agent κ ν → Bool) : Spares id (wait span ready) := by
  intro agent result final ran
  rw [alone_wait] at ran
  unfold moveAlone at ran
  by_cases now : ready agent
  · simp only [StateT.run, if_pos now] at ran
    cases ran
    exact .nil id agent
  · simp only [StateT.run, if_neg now] at ran
    obtain ⟨limit, _, passed⟩ := Option.map_eq_some_iff.mp ran
    cases passed
    exact .of_eq rfl rfl

theorem fail_spares : Spares id (fail : Act κ ν α) := by
  intro agent result final ran
  cases ran

end Act

/-! ### Requests that leave a client alone -/

/-- A request that is no call on a client. -/
def Request.Avoids (id : ClientId) : Request κ ν → Prop
  | .call other _ => other ≠ id
  | _ => True

/-- No callback and no delivery of a host ever calls a client. -/
structure Host.Avoids (host : Host κ ν) (id : ClientId) : Prop where
  onError : ∀ callback event, (host.onError callback event).Asks (Request.Avoids id)
  onBreadcrumb : ∀ callback breadcrumb,
    (host.onBreadcrumb callback breadcrumb).Asks (Request.Avoids id)
  deliver : ∀ callback event, (host.deliver callback event).Asks (Request.Avoids id)
  deliverNative : ∀ callback event, (host.deliverNative callback event).Asks (Request.Avoids id)

/-- A request that leaves a client alone: it is no call, or a call on another client in a host of which
nothing calls this one back. -/
def Request.Spares (host : Host κ ν) (id : ClientId) : Request κ ν → Prop
  | .call other _ => other ≠ id ∧ host.Avoids id
  | _ => True

namespace Agent

variable {id other : ClientId}

theorem spares_of_avoids {host : Host κ ν} (avoids : host.Avoids id) (request : Request κ ν)
    (apart : request.Avoids id) : request.Spares host id := by
  cases request with
  | call other task => exact ⟨apart, avoids⟩
  | _ => trivial

/-- A host of which nothing calls a client asks for nothing that touches it. -/
theorem asks_of_avoids {host : Host κ ν} (avoids : host.Avoids id) : host.Asks (Request.Spares host id) where
  onError callback event := (avoids.onError callback event).imp (spares_of_avoids avoids)
  onBreadcrumb callback breadcrumb := (avoids.onBreadcrumb callback breadcrumb).imp (spares_of_avoids avoids)
  deliver callback event := (avoids.deliver callback event).imp (spares_of_avoids avoids)
  deliverNative callback event := (avoids.deliverNative callback event).imp (spares_of_avoids avoids)

theorem alone_access_get (host : Host κ ν) (caller : Option MonitorId)
    (run : {α : Type} → Script κ ν α → Act κ ν α) (agent : Agent κ ν) :
    (access host caller run id).get.alone.run agent = (agent.client? id).map (·, agent) := by
  rw [access_get, Act.alone_bind]
  show ((agent.client? id).elim Act.fail pure : Act κ ν (Client κ)).alone.run agent = _
  cases agent.client? id <;> rfl

/-- Whether an act leaves a client alone is decided by the changes that it makes. -/
theorem spares_admits (id : ClientId) : Act.Admits (Act.Spares (κ := κ) (ν := ν) id) (Untouched id) where
  composes := Act.spares_composes id
  gets := Act.gets_spares
  modify := Act.modify_spares
  modifyGet := Act.modifyGet_spares
  withClient answer change agent result final ran := by
    obtain ⟨client, middle, read, continued⟩ := Act.alone_bind_run ran
    rw [alone_access_get] at read
    obtain ⟨_, held, same⟩ := Option.map_eq_some_iff.mp read
    cases same
    cases continued
    exact change held
  wait := Act.wait_spares
  fail := Act.fail_spares

/-- Calls on another client leave this one alone. -/
theorem bears_untouched (apart : other ≠ id) (call : ClientCall κ) :
    Bears (Untouched (κ := κ) (ν := ν) id) other call where
  tick _ := .of_eq rfl rfl
  change _ _ := .setClient apart _ _
  breadcrumb := .addBreadcrumb apart
  note agent _ _ about := .note (about ▸ apart) agent

/-- **A request that leaves a client alone is answered without touching it**, however deep calls are
nested. -/
theorem perform_spares (host : Host κ ν) (caller : Option MonitorId) (id : ClientId) (depth : Nat) :
    ∀ request : Request κ ν, request.Spares host id →
      Act.Spares id (perform host caller depth request) :=
  perform_of_admits (spares_admits id) (fun _ task spares => bears_untouched spares.1 task)
    (fun _ _ spares => asks_of_avoids spares.2) (fun agent client _ => .install agent client)
    (fun clients journal => .of_eq clients journal) caller depth

/-- **A script that leaves a client alone runs without touching it.** -/
theorem runScript_spares {host : Host κ ν} (caller : Option MonitorId) (depth : Nat)
    {script : Script κ ν α} (asks : script.Asks (Request.Spares host id)) :
    Act.Spares id (runScript host caller depth script) :=
  run_of_asks (Act.spares_composes id) (perform_spares host caller id depth) asks

end Agent

end CrashReporter
