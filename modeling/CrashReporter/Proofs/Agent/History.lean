/-
**The history of a client's breadcrumbs.**

The journal of an agent tells which breadcrumbs were added to the trail of a client (`Agent.historyOf`). As
long as nobody clears it, the trail holds the latest of them, as many as fit: from one agent to a later
one, whatever the history gained, the trail has gained (`Agent.Continues`). Everything that may be asked for
leads on in this way, except to clear the trail (`tolerates_continues`).
-/

import CrashReporter.Proofs.Agent.Conduct
import CrashReporter.Proofs.Agent.Report
import CrashReporter.Proofs.Template.Snapshot
import CrashReporter.Proofs.Trail.Contents

namespace CrashReporter

variable {κ ν : Type}

/-- The breadcrumb that was added to the trail of a client, if one was. -/
def Happening.added? (id : ClientId) : Happening κ → Option Breadcrumb
  | .added client breadcrumb => if client = id then some breadcrumb else none
  | _ => none

theorem Happening.added?_added (id client : ClientId) (breadcrumb : Breadcrumb) :
    (added client breadcrumb : Happening κ).added? id = if client = id then some breadcrumb else none :=
  rfl

theorem Happening.added?_of_isCall {happening : Happening κ} (call : happening.IsCall) (id : ClientId) :
    happening.added? id = none := by
  cases happening with
  | added client breadcrumb => exact call.elim
  | _ => rfl

namespace Agent

/-- The breadcrumbs that were added to the trail of a client, oldest first. -/
def historyOf (agent : Agent κ ν) (id : ClientId) : List Breadcrumb :=
  agent.journal.reverse.filterMap (Happening.added? id)

/-- What the history of a client has gained since an earlier agent. -/
def gained (id : ClientId) (agent later : Agent κ ν) : List Breadcrumb :=
  (later.historyOf id).drop (agent.historyOf id).length

section History

variable {id other : ClientId} {agent middle later : Agent κ ν} {client : Client κ}

theorem historyOf_note (agent : Agent κ ν) (happening : Happening κ) :
    (agent.note happening).historyOf id = agent.historyOf id ++ (happening.added? id).toList := by
  unfold historyOf note
  rw [List.reverse_cons, List.filterMap_append]
  cases added : happening.added? id with
  | none =>
    rw [List.filterMap_cons_none added]
    rfl
  | some breadcrumb =>
    rw [List.filterMap_cons_some added]
    rfl

theorem historyOf_note_call {happening : Happening κ} (call : happening.IsCall) (agent : Agent κ ν) :
    (agent.note happening).historyOf id = agent.historyOf id := by
  rw [historyOf_note, Happening.added?_of_isCall call]
  exact List.append_nil _

theorem historyOf_congr (journal : later.journal = agent.journal) :
    later.historyOf id = agent.historyOf id := by
  unfold historyOf
  rw [journal]

/-- A breadcrumb that is added to a trail is the latest of its history. -/
theorem historyOf_addBreadcrumb (held : agent.client? id = some client) (breadcrumb : Breadcrumb) :
    (agent.addBreadcrumb id breadcrumb).historyOf id = agent.historyOf id ++ [breadcrumb] := by
  unfold addBreadcrumb
  rw [held]
  dsimp only
  rw [historyOf_note, Happening.added?_added, if_pos rfl]
  rfl

theorem historyOf_addBreadcrumb_ne (apart : other ≠ id) (agent : Agent κ ν) (breadcrumb : Breadcrumb) :
    (agent.addBreadcrumb other breadcrumb).historyOf id = agent.historyOf id := by
  unfold addBreadcrumb
  cases agent.client? other with
  | none => rfl
  | some client =>
    dsimp only
    rw [historyOf_note, Happening.added?_added, if_neg apart]
    exact List.append_nil _

theorem gained_of_eq (same : later.historyOf id = agent.historyOf id) : gained id agent later = [] := by
  unfold gained
  rw [same, List.drop_length]

theorem gained_of_append {added : List Breadcrumb}
    (grown : later.historyOf id = agent.historyOf id ++ added) : gained id agent later = added := by
  unfold gained
  rw [grown, List.drop_left]

theorem historyOf_eq_append (grown : agent.historyOf id <+: later.historyOf id) :
    later.historyOf id = agent.historyOf id ++ gained id agent later :=
  (List.prefix_iff_eq_append.mp grown).symm

theorem gained_trans (first : agent.historyOf id <+: middle.historyOf id)
    (second : middle.historyOf id <+: later.historyOf id) :
    gained id agent later = gained id agent middle ++ gained id middle later := by
  refine gained_of_append ?_
  rw [historyOf_eq_append second, historyOf_eq_append first, List.append_assoc]

end History

/-! ### Trails that keep up with their history -/

/-- From an agent to a later one, whatever the history of a client gained, its trail has gained. -/
structure Continues (id : ClientId) (agent later : Agent κ ν) : Prop where
  history : agent.historyOf id <+: later.historyOf id
  trail : ∀ client, agent.client? id = some client → ∃ present, later.client? id = some present ∧
    present.template.trail.capacity = client.template.trail.capacity ∧
    ∀ breadcrumbs, client.template.trail.Holds breadcrumbs →
      present.template.trail.Holds (breadcrumbs ++ gained id agent later)

namespace Continues

variable {id other : ClientId} {agent middle later : Agent κ ν}

/-- The history gained nothing, and the trail stayed as it was. -/
theorem of_eq (history : later.historyOf id = agent.historyOf id)
    (trail : ∀ client, agent.client? id = some client → ∃ present, later.client? id = some present ∧
      present.template.trail.capacity = client.template.trail.capacity ∧
      present.template.trail.entries = client.template.trail.entries) : Continues id agent later := by
  refine ⟨history ▸ List.prefix_refl _, fun client held => ?_⟩
  obtain ⟨present, found, capacity, entries⟩ := trail client held
  refine ⟨present, found, capacity, fun breadcrumbs holds => ?_⟩
  rw [gained_of_eq history, List.append_nil]
  unfold Trail.Holds at holds ⊢
  rw [entries, capacity]
  exact holds

theorem trans (first : Continues id agent middle) (second : Continues id middle later) :
    Continues id agent later := by
  refine ⟨first.history.trans second.history, fun client held => ?_⟩
  obtain ⟨present, found, capacity, gains⟩ := first.trail client held
  obtain ⟨last, ends, still, rest⟩ := second.trail present found
  refine ⟨last, ends, still.trans capacity, fun breadcrumbs holds => ?_⟩
  rw [gained_trans first.history second.history, ← List.append_assoc]
  exact rest _ (gains breadcrumbs holds)

instance (id : ClientId) : IsPreorder (Agent κ ν) (Continues id) where
  refl _ := of_eq rfl fun client held => ⟨client, held, rfl, rfl⟩
  trans _ _ _ := trans

end Continues

end Agent

/-! ### Requests that clear no trail -/

/-- A request that does not clear the trail of a client. -/
def Request.Retains (id : ClientId) : Request κ ν → Prop
  | .call other .clearTrail => other ≠ id
  | _ => True

theorem Client.template_stopMonitor (client : Client κ) :
    client.stopMonitor.2.template = client.template := by
  unfold stopMonitor
  split <;> rfl

/-- Of all changes of a client, only clearing the trail takes breadcrumbs away. -/
theorem ClientCall.Makes.trail {call : ClientCall κ} {change : Client κ → Client κ}
    (made : call.Makes change) (kept : call ≠ .clearTrail) (client : Client κ) :
    (change client).template.trail.capacity = client.template.trail.capacity ∧
      (change client).template.trail.entries = client.template.trail.entries := by
  cases made with
  | clearTrail => exact absurd rfl kept
  | write change =>
    have same : (client.write change).template.trail = client.template.trail :=
      Template.trail_write client.template change
    dsimp only
    rw [same]
    exact ⟨rfl, rfl⟩
  | enableHangs buffer sight =>
    dsimp only
    unfold Client.enableHangs
    split <;> exact ⟨rfl, rfl⟩
  | disableHangs =>
    have same : client.disableHangs.2.template = client.template := client.template_stopMonitor
    rw [same]
    exact ⟨rfl, rfl⟩
  | close =>
    have same : client.close.2.template = client.template := by
      unfold Client.close
      split
      · rfl
      · exact client.template_stopMonitor
    rw [same]
    exact ⟨rfl, rfl⟩
  | _ => exact ⟨rfl, rfl⟩

namespace Agent

variable {id other : ClientId} {agent : Agent κ ν} {client : Client κ}

/-- A client may be replaced by one with the same breadcrumbs. -/
theorem continues_setClient {present : Client κ} (held : agent.client? other = some client)
    (capacity : present.template.trail.capacity = client.template.trail.capacity)
    (entries : present.template.trail.entries = client.template.trail.entries) :
    Continues id agent (agent.setClient other present) := by
  refine .of_eq rfl fun before found => ?_
  by_cases same : other = id
  · subst same
    obtain rfl := Option.some_inj.mp (held.symm.trans found)
    exact ⟨present, client?_setClient held present, capacity, entries⟩
  · exact ⟨before, (client?_setClient_ne same agent present).trans found, rfl, rfl⟩

theorem continues_addBreadcrumb (agent : Agent κ ν) (breadcrumb : Breadcrumb) :
    Continues id agent (agent.addBreadcrumb other breadcrumb) := by
  by_cases same : other = id
  · subst same
    cases held : agent.client? other with
    | none =>
      unfold addBreadcrumb
      rw [held]
      exact refl_of (Continues other) agent
    | some client =>
      have grown := historyOf_addBreadcrumb held breadcrumb
      refine ⟨grown ▸ List.prefix_append _ _, fun before found => ?_⟩
      obtain rfl := Option.some_inj.mp (held.symm.trans found)
      refine ⟨_, (addBreadcrumb_held held breadcrumb).1, rfl, fun breadcrumbs holds => ?_⟩
      rw [gained_of_append grown]
      exact Trail.append_holds holds _ breadcrumb
  · refine .of_eq (historyOf_addBreadcrumb_ne same agent breadcrumb) fun client held => ?_
    exact ⟨client, (Untouched.addBreadcrumb same agent breadcrumb).client client held, rfl, rfl⟩

/-- **Everything but clearing the trail keeps the trail up with its history.** -/
theorem tolerates_continues (id : ClientId) :
    Tolerates (Continues (κ := κ) (ν := ν) id) (Request.Retains id) where
  bears other call retained :=
    { tick := fun agent => .of_eq rfl fun client held => ⟨client, held, rfl, rfl⟩
      change := fun {agent client change} held made => by
        by_cases kept : call = .clearTrail
        · subst kept
          exact .of_eq rfl fun before found =>
            ⟨before, (client?_setClient_ne retained agent _).trans found, rfl, rfl⟩
        · obtain ⟨capacity, entries⟩ := made.trail kept client
          exact continues_setClient held capacity entries
      breadcrumb := continues_addBreadcrumb
      note := fun agent happening called _ =>
        .of_eq (historyOf_note_call called agent) fun client held => ⟨client, held, rfl, rfl⟩ }
  hang _ := trivial
  install agent client _ := .of_eq rfl fun before found =>
    ⟨before, (Untouched.install agent client).client before found, rfl, rfl⟩
  monitor agent other change := by
    unfold modifyMonitor
    cases held : agent.client? other.client with
    | none => exact refl_of (Continues id) agent
    | some client => exact continues_setClient held rfl rfl
  besides clients journal := .of_eq (historyOf_congr journal) fun client held =>
    ⟨client, (client?_congr clients id).trans held, rfl, rfl⟩

end Agent

end CrashReporter
