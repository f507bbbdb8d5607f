/-
**Acts in company.**

An act has the agent to itself between two of its waits. While it waits, others act, and nothing is said here
about who they are and what they want:

* `Act.Runs`: the runs of an act, in which others do to the agent what they do whenever it waits;
* `Act.Leads`: from the start of an act to its first wait, from one wait to the next, and from the last one
  to its end, it leads the agent on in a given way.

Acts that lead on are good company. If the hooks of all monitors are, then so is everything that a schedule
does while its owner waits (`pass_leads`), and a script of the owner has one of its runs
(`runs_of_run`).
-/

import CrashReporter.Agent.Schedule
import CrashReporter.Proofs.Client.Offers
import CrashReporter.Proofs.Program.Runs
import Mathlib.Order.Defs.Unbundled

namespace CrashReporter

variable {κ ν α β : Type}

namespace Act

/-! ### Runs -/

/-- An act runs from an agent to a result and another agent, while others do what they may whenever it
waits. -/
inductive Runs (others : Agent κ ν → Agent κ ν → Prop) :
    Act κ ν α → Agent κ ν → α → Agent κ ν → Prop
  | done (result : α) (agent : Agent κ ν) : Runs others (.done result) agent result agent
  | get {next : Agent κ ν → Act κ ν α} {agent final : Agent κ ν} {result : α}
      (continued : Runs others (next agent) agent result final) :
      Runs others (.ask .get next) agent result final
  | set {changed : Agent κ ν} {next : Unit → Act κ ν α} {agent final : Agent κ ν} {result : α}
      (continued : Runs others (next ()) changed result final) :
      Runs others (.ask (.set changed) next) agent result final
  | wait {span : Option Nat} {ready : Agent κ ν → Bool} {next : Bool → Act κ ν α}
      {agent later final : Agent κ ν} {answer : Bool} {result : α} (waited : others agent later)
      (continued : Runs others (next answer) later result final) :
      Runs others (.ask (.wait span ready) next) agent result final

namespace Runs

variable {others : Agent κ ν → Agent κ ν → Prop} {agent middle final : Agent κ ν}

/-- The run of two acts in sequence is a run of the first and then one of the second. -/
theorem of_bind {act : Act κ ν α} {next : α → Act κ ν β} {last : β}
    (run : Runs others (act >>= next) agent last final) :
    ∃ result middle, Runs others act agent result middle ∧
      Runs others (next result) middle last final := by
  induction act generalizing agent with
  | done result => exact ⟨result, agent, .done result agent, run⟩
  | ask move rest ih =>
    change Runs others (.ask move fun answer => rest answer >>= next) agent last final at run
    cases run with
    | get continued =>
      obtain ⟨result, middle, first, second⟩ := ih _ continued
      exact ⟨result, middle, .get first, second⟩
    | set continued =>
      obtain ⟨result, middle, first, second⟩ := ih _ continued
      exact ⟨result, middle, .set first, second⟩
    | wait waited continued =>
      obtain ⟨result, middle, first, second⟩ := ih _ continued
      exact ⟨result, middle, .wait waited first, second⟩

theorem of_pure {value result : α}
    (run : Runs others (pure value : Act κ ν α) agent result final) : value = result ∧ agent = final := by
  cases run
  exact ⟨rfl, rfl⟩

theorem of_gets {read : Agent κ ν → α} {result : α} (run : Runs others (gets read) agent result final) :
    result = read agent ∧ final = agent := by
  cases run with
  | get continued =>
    cases continued
    exact ⟨rfl, rfl⟩

theorem of_modify {change : Agent κ ν → Agent κ ν} {result : PUnit}
    (run : Runs others (modify change : Act κ ν PUnit) agent result final) : final = change agent := by
  cases run with
  | get continued =>
    cases continued with
    | set continued =>
      cases continued
      rfl

theorem of_modifyGet {change : Agent κ ν → α × Agent κ ν} {result : α}
    (run : Runs others (modifyGet change : Act κ ν α) agent result final) :
    result = (change agent).1 ∧ final = (change agent).2 := by
  cases run with
  | get continued =>
    cases continued with
    | set continued =>
      cases continued
      exact ⟨rfl, rfl⟩

end Runs

/-! ### Acts that lead on -/

/-- Up to its next wait, an act that was last let go by the agent `origin` leads on from there, and so it
does ever after. -/
def LeadsFrom (leads : Agent κ ν → Agent κ ν → Prop) : Act κ ν α → Agent κ ν → Agent κ ν → Prop
  | .done _, origin, agent => leads origin agent
  | .ask .get next, origin, agent => LeadsFrom leads (next agent) origin agent
  | .ask (.set changed) next, origin, _ => LeadsFrom leads (next ()) origin changed
  | .ask (.wait _ _) next, origin, agent =>
    leads origin agent ∧ ∀ answer later, LeadsFrom leads (next answer) later later
  | .ask .fail _, _, _ => True

/-- Whatever agent an act is let go by, it leads on from there. -/
def Leads (leads : Agent κ ν → Agent κ ν → Prop) ⦃α : Type⦄ (act : Act κ ν α) : Prop :=
  ∀ agent, LeadsFrom leads act agent agent

section Leads

variable {leads : Agent κ ν → Agent κ ν → Prop} [IsPreorder (Agent κ ν) leads]
  {origin agent final : Agent κ ν}

theorem LeadsFrom.trans {act : Act κ ν α} {earlier : Agent κ ν} (led : leads earlier origin)
    (from_ : LeadsFrom leads act origin agent) : LeadsFrom leads act earlier agent := by
  induction act generalizing agent with
  | done result => exact trans_of leads led from_
  | ask move next ih =>
    cases move with
    | get => exact ih _ from_
    | set changed => exact ih _ from_
    | wait span ready => exact ⟨trans_of leads led from_.1, from_.2⟩
    | fail => trivial

theorem LeadsFrom.bind {act : Act κ ν α} {next : α → Act κ ν β}
    (first : LeadsFrom leads act origin agent) (second : ∀ result, Leads leads (next result)) :
    LeadsFrom leads (act >>= next) origin agent := by
  induction act generalizing origin agent with
  | done result => exact (second result agent).trans first
  | ask move rest ih =>
    cases move with
    | get => exact ih _ first
    | set changed => exact ih _ first
    | wait span ready => exact ⟨first.1, fun answer later => ih answer (first.2 answer later)⟩
    | fail => trivial

/-- Acts that lead on do so one after the other. -/
theorem leads_composes : Composes (Leads leads) where
  pure _ agent := refl_of leads agent
  bind first second agent := (first agent).bind second

theorem gets_leads (read : Agent κ ν → α) : Leads leads (gets read) := refl_of leads

omit [IsPreorder (Agent κ ν) leads] in
theorem modify_leads {change : Agent κ ν → Agent κ ν} (led : ∀ agent, leads agent (change agent)) :
    Leads leads (modify change : Act κ ν PUnit) := led

omit [IsPreorder (Agent κ ν) leads] in
theorem modifyGet_leads {change : Agent κ ν → α × Agent κ ν}
    (led : ∀ agent, leads agent (change agent).2) : Leads leads (modifyGet change : Act κ ν α) := led

theorem wait_leads (span : Option Nat) (ready : Agent κ ν → Bool) :
    Leads leads (wait span ready) :=
  fun agent => ⟨refl_of leads agent, fun _ later => refl_of leads later⟩

omit [IsPreorder (Agent κ ν) leads] in
theorem fail_leads : Leads leads (fail : Act κ ν α) := fun _ => trivial

/-- Among others that lead on as it does, an act leads from its start to its end. -/
theorem Runs.leads_of_leadsFrom {act : Act κ ν α} {result : α} (run : Runs leads act agent result final)
    (from_ : LeadsFrom leads act origin agent) : leads origin final := by
  induction run generalizing origin with
  | done result agent => exact from_
  | get continued ih => exact ih from_
  | set continued ih => exact ih from_
  | wait waited continued ih => exact trans_of leads (trans_of leads from_.1 waited) (ih (from_.2 _ _))

/-- An act and what follows it go on until the act waits, or from its end on it is up to what follows. So far the act
leads on, and so does what is left of it then. -/
theorem goOn_bind_leads {act : Act κ ν α} {after : α → Act κ ν Unit} {pause : Option (Pause κ ν)}
    (from_ : LeadsFrom leads act origin agent) (went : goOn (act >>= after) agent = some (final, pause)) :
    (∃ result middle, leads origin middle ∧ goOn (after result) middle = some (final, pause)) ∨
      ∃ waiting, pause = some waiting ∧ leads origin final ∧
        ∀ answer, ∃ rest : Act κ ν α, Leads leads rest ∧ waiting.next answer = rest >>= after := by
  induction act generalizing origin agent with
  | done result => exact .inl ⟨result, agent, from_, went⟩
  | ask move next ih =>
    cases move with
    | get => exact ih _ from_ went
    | set changed => exact ih _ from_ went
    | fail => cases went
    | wait span ready =>
      change goOn (.ask (.wait span ready) fun answer => next answer >>= after) agent = _ at went
      unfold goOn at went
      by_cases now : ready agent
      · rw [if_pos now] at went
        exact ih true ((from_.2 true agent).trans from_.1) went
      · rw [if_neg now] at went
        by_cases brief : span = some 0
        · rw [if_pos brief] at went
          exact ih false ((from_.2 false agent).trans from_.1) went
        · rw [if_neg brief] at went
          cases went
          exact .inr ⟨_, rfl, from_.1, fun answer => ⟨next answer, from_.2 answer, rfl⟩⟩

/-- Up to a wait of its own choice, an act leads on, and so does what it does afterwards. -/
theorem goOn_leads {act : Act κ ν Unit} {pause : Option (Pause κ ν)} (from_ : LeadsFrom leads act origin agent)
    (went : goOn act agent = some (final, pause)) :
    leads origin final ∧ ∀ waiting ∈ pause, ∀ answer, Leads leads (waiting.next answer) := by
  rw [← bind_pure act] at went
  rcases goOn_bind_leads from_ went with ⟨_, middle, led, ended⟩ | ⟨waiting, rfl, led, further⟩
  · cases ended
    exact ⟨led, by simp⟩
  · refine ⟨led, ?_⟩
    rintro _ ⟨⟩ answer
    obtain ⟨rest, restLeads, same⟩ := further answer
    rw [same, bind_pure]
    exact restLeads

end Leads

end Act

/-! ### Schedules -/

/-- A way of leading on that time, the looks of monitors and their hooks respect. -/
structure Host.Keeps (host : Host κ ν) (depth : Nat) (leads : Agent κ ν → Agent κ ν → Prop) : Prop where
  time : ∀ (agent : Agent κ ν) time, leads agent { agent with time := time }
  wake : ∀ (agent : Agent κ ν) id, leads agent (agent.modifyMonitor id Hang.Monitor.wake)
  hook : ∀ id, Act.Leads leads (Agent.hook host depth id)

namespace Schedule

/-- Every hook that waits will lead on. -/
def Proper (leads : Agent κ ν → Agent κ ν → Prop) (schedule : Schedule κ ν) : Prop :=
  ∀ pause ∈ schedule.paused, ∀ answer, Act.Leads leads (pause.next answer)

variable {host : Host κ ν} {depth count : Nat} {leads : Agent κ ν → Agent κ ν → Prop}
  [IsPreorder (Agent κ ν) leads] {schedule final : Schedule κ ν}

theorem start_proper (leads : Agent κ ν → Agent κ ν → Prop) (agent : Agent κ ν) :
    (start agent).Proper leads := by
  intro pause member
  cases member

theorem act_leads {hook : Act κ ν Unit} (proper : schedule.Proper leads) (led : Act.Leads leads hook)
    (acted : schedule.act hook = some final) :
    leads schedule.agent final.agent ∧ final.Proper leads := by
  unfold act at acted
  cases went : Act.goOn hook schedule.agent with
  | none =>
    rw [went] at acted
    cases acted
  | some ended =>
    obtain ⟨agent, pause⟩ := ended
    obtain ⟨led, further⟩ := Act.goOn_leads (led _) went
    rw [went] at acted
    cases pause with
    | none =>
      cases acted
      exact ⟨led, proper⟩
    | some pause =>
      cases acted
      refine ⟨led, fun other member => ?_⟩
      rcases List.mem_append.mp member with member | member
      · exact proper other member
      · rw [List.mem_singleton] at member
        subst member
        exact further other rfl

/-- A turn leads on if the looks of monitors and their hooks do. -/
theorem take_leads
    (wake : ∀ (agent : Agent κ ν) id, leads agent (agent.modifyMonitor id Hang.Monitor.wake))
    (hook : ∀ id, Act.Leads leads (Agent.hook host depth id)) (proper : schedule.Proper leads) {turn : Turn}
    (taken : schedule.take host depth turn = some final) :
    leads schedule.agent final.agent ∧ final.Proper leads := by
  cases turn with
  | monitor id =>
    have woken := wake schedule.agent id
    unfold take at taken
    dsimp only at taken
    split at taken
    · have still : Proper leads ⟨schedule.agent.modifyMonitor id Hang.Monitor.wake, schedule.paused⟩ :=
        proper
      obtain ⟨led, ends⟩ := act_leads still (hook id) taken
      exact ⟨trans_of leads woken led, ends⟩
    · cases taken
      exact ⟨woken, proper⟩
  | hook index =>
    unfold take at taken
    dsimp only at taken
    cases paused : schedule.paused[index]? with
    | none =>
      rw [paused] at taken
      cases taken
      exact ⟨refl_of leads _, proper⟩
    | some pause =>
      rw [paused] at taken
      have others : Proper leads ⟨schedule.agent, schedule.paused.eraseIdx index⟩ :=
        fun other member => proper other (List.mem_of_mem_eraseIdx member)
      obtain ⟨led, ends⟩ := act_leads others (proper pause (List.mem_of_getElem? paused) _) taken
      exact ⟨led, ends⟩

/-- **While the owner waits, the agent is led on.** -/
theorem pass_leads (keeps : host.Keeps depth leads) {limit : Option Int} {ready : Agent κ ν → Bool}
    {answer : Bool} (proper : schedule.Proper leads)
    (passed : pass host depth limit ready count schedule = some (answer, final)) :
    leads schedule.agent final.agent ∧ final.Proper leads := by
  induction count generalizing schedule with
  | zero => cases passed
  | succ count ih =>
    have later (time : Int) : leads schedule.agent (schedule.passTo time).agent := keeps.time _ _
    unfold pass at passed
    by_cases now : ready schedule.agent
    · rw [if_pos now] at passed
      cases passed
      exact ⟨refl_of leads _, proper⟩
    · rw [if_neg now] at passed
      cases next : schedule.next? with
      | none =>
        rw [next] at passed
        cases limit with
        | none => cases passed
        | some limit =>
          cases passed
          exact ⟨later limit, proper⟩
      | some turn =>
        obtain ⟨time, turn⟩ := turn
        rw [next] at passed
        dsimp only at passed
        split at passed
        · cases passed
          exact ⟨later _, proper⟩
        · cases taken : (schedule.passTo time).take host depth turn with
          | none =>
            rw [taken] at passed
            cases passed
          | some after =>
            rw [taken] at passed
            have waiting : (schedule.passTo time).Proper leads := proper
            obtain ⟨led, still⟩ := take_leads keeps.wake keeps.hook waiting taken
            obtain ⟨on, ends⟩ := ih still passed
            exact ⟨trans_of leads (later time) (trans_of leads led on), ends⟩

/-- What an act of the owner gives is one of its runs, while others lead the agent on. -/
theorem runs_of_act (keeps : host.Keeps depth leads) {act : Act κ ν α} {result : α}
    (proper : schedule.Proper leads)
    (ran : (act.run (move host depth count)).run schedule = some (result, final)) :
    Act.Runs leads act schedule.agent result final.agent ∧ final.Proper leads := by
  induction act generalizing schedule with
  | done value =>
    cases ran
    exact ⟨.done _ _, proper⟩
  | ask asked next ih =>
    obtain ⟨⟨answer, middle⟩, moved, continued⟩ := Option.bind_eq_some_iff.mp ran
    cases asked with
    | get =>
      cases moved
      obtain ⟨runs, ends⟩ := ih _ proper continued
      exact ⟨.get runs, ends⟩
    | set changed =>
      cases moved
      have still : Proper leads ⟨changed, schedule.paused⟩ := proper
      obtain ⟨runs, ends⟩ := ih _ still continued
      exact ⟨.set runs, ends⟩
    | wait span ready =>
      obtain ⟨led, still⟩ := pass_leads keeps proper moved
      obtain ⟨runs, ends⟩ := ih _ still continued
      exact ⟨.wait led runs, ends⟩
    | fail => cases moved

/-- **A script of the owner has one of its runs**, while others lead the agent on. -/
theorem runs_of_run (keeps : host.Keeps depth leads) {script : Script κ ν α} {result : α}
    (proper : schedule.Proper leads)
    (ran : schedule.run host depth count script = some (result, final)) :
    Act.Runs leads (Agent.runScript host none depth script) schedule.agent result final.agent ∧
      final.Proper leads :=
  runs_of_act keeps proper ran

/-- A request of the owner has one of its runs. -/
theorem runs_of_request (keeps : host.Keeps depth leads) {request : Request κ ν}
    {answer : request.Answer} (proper : schedule.Proper leads)
    (ran : schedule.run host depth count (Program.request request) = some (answer, final)) :
    Act.Runs leads (Agent.perform host none depth request) schedule.agent answer final.agent ∧
      final.Proper leads := by
  have runs := runs_of_run keeps proper ran
  unfold Agent.runScript at runs
  rwa [Program.run_request] at runs

end Schedule

end CrashReporter
