/-
**Tokens of native callers.**

Whatever native code does, the on-error callbacks of every client come about by edits of its registry alone
(`Agent.Edits`), and a client begins with none. So a token counts the registrations at one client: `addOnError`
answers with the number of the registration that it makes, and `removeOnError` takes out the callback that
was registered at the installed client under the number that it is given (`token_counts_registrations`).

A token of a client that was closed counts registrations at the next one all the same
(`token_of_closed_client`).
-/

import CrashReporter.Proofs.Native.Lifecycle
import CrashReporter.Proofs.Registry.Identities

namespace CrashReporter

open Registry (Deed Linked Counts enrolled linked_nil linked_nil_iff linked_append_iff linked_cons_iff
  linked_singleton_iff)

variable {κ ν α : Type}

/-! ### Edits of the on-error callbacks -/

namespace Client

theorem onError_enableHangs (client : Client κ) (buffer : Hang.Buffer) (sight : Hang.Sight) :
    (client.enableHangs buffer sight).2.onError = client.onError := by
  unfold enableHangs
  dsimp only
  split <;> rfl

theorem onError_stopMonitor (client : Client κ) : client.stopMonitor.2.onError = client.onError := by
  unfold stopMonitor
  split <;> rfl

theorem onError_close (client : Client κ) : client.close.2.onError = client.onError := by
  unfold close
  split
  · rfl
  · exact client.onError_stopMonitor

end Client

/-- A call edits the on-error callbacks, or leaves them as they are. -/
theorem ClientCall.Makes.onError {call : ClientCall κ} {change : Client κ → Client κ} (made : call.Makes change)
    (client : Client κ) : ∃ deeds, Linked client.onError deeds (change client).onError := by
  cases made with
  | addOnError callback => exact ⟨[⟨client.onError, .add callback⟩], rfl⟩
  | removeOnError id => exact ⟨[⟨client.onError, .remove id⟩], rfl⟩
  | enableHangs buffer sight => exact ⟨[], linked_nil_iff.mpr (client.onError_enableHangs buffer sight)⟩
  | disableHangs => exact ⟨[], linked_nil_iff.mpr client.onError_stopMonitor⟩
  | close => exact ⟨[], linked_nil_iff.mpr client.onError_close⟩
  | _ => exact ⟨[], linked_nil _⟩

namespace Agent

variable {id other : ClientId} {agent later : Agent κ ν} {client present : Client κ}

/-- The on-error callbacks of a client; none before there is one. -/
def onError (agent : Agent κ ν) (id : ClientId) : Registry κ :=
  ((agent.client? id).map Client.onError).getD .empty

/-- The on-error callbacks of a client were edited, if anything. -/
def Edits (id : ClientId) (agent later : Agent κ ν) : Prop :=
  ∃ deeds, Linked (agent.onError id) deeds (later.onError id)

instance (id : ClientId) : IsPreorder (Agent κ ν) (Edits id) where
  refl agent := ⟨[], linked_nil _⟩
  trans _ _ _ := by
    rintro ⟨earlier, first⟩ ⟨later, second⟩
    exact ⟨earlier ++ later, linked_append_iff.mpr ⟨_, first, second⟩⟩

theorem onError_of_held (held : agent.client? id = some client) : agent.onError id = client.onError := by
  unfold onError
  rw [held]
  rfl

theorem edits_of_client? (same : later.client? id = agent.client? id) : Edits id agent later := by
  refine ⟨[], ?_⟩
  unfold onError
  rw [same]
  exact linked_nil _

theorem edits_setClient (held : agent.client? other = some client)
    (edited : ∃ deeds, Linked client.onError deeds present.onError) :
    Edits id agent (agent.setClient other present) := by
  by_cases same : other = id
  · subst same
    unfold Edits
    rw [onError_of_held held, onError_of_held (client?_setClient held present)]
    exact edited
  · exact edits_of_client? (client?_setClient_ne same agent present)

/-- A client that is installed has no callbacks yet. -/
theorem edits_install (agent : Agent κ ν) (fresh : client.onError = .empty) :
    Edits id agent (agent.install client) := by
  cases held : agent.client? id with
  | some before => exact edits_of_client? (((Untouched.install agent client).client before held).trans held.symm)
  | none =>
    refine ⟨[], linked_nil_iff.mpr ?_⟩
    have empty : agent.onError id = .empty := by
      unfold onError
      rw [held]
      rfl
    cases found : (agent.install client).client? id with
    | none =>
      unfold onError
      rw [found, held]
    | some present =>
      rcases client?_install_cases found with before | ⟨-, rfl⟩
      · rw [held] at before
        cases before
      · rw [onError_of_held found, fresh, empty]

/-- **Native callers only edit**: what they register at a client comes after what was registered there. -/
theorem edits_bears (id : ClientId) : NativeBears (Edits (κ := κ) (ν := ν) id) where
  bears other task :=
    { tick := fun agent => edits_of_client? rfl
      change := fun held made => edits_setClient held (made.onError _)
      breadcrumb := fun agent breadcrumb => by
        unfold addBreadcrumb
        cases held : agent.client? other with
        | none => exact refl_of (Edits id) agent
        | some client =>
          have read : agent.readClock.2.client? other = some client := held
          exact edits_setClient read ⟨[], linked_nil _⟩
      note := fun agent happening _ _ => edits_of_client? rfl }
  launch agent _ _ _ := edits_install agent rfl
  close _ held := edits_setClient held (ClientCall.Makes.close.onError _)
  besides clients _ _ := edits_of_client? (client?_congr clients id)

theorem edits_modifyMonitor (agent : Agent κ ν) (monitor : MonitorId)
    (change : Hang.Monitor → Hang.Sight → Hang.Monitor) : Edits id agent (agent.modifyMonitor monitor change) := by
  unfold modifyMonitor
  cases held : agent.client? monitor.client with
  | none => exact refl_of (Edits id) agent
  | some client => exact edits_setClient held ⟨[], linked_nil _⟩

theorem keeps_edits (native : NativeHost κ ν) (events depth : Nat) (id : ClientId) :
    (native.host events).Keeps depth (Edits id) :=
  native.keeps_of_bears (edits_bears id) (fun _ _ => edits_of_client? rfl)
    (fun agent monitor => edits_modifyMonitor agent monitor _)
    (fun agent monitor _ => edits_modifyMonitor agent monitor _) events depth

/-! ### The two calls -/

section Calls

variable {host : Host κ ν} (caller : Option MonitorId) (depth : Nat)

/-- A change of a client is made at once. -/
theorem modifyGet_atOnce {β : Type} (held : agent.client? id = some client) (change : Client κ → β × Client κ) :
    Act.RunsAtOnce ((surroundings host caller depth id).modifyGet change) agent (change client).1
      (agent.setClient id (change client).2) := runs_modifyGet held rfl

theorem onCurrent_atOnce {final : Agent κ ν} (installed : agent.current = some id) {task : ClientCall κ}
    {answer : task.Answer}
    (call : Act.RunsAtOnce (perform host caller (depth + 1) (.call id task)) agent answer final) :
    Act.RunsAtOnce ((Script.onCurrent task).run (perform host caller (depth + 1))) agent (some answer) final := by
  unfold Script.onCurrent
  rw [Script.run_ask_bind]
  refine (current_atOnce caller depth installed).bind ?_
  dsimp only
  rw [Script.run_ask_bind]
  exact call.bind (.done _ _)

end Calls

variable {host : Host κ ν} (installed : agent.current = some id) (held : agent.client? id = some client)

include installed held

/-- **`addOnError` answers with the next identity** of the installed client. -/
theorem addOnError_answersAtOnce (callback : κ) :
    AnswersAtOnce host (.addOnError (some callback)) agent client.onError.next
      (agent.setClient id (client.addOnError callback).2) := by
  refine answersAtOnce_of_runsAtOnce fun caller depth => ?_
  dsimp only [NativeCall.script]
  rw [Program.run_bind]
  have added : Act.RunsAtOnce (perform host caller (depth + 1) (.call id (.addOnError callback))) agent
      ⟨client.onError.next⟩ (agent.setClient id (client.addOnError callback).2) :=
    modifyGet_atOnce caller depth held fun client => client.addOnError callback
  exact (onCurrent_atOnce caller depth installed added).bind (.done _ _)

/-- **`removeOnError` removes an identity** of the installed client. -/
theorem removeOnError_answersAtOnce (token : UInt64) :
    AnswersAtOnce host (.removeOnError token) agent () (agent.setClient id (client.removeOnError ⟨token⟩).2) := by
  refine answersAtOnce_of_runsAtOnce fun caller depth => ?_
  dsimp only [NativeCall.script]
  unfold Script.tell
  rw [Program.run_bind]
  have removed : Act.RunsAtOnce (perform host caller (depth + 1) (.call id (.removeOnError ⟨token⟩))) agent
      (client.removeOnError ⟨token⟩).1 (agent.setClient id (client.removeOnError ⟨token⟩).2) :=
    modifyGet_atOnce caller depth held fun client => client.removeOnError ⟨token⟩
  exact (onCurrent_atOnce caller depth installed removed).bind (.done _ _)

end Agent

/-! ### Tokens -/

namespace Schedule

variable {native : NativeHost κ ν} {schedule final : Schedule κ ν} {id : ClientId} {client : Client κ} {callback : κ}
  {events depth count : Nat}

/-- The on-error callbacks of a client come about by edits. -/
theorem FollowsNative.linked (follows : schedule.FollowsNative) (id : ClientId) :
    ∃ deeds, Linked .empty deeds (schedule.agent.onError id) := by
  obtain ⟨_, _, _, edits, _⟩ := follows.leads (Agent.edits_bears id) fun native events depth =>
    Agent.keeps_edits native events depth id
  exact edits

/-- Native code only edits. -/
theorem edits_of_run (follows : schedule.FollowsNative) {agent : Agent κ ν} {code : NativeCode κ ν α} {result : α}
    (ran : (Schedule.mk agent schedule.paused).run (native.host events) depth count
      (NativeCode.ownScript events code) = some (result, final)) (id : ClientId) :
    Agent.Edits id agent final.agent := by
  obtain ⟨_, _, _, _, proper⟩ := follows.leads (Agent.edits_bears id) fun native events depth =>
    Agent.keeps_edits native events depth id
  have proper : (Schedule.mk agent schedule.paused).Proper (Agent.Edits id) := proper
  have runs := (runs_of_run (Agent.keeps_edits native events depth id) proper ran).1
  exact runs.leads_of_leadsFrom (Agent.ownScript_leads (Agent.edits_bears id) native events depth code agent)

/-- What is done after a registration comes after it in the history of its client. -/
theorem exists_history (follows : schedule.FollowsNative) (held : schedule.agent.client? id = some client)
    {code : NativeCode κ ν α} {result : α}
    (ran : (Schedule.mk (schedule.agent.setClient id (client.addOnError callback).2) schedule.paused).run
      (native.host events) depth count (NativeCode.ownScript events code) = some (result, final))
    (other : ClientId) :
    ∃ history, Linked .empty history (final.agent.onError other) ∧
      (other = id → ⟨client.onError, .add callback⟩ ∈ history) := by
  obtain ⟨earlier, before⟩ := follows.linked other
  obtain ⟨later, behind⟩ := edits_of_run follows ran other
  by_cases same : other = id
  · subst same
    rw [Agent.onError_of_held held] at before
    rw [Agent.onError_of_held (Agent.client?_setClient held _)] at behind
    let deed : Deed κ := ⟨client.onError, .add callback⟩
    exact ⟨earlier ++ deed :: later, linked_append_iff.mpr ⟨_, before, linked_cons_iff.mpr ⟨rfl, behind⟩⟩,
      fun _ => List.mem_append_right earlier List.mem_cons_self⟩
  · have elsewhere : (schedule.agent.setClient id (client.addOnError callback).2).onError other =
        schedule.agent.onError other := by
      unfold Agent.onError
      rw [Agent.client?_setClient_ne (Ne.symm same)]
    rw [elsewhere] at behind
    exact ⟨earlier ++ later, linked_append_iff.mpr ⟨_, before, behind⟩, fun equal => absurd equal same⟩

/-- **A token counts the registrations at one client.**

Where native code has left a client installed, whatever it did, `addOnError` answers with a token. Whatever native code
does next, the on-error callbacks of every client have a history of edits from none on, which at the client where
the token was issued has that registration in it. While no client is installed, `removeOnError` changes
nothing. While one is, whichever that is, the callback that was registered there under the number of the
token is taken out, if there is one and it is still there, and all others stay. Where the history has the
registration in it, its number is the token; so as long as it is the same client, only the callback of
the registration itself is taken out. -/
theorem token_counts_registrations {code : UInt64 → NativeCode κ ν α} {result : α}
    (follows : schedule.FollowsNative) (installs : schedule.Installs id client)
    (ran : schedule.run (native.host events) depth count
      (NativeCode.ownScript events (.ask (.call (.addOnError (some callback))) code)) = some (result, final)) :
    ∃ (token : UInt64) (added : Schedule κ ν),
      schedule.run (native.host events) depth count (NativeCall.addOnError (some callback)).script =
        some (token, added) ∧
      added.run (native.host events) depth count (NativeCode.ownScript events (code token)) =
        some (result, final) ∧
      (∀ other, ∃ history, Linked .empty history (final.agent.onError other) ∧
        (other = id → ⟨client.onError, .add callback⟩ ∈ history)) ∧
      ∀ host : Host κ ν,
        (final.agent.current = none →
          Agent.AnswersAtOnce host (.removeOnError token) final.agent () final.agent) ∧
        ∀ other present, final.Installs other present →
          Agent.AnswersAtOnce host (.removeOnError token) final.agent ()
            (final.agent.setClient other (present.removeOnError ⟨token⟩).2) ∧
          ∀ history, Linked .empty history present.onError → (enrolled history).length < UInt64.size - 1 →
            present.onError.Loses (present.removeOnError ⟨token⟩).2.onError
              (Registry.registration? history token) ∧
            (⟨client.onError, .add callback⟩ ∈ history →
              Registry.registration? history token = some (⟨token⟩, callback)) := by
  cases depth with
  | zero => cases ran
  | succ depth =>
    have adds : schedule.run (native.host events) (depth + 1) count (NativeCall.addOnError (some callback)).script =
        some (client.onError.next,
          ⟨schedule.agent.setClient id (client.addOnError callback).2, schedule.paused⟩) :=
      (Agent.addOnError_answersAtOnce installs.current installs.held callback).owner schedule.paused depth count
    have begins : schedule.run (native.host events) (depth + 1) count
        ((NativeCall.addOnError (some callback)).scriptAfter events) = _ := adds
    rw [NativeCode.ownScript_call, run_bind_of_eq begins] at ran
    refine ⟨client.onError.next, _, adds, ran, exists_history follows installs.held ran, fun host => ⟨?_, ?_⟩⟩
    · intro absent
      exact Agent.answersAtOnce_of_idle absent rfl
    · intro other present installs
      refine ⟨Agent.removeOnError_answersAtOnce installs.current installs.held _, fun history linked enough => ?_⟩
      have counts : Counts history present.onError := Counts.empty.append linked enough
      refine ⟨counts.loses _, fun registered => ?_⟩
      have enrolls : (⟨client.onError.next⟩, callback) ∈ enrolled history :=
        List.mem_filterMap.mpr ⟨_, registered, rfl⟩
      exact counts.registration?_eq_some_iff.mpr ⟨enrolls, rfl⟩

/-- Registers a callback, and answers with a token from before and the new one. -/
def enlist (token : UInt64) : NativeCode Nat Nat (UInt64 × UInt64) :=
  .ask (.call (.addOnError (some 2))) fun (other : UInt64) => .done (token, other)

/-- Closes the client, and registers a callback at the next one. -/
def succeed (token : UInt64) : NativeCode Nat Nat (UInt64 × UInt64) :=
  NativeCode.relaunch nowhere 0 (enlist token)

/-- What becomes of `succeed`: both registrations are the first ones of their clients. -/
theorem exists_succeeded : ∃ final present,
    blank.furnished.after 0 (.ask (.call (.addOnError (some 1))) succeed) = some ((1, 1), final) ∧
      final.Installs ⟨1⟩ present ∧ present.onError = (Registry.add .empty 2).2 := by
  have told : ((blank.furnished.run (clerk.host 0) 3 9 (NativeCall.addOnError (some 1)).script).bind
      fun ((token : UInt64), added) => (added.run (clerk.host 0) 3 9 (NativeCall.close : NativeCall Nat).script).bind
        fun (_, closed) => (closed.furnished.after 0 (enlist token)).map fun (tokens, final) =>
          (decide (closed.agent.current = none ∧ final.agent.current = some ⟨1⟩ ∧
              (final.agent.onError ⟨1⟩).next = 2), tokens,
            (final.agent.client? ⟨1⟩).map fun client => client.onError.entries)) =
      some (true, (1, 1), some [(⟨1⟩, 2)]) := by decide +kernel
  obtain ⟨⟨token, added⟩, adds, told⟩ := Option.bind_eq_some_iff.mp told
  obtain ⟨⟨_, closed⟩, closes, told⟩ := Option.bind_eq_some_iff.mp told
  obtain ⟨⟨tokens, final⟩, ran, told⟩ := Option.map_eq_some_iff.mp told
  obtain ⟨installs, rfl, listed⟩ : _ ∧ _ ∧ _ := by simpa only [Prod.mk.injEq] using told
  obtain ⟨present, held, entries⟩ := Option.map_eq_some_iff.mp listed
  obtain ⟨absent, installed, next⟩ := of_decide_eq_true installs
  rw [Agent.onError_of_held held] at next
  have onError : present.onError = (Registry.add .empty 2).2 := by
    show present.onError = ⟨[(⟨1⟩, 2)], 2⟩
    rw [← entries, ← next]
  refine ⟨final, present, ?_, ⟨installed, held⟩, onError⟩
  have begins : blank.furnished.run (clerk.host 0) 3 9 ((NativeCall.addOnError (some 1)).scriptAfter 0) = _ := adds
  unfold after
  rw [NativeCode.ownScript_call, run_bind_of_eq begins]
  unfold succeed
  rw [run_relaunch, closes]
  exact (after_launch absent 0 _).trans ran

theorem furnished_followsNative : blank.furnished.FollowsNative :=
  ⟨clerk, _, _, _, Unit, .ask (.call (.init nowhere 0)) fun _ => .done (), 3, 9, (), after_launch rfl 0 (.done ())⟩

/-- The token of the first client takes out the registration of its number at the second one. -/
theorem token_counts_registrations_succeed :
    ∃ final present, blank.furnished.after 0 (.ask (.call (.addOnError (some 1))) succeed) = some ((1, 1), final) ∧
      final.Installs ⟨1⟩ present ∧ Linked .empty [⟨.empty, .add 2⟩] present.onError ∧
      Agent.AnswersAtOnce (clerk.host 0) (.removeOnError 1) final.agent ()
        (final.agent.setClient ⟨1⟩ (present.removeOnError ⟨1⟩).2) ∧
      present.onError.Loses (present.removeOnError ⟨1⟩).2.onError (some (⟨1⟩, 2)) := by
  obtain ⟨final, present, ran, installs, onError⟩ := exists_succeeded
  obtain ⟨token, added, adds, -, -, removes⟩ :=
    token_counts_registrations furnished_followsNative ⟨rfl, rfl⟩ ran
  obtain rfl : token = 1 := congrArg Prod.fst (Option.some.inj (adds.symm.trans
    ((Agent.addOnError_answersAtOnce rfl rfl 1).owner blank.furnished.paused 2 9)))
  have linked : Linked .empty [⟨.empty, .add 2⟩] present.onError := linked_singleton_iff.mpr ⟨rfl, onError⟩
  obtain ⟨answers, loses⟩ := (removes (clerk.host 0)).2 ⟨1⟩ present installs
  exact ⟨final, present, ran, installs, linked, answers, (loses _ linked (by decide)).1⟩

/-- **The token of a client that was closed** unregisters a callback of the next client. -/
theorem token_of_closed_client :
    ∃ final present, blank.after 0 (.ask (.call (.init nowhere 0)) fun _ =>
        .ask (.call (.addOnError (some 1))) succeed) = some ((1, 1), final) ∧
      final.Installs ⟨1⟩ present ∧ present.onError.entries = [(⟨1⟩, 2)] ∧
      ∃ removed emptied, final.run (clerk.host 0) 3 9 (NativeCall.removeOnError 1).script = some ((), removed) ∧
        removed.Installs ⟨1⟩ emptied ∧ emptied.onError.entries = [] := by
  obtain ⟨final, present, ran, installs, onError⟩ := exists_succeeded
  have removes : Agent.AnswersAtOnce (clerk.host 0) (.removeOnError 1) final.agent () _ :=
    Agent.removeOnError_answersAtOnce installs.current installs.held 1
  refine ⟨final, present, (after_launch rfl 0 _).trans ran, installs, congrArg Registry.entries onError, _, _,
    removes.owner final.paused 2 9, installs.setClient _, ?_⟩
  show present.onError.entries.filter _ = []
  rw [onError]
  rfl

end Schedule

end CrashReporter
