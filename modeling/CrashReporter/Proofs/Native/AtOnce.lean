/-
**Native calls that are answered at once.**

An act that never waits has one run, whoever else there is (`Act.RunsAtOnce`). While no client is installed,
the native calls that are made on the installed client are such acts, and leave everything as it is
(`Agent.answersAtOnce_of_idle`); so is `init` while one is installed, and `newEvent` while none is, which then
makes an empty event.
-/

import CrashReporter.Proofs.Agent.Company
import CrashReporter.Proofs.Native.Calls

namespace CrashReporter

variable {κ ν α β : Type}

/-! ### Acts that never wait -/

namespace Act

variable {others : Agent κ ν → Agent κ ν → Prop} {act : Act κ ν α} {result result' : α}
  {agent middle final final' : Agent κ ν}

/-- A run of one act and then one of another is a run of both. -/
theorem Runs.bind {next : α → Act κ ν β} {last : β} (first : Runs others act agent result middle)
    (second : Runs others (next result) middle last final) :
    Runs others (act >>= next) agent last final := by
  induction first with
  | done result agent => exact second
  | get continued ih => exact .get (ih second)
  | set continued ih => exact .set (ih second)
  | wait waited continued ih => exact .wait waited (ih second)

/-- An act runs without a wait. -/
def RunsAtOnce (act : Act κ ν α) (agent : Agent κ ν) (result : α) (final : Agent κ ν) : Prop :=
  Runs (fun _ _ => False) act agent result final

namespace RunsAtOnce

/-- Whoever else there is, there is no other run. -/
theorem runs_iff (atOnce : RunsAtOnce act agent result final) :
    Runs others act agent result' final' ↔ result' = result ∧ final' = final := by
  induction atOnce with
  | done result agent =>
    constructor
    · rintro ⟨⟩
      exact ⟨rfl, rfl⟩
    · rintro ⟨rfl, rfl⟩
      exact .done _ _
  | get continued ih => exact Iff.trans ⟨fun run => by cases run with | get further => exact further, .get⟩ ih
  | set continued ih => exact Iff.trans ⟨fun run => by cases run with | set further => exact further, .set⟩ ih
  | wait waited continued ih => exact waited.elim

/-- The owner of a schedule makes this run. -/
theorem run {host : Host κ ν} {depth count : Nat} (atOnce : RunsAtOnce act agent result final)
    (paused : List (Pause κ ν)) :
    (act.run (Schedule.move host depth count)).run ⟨agent, paused⟩ = some (result, ⟨final, paused⟩) := by
  induction atOnce with
  | done result agent => rfl
  | get continued ih => exact ih
  | set continued ih => exact ih
  | wait waited continued ih => exact waited.elim

end RunsAtOnce

end Act

/-! ### Native calls -/

/-- What a call on the installed client answers where there is none. -/
def NativeCall.idleAnswer? : (task : NativeCall κ) → Option task.Answer
  | .init .. => none
  | .close => some ()
  | .setDelivery _ => some ()
  | .notify .. => some ()
  | .leaveBreadcrumb .. => some ()
  | .addOnError _ => some 0
  | .removeOnError _ => some ()
  | .write _ => some ()
  | .enableHangs _ => some ()
  | .disableHangs => some ()
  | .newEvent => none
  | .freeEvent _ => none
  | .readEvent .. => none
  | .writeEvent .. => none

namespace Agent

open Act

/-- Whoever makes a native call, it is answered at once, and nobody else acts before it is. -/
structure AnswersAtOnce (host : Host κ ν) (task : NativeCall κ) (agent : Agent κ ν) (answer : task.Answer)
    (final : Agent κ ν) : Prop where
  runs : ∀ others caller depth result last,
    Runs others (task.script.run (perform host caller (depth + 1))) agent result last ↔
      result = answer ∧ last = final
  owner : ∀ paused depth count,
    (Schedule.mk agent paused).run host (depth + 1) count task.script = some (answer, ⟨final, paused⟩)

variable {host : Host κ ν} {agent final : Agent κ ν}

theorem answersAtOnce_of_runsAtOnce {task : NativeCall κ} {answer : task.Answer}
    (atOnce : ∀ caller depth,
      RunsAtOnce (task.script.run (perform host caller (depth + 1))) agent answer final) :
    AnswersAtOnce host task agent answer final where
  runs _ caller depth _ _ := (atOnce caller depth).runs_iff
  owner paused depth _ := (atOnce none depth).run paused

section Calls

variable (caller : Option MonitorId) (depth : Nat)

theorem current_atOnce {current : Option ClientId} (same : agent.current = current) :
    RunsAtOnce (perform host caller (depth + 1) .current) agent current agent := by
  subst same
  exact .get (.done _ _)

theorem now_atOnce :
    RunsAtOnce (perform host caller (depth + 1) .now) agent agent.readClock.1 agent.readClock.2 :=
  .get (.set (.done _ _))

theorem addEvent_atOnce (event : EventRecord) :
    RunsAtOnce (perform host caller (depth + 1) (.addEvent event)) agent (agent.addEvent event).1
      (agent.addEvent event).2 :=
  .get (.set (.done _ _))

variable (absent : agent.current = none)

include absent

theorem onCurrent_none (task : ClientCall κ) :
    RunsAtOnce ((Script.onCurrent task).run (perform host caller (depth + 1))) agent none agent := by
  unfold Script.onCurrent
  rw [Script.run_ask_bind]
  exact (current_atOnce caller depth absent).bind (.done _ _)

theorem tell_none (task : ClientCall κ) :
    RunsAtOnce ((Script.tell task).run (perform host caller (depth + 1))) agent () agent := by
  unfold Script.tell
  rw [Program.run_bind]
  exact (onCurrent_none caller depth absent task).bind (.done _ _)

theorem closeScript_none :
    RunsAtOnce (NativeCall.closeScript.run (perform host caller (depth + 1))) agent () agent := by
  have taken : RunsAtOnce (perform host caller (depth + 1) .uninstall) agent agent.current agent.uninstall.2 :=
    .get (.set (.done _ _))
  have same : agent.uninstall.2 = agent :=
    congrArg (fun current => { agent with current := current }) absent.symm
  rw [absent, same] at taken
  unfold NativeCall.closeScript
  rw [Script.run_ask_bind]
  exact taken.bind (.done _ _)

end Calls

section Vacant

variable (absent : agent.current = none)

include absent

/-- **While no client is installed**, the calls on the installed client change nothing and call nobody. -/
theorem answersAtOnce_of_idle {task : NativeCall κ} {answer : task.Answer}
    (idle : task.idleAnswer? = some answer) : AnswersAtOnce host task agent answer agent := by
  refine answersAtOnce_of_runsAtOnce fun caller depth => ?_
  have tell (task : ClientCall κ) :
      RunsAtOnce ((Script.tell task).run (perform host caller (depth + 1))) agent () agent :=
    tell_none caller depth absent task
  cases task with
  | close =>
    cases idle
    exact closeScript_none caller depth absent
  | setDelivery function =>
    cases idle
    cases function <;> exact tell _
  | addOnError callback =>
    cases idle
    cases callback with
    | none => exact .done _ _
    | some callback =>
      dsimp only [NativeCall.script]
      rw [Program.run_bind]
      exact (onCurrent_none caller depth absent _).bind (.done _ _)
  | removeOnError | disableHangs =>
    cases idle
    exact tell _
  | notify | leaveBreadcrumb | write | enableHangs =>
    -- Some arguments do nothing even if a client is installed.
    cases idle
    dsimp only [NativeCall.script]
    split
    · exact tell _
    · exact .done _ _
  | _ => cases idle

/-- While no client is installed, `newEvent` makes an empty event. -/
theorem newEvent_answersAtOnce :
    AnswersAtOnce host .newEvent agent ⟨agent.events.length⟩
      (agent.readClock.2.addEvent (.make agent.readClock.1)).2 := by
  refine answersAtOnce_of_runsAtOnce fun caller depth => ?_
  show RunsAtOnce (NativeCall.newEventScript.run (perform host caller (depth + 1))) _ _ _
  unfold NativeCall.newEventScript
  rw [Program.run_bind]
  refine (onCurrent_none caller depth absent _).bind ?_
  rw [Script.run_ask_bind]
  refine (now_atOnce caller depth).bind ?_
  dsimp only
  rw [Script.run_ask]
  exact addEvent_atOnce caller depth _

end Vacant

/-- While a client is installed, `init` changes nothing. -/
theorem init_answersAtOnce {id : ClientId} (installed : agent.current = some id) (surroundings : Surroundings)
    (runtimeContext : UInt64) :
    AnswersAtOnce host (.init surroundings runtimeContext) agent () agent := by
  refine answersAtOnce_of_runsAtOnce fun caller depth => ?_
  show RunsAtOnce ((NativeCall.initScript surroundings runtimeContext).run _) _ _ _
  unfold NativeCall.initScript
  rw [Script.run_ask_bind]
  exact (current_atOnce caller depth installed).bind (.done _ _)

end Agent

end CrashReporter
