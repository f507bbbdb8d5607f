/-
**Acts in step.**

Two acts on two agents are in step (`Act.Lockstep`) if they make the same moves, and the agents are alike
whenever the acts wait and when they end: what they wait for is told of both or of neither, and whatever
becomes of the agents meanwhile, as long as they are alike afterwards, the acts go on in step. Acts that
are in step on all agents that are alike (`Act.InStep`) are so one after the other, so that they pair
surroundings (`Client.Access.Paired`).
-/

import CrashReporter.Agent.Schedule
import CrashReporter.Proofs.Client.Pairs
import CrashReporter.Proofs.Program.Runs

namespace CrashReporter.Act

variable {κ ν α β : Type}

/-- Two acts on two agents are in step. -/
inductive Lockstep (alike : Agent κ ν → Agent κ ν → Prop) (fits : α → α → Prop) :
    Act κ ν α → Agent κ ν → Act κ ν α → Agent κ ν → Prop
  | done {result result' : α} {agent agent' : Agent κ ν} (same : alike agent agent')
      (fit : fits result result') : Lockstep alike fits (.done result) agent (.done result') agent'
  | get {next next' : Agent κ ν → Act κ ν α} {agent agent' : Agent κ ν}
      (continued : Lockstep alike fits (next agent) agent (next' agent') agent') :
      Lockstep alike fits (.ask .get next) agent (.ask .get next') agent'
  | set {changed changed' : Agent κ ν} {next next' : Unit → Act κ ν α} {agent agent' : Agent κ ν}
      (continued : Lockstep alike fits (next ()) changed (next' ()) changed') :
      Lockstep alike fits (.ask (.set changed) next) agent (.ask (.set changed') next') agent'
  | wait {span : Option Nat} {ready ready' : Agent κ ν → Bool} {next next' : Bool → Act κ ν α}
      {agent agent' : Agent κ ν} (same : alike agent agent')
      (told : ∀ later later', alike later later' → ready later = ready' later')
      (continued : ∀ answer later later', alike later later' →
        Lockstep alike fits (next answer) later (next' answer) later') :
      Lockstep alike fits (.ask (.wait span ready) next) agent (.ask (.wait span ready') next') agent'
  | fail {next next' : Empty → Act κ ν α} {agent agent' : Agent κ ν} :
      Lockstep alike fits (.ask .fail next) agent (.ask .fail next') agent'

/-- Two acts are in step on agents that are alike. -/
def InStep (alike : Agent κ ν → Agent κ ν → Prop) ⦃α : Type⦄ (fits : α → α → Prop) (act act' : Act κ ν α) :
    Prop :=
  ∀ agent agent', alike agent agent' → Lockstep alike fits act agent act' agent'

variable {alike : Agent κ ν → Agent κ ν → Prop} {fits : α → α → Prop} {other : β → β → Prop}
  {act act' : Act κ ν α} {agent agent' : Agent κ ν}

/-- What is in step, and goes on in step with results that fit, is in step as a whole. -/
theorem Lockstep.bind {next next' : α → Act κ ν β} (first : Lockstep alike fits act agent act' agent')
    (second : ∀ result result', fits result result' → InStep alike other (next result) (next' result')) :
    Lockstep alike other (act >>= next) agent (act' >>= next') agent' := by
  induction first with
  | done same fit => exact second _ _ fit _ _ same
  | get continued ih => exact .get ih
  | set continued ih => exact .set ih
  | wait same told continued ih => exact .wait same told ih
  | fail => exact .fail

/-- Acts are in step one after the other. -/
theorem inStep_composes (alike : Agent κ ν → Agent κ ν → Prop) : ComposesInPairs (InStep alike) where
  pure fit _ _ same := .done same fit
  bind first second agent agent' same := (first agent agent' same).bind second

theorem gets_inStep {read read' : Agent κ ν → α}
    (fit : ∀ agent agent', alike agent agent' → fits (read agent) (read' agent')) :
    InStep alike fits (gets read) (gets read') :=
  fun agent agent' same => .get (.done same (fit agent agent' same))

theorem modify_inStep {change change' : Agent κ ν → Agent κ ν}
    (still : ∀ agent agent', alike agent agent' → alike (change agent) (change' agent')) :
    InStep alike Eq (modify change : Act κ ν PUnit) (modify change') :=
  fun agent agent' same => .get (.set (.done (still agent agent' same) rfl))

theorem modifyGet_inStep {change change' : Agent κ ν → α × Agent κ ν}
    (fit : ∀ agent agent', alike agent agent' → fits (change agent).1 (change' agent').1)
    (still : ∀ agent agent', alike agent agent' → alike (change agent).2 (change' agent').2) :
    InStep alike fits (modifyGet change : Act κ ν α) (modifyGet change') :=
  fun agent agent' same => .get (.set (.done (still agent agent' same) (fit agent agent' same)))

theorem wait_inStep (span : Option Nat) {ready ready' : Agent κ ν → Bool}
    (told : ∀ agent agent', alike agent agent' → ready agent = ready' agent') :
    InStep alike Eq (wait span ready) (wait span ready') :=
  fun _ _ same => .wait same told fun _ _ _ later => .done later rfl

theorem fail_inStep : InStep alike fits (fail : Act κ ν α) fail := fun _ _ _ => .fail

end CrashReporter.Act
