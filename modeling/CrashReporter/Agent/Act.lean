/-
**Acts: what is done with an agent, up to the waits.**

An act is a program of moves. It has the agent to itself until it waits; while it waits, others act. How
long a wait lasts and who acts meanwhile is decided by whoever runs the act. `Act.alone` runs one while
nobody else acts.
-/

import CrashReporter.Agent.Basic
import CrashReporter.Program

namespace CrashReporter

/-- One move of an act on a state. -/
inductive Move (σ : Type) where
  | get
  | set (state : σ)
  /-- Waits until the state is as told, at most for a span of time in nanoseconds if there is one, and
  tells whether it is. -/
  | wait (span : Option Nat) (ready : σ → Bool)
  /-- Ends the act without a result. -/
  | fail

/-- What a move answers. -/
abbrev Move.Answer {σ : Type} : Move σ → Type
  | .get => σ
  | .set _ => Unit
  | .wait .. => Bool
  | .fail => Empty

/-- What is done with an agent. -/
abbrev Act (κ ν : Type) : Type → Type := Program (Move (Agent κ ν)) Move.Answer

instance {σ : Type} : MonadStateOf σ (Program (Move σ) Move.Answer) where
  get := .request Move.get
  set state := .request (Move.set state)
  modifyGet change := do
    let state ← Program.request Move.get
    let (answer, state) := change state
    Program.request (Move.set state)
    pure answer

namespace Act

variable {κ ν α : Type}

/-- Reads from the agent. -/
def gets (read : Agent κ ν → α) : Act κ ν α := do
  let agent ← get
  pure (read agent)

/-- Waits until the agent is as told, at most for a span of time if there is one, and tells whether it
is. -/
def wait (span : Option Nat) (ready : Agent κ ν → Bool) : Act κ ν Bool :=
  Program.request (Move.wait span ready)

/-- No result. -/
def fail : Act κ ν α := Program.ask Move.fail Empty.elim

/-- Makes a move while nobody else acts. What is not so by now will never be; waiting for it without a limit
has no result. -/
def moveAlone : (move : Move (Agent κ ν)) → StateT (Agent κ ν) Option move.Answer
  | .get => fun agent => some (agent, agent)
  | .set agent => fun _ => some ((), agent)
  | .wait span ready => fun agent =>
    if ready agent then some (true, agent)
    else span.map fun span => (false, { agent with time := agent.time + span })
  | .fail => fun _ => none

/-- Runs an act while nobody else acts. -/
def alone (act : Act κ ν α) : StateT (Agent κ ν) Option α := act.run moveAlone

end Act

end CrashReporter
