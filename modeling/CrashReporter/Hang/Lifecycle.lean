/-
**Opening and closing a client, step by step.**

A client is closed at most once, and a monitor is installed only while it is open. Both facts have to hold
although calls overlap, so each call is a sequence of atomic steps:

* enabling reads whether the client is closed, installs a monitor unless there is one, and reads again;
  if the client has been closed in between, it takes the monitor out and fails;
* disabling takes the monitor out;
* closing marks the client as closed and takes the monitor out; a second call does nothing.

`finish` runs a call without interruption; `System.Step` lets any number of calls overlap.
-/

namespace CrashReporter.Hang

/-- Whether a client is closed, and its installed monitor. -/
structure Lifecycle (μ : Type) where
  closed : Bool
  installed : Option μ

/-- What a call on the lifecycle answers. -/
inductive Result where
  /-- Enabled, or there was a monitor before. -/
  | enabled (fresh : Bool)
  /-- Not enabled: the client is closed. -/
  | refused
  /-- Disabled, or there was no monitor. -/
  | disabled (taken : Bool)
  | closed
  deriving DecidableEq, Repr

/-- Where a call stands: before the step that is named, or at its end. -/
inductive Position (μ : Type) where
  | readClosed (monitor : μ)
  | install (monitor : μ)
  | readClosedAgain
  | takeAndRefuse
  | takeToDisable
  | markClosed
  | takeToClose
  | returned (result : Result)

namespace Position

/-- The start of a call that enables a monitor. -/
def enable {μ : Type} (monitor : μ) : Position μ := .readClosed monitor

/-- The start of a call that disables the monitor. -/
def disable {μ : Type} : Position μ := .takeToDisable

/-- The start of a call that closes the client. -/
def close {μ : Type} : Position μ := .markClosed

end Position

namespace Lifecycle

variable {μ : Type}

/-- An open client without a monitor. -/
def fresh : Lifecycle μ := ⟨false, none⟩

/-- Makes one step of a call. -/
def step (lifecycle : Lifecycle μ) : Position μ → Lifecycle μ × Position μ
  | .readClosed monitor =>
    (lifecycle, if lifecycle.closed then .returned .refused else .install monitor)
  | .install monitor =>
    if lifecycle.installed.isSome then (lifecycle, .returned (.enabled false))
    else ({ lifecycle with installed := some monitor }, .readClosedAgain)
  | .readClosedAgain =>
    (lifecycle, if lifecycle.closed then .takeAndRefuse else .returned (.enabled true))
  | .takeAndRefuse => ({ lifecycle with installed := none }, .returned .refused)
  | .takeToDisable =>
    ({ lifecycle with installed := none }, .returned (.disabled lifecycle.installed.isSome))
  | .markClosed =>
    ({ lifecycle with closed := true },
      if lifecycle.closed then .returned .closed else .takeToClose)
  | .takeToClose => ({ lifecycle with installed := none }, .returned .closed)
  | .returned result => (lifecycle, .returned result)

/-- Makes the given number of steps of a call. -/
def steps : Nat → Lifecycle μ → Position μ → Lifecycle μ × Position μ
  | 0, lifecycle, position => (lifecycle, position)
  | count + 1, lifecycle, position =>
    let (lifecycle, position) := lifecycle.step position
    steps count lifecycle position

/-- Runs a call without interruption. No call takes more than four steps. -/
def finish (lifecycle : Lifecycle μ) (position : Position μ) : Lifecycle μ × Position μ :=
  steps 4 lifecycle position

/-- Runs a call that enables a monitor: whether it is a fresh one, none if the client is closed. -/
def enable (lifecycle : Lifecycle μ) (monitor : μ) : Option Bool × Lifecycle μ :=
  match lifecycle.finish (.enable monitor) with
  | (lifecycle, .returned (.enabled fresh)) => (some fresh, lifecycle)
  | (lifecycle, _) => (none, lifecycle)

/-- Runs a call that disables the monitor: whether there was one. -/
def disable (lifecycle : Lifecycle μ) : Bool × Lifecycle μ :=
  match lifecycle.finish .disable with
  | (lifecycle, .returned (.disabled taken)) => (taken, lifecycle)
  | (lifecycle, _) => (false, lifecycle)

/-- Runs a call that closes the client. -/
def close (lifecycle : Lifecycle μ) : Lifecycle μ :=
  (lifecycle.finish .close).1

end Lifecycle

/-! ### Calls that overlap -/

/-- A client with the calls that are under way or have returned. -/
structure System (μ : Type) where
  lifecycle : Lifecycle μ
  calls : List (Position μ)

namespace System

variable {μ : Type}

/-- An open client on which nothing was called. -/
def initial : System μ := ⟨.fresh, []⟩

/-- Makes one step of the call with the given index. -/
def advance (system : System μ) (index : Nat) : System μ :=
  match system.calls[index]? with
  | none => system
  | some position =>
    let (lifecycle, position) := system.lifecycle.step position
    ⟨lifecycle, system.calls.set index position⟩

/-- A call begins, or makes a step. -/
inductive Step : System μ → System μ → Prop where
  | enable (system : System μ) (monitor : μ) :
    Step system ⟨system.lifecycle, system.calls ++ [.enable monitor]⟩
  | disable (system : System μ) : Step system ⟨system.lifecycle, system.calls ++ [.disable]⟩
  | close (system : System μ) : Step system ⟨system.lifecycle, system.calls ++ [.close]⟩
  | advance (system : System μ) (index : Nat) : Step system (system.advance index)

/-- The states that overlapping calls lead to. -/
inductive Reachable : System μ → Prop where
  | initial : Reachable initial
  | step {before after : System μ} : Reachable before → Step before after → Reachable after

end System

end CrashReporter.Hang
