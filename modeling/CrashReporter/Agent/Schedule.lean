/-
**Agents in the course of time.**

The owner of an agent acts, and so do the monitors of its clients. Whoever acts goes on until it waits. While
the owner waits, time passes from one turn to the next: a monitor that is asleep wakes when its next look is
due, and a hook that waits goes on when what it waits for is so, or its time is over.

Turns are taken in the order of their time (`Schedule.next?`), and `Schedule.pass` counts them: a wait
that takes more turns than allowed has no result.
-/

import CrashReporter.Agent.Perform

namespace CrashReporter

/-- A hook that waits. -/
structure Pause (κ ν : Type) where
  /-- When it goes on at the latest, if it does not wait for as long as it takes. -/
  due : Option Int
  ready : Agent κ ν → Bool
  /-- What it does next, knowing whether the agent is as told. -/
  next : Bool → Act κ ν Unit

/-- An agent with the hooks that wait. -/
structure Schedule (κ ν : Type) where
  agent : Agent κ ν
  paused : List (Pause κ ν)

/-- Who has a turn. -/
inductive Turn where
  /-- A monitor that is asleep. -/
  | monitor (id : MonitorId)
  /-- The hook at an index among those that wait. -/
  | hook (index : Nat)
  deriving DecidableEq, Repr

namespace Turn

/-- The earliest of some turns; the first of several. -/
def earliest? : List (Int × Turn) → Option (Int × Turn)
  | [] => none
  | turn :: rest =>
    match earliest? rest with
    | none => some turn
    | some other => some (if turn.1 ≤ other.1 then turn else other)

end Turn

namespace Pause

variable {κ ν : Type}

/-- When a hook goes on, as things are. -/
def wakes? (pause : Pause κ ν) (agent : Agent κ ν) : Option Int :=
  if pause.ready agent then some agent.time else pause.due

end Pause

namespace Act

variable {κ ν : Type}

/-- Acts until it waits or is done. A wait for what is so already, or for no time, is none. -/
def goOn : Act κ ν Unit → Agent κ ν → Option (Agent κ ν × Option (Pause κ ν))
  | .done (), agent => some (agent, none)
  | .ask .get next, agent => goOn (next agent) agent
  | .ask (.set agent) next, _ => goOn (next ()) agent
  | .ask (.wait span ready) next, agent =>
    if ready agent then goOn (next true) agent
    else if span = some 0 then goOn (next false) agent
    else
      some (agent, some ⟨span.map fun span => agent.time + span, ready, next⟩)
  | .ask .fail _, _ => none

end Act

namespace Schedule

variable {κ ν α : Type}

/-- An agent of which no hook waits. -/
def start (agent : Agent κ ν) : Schedule κ ν := ⟨agent, []⟩

/-- Replaces the notes. -/
def remember (schedule : Schedule κ ν) (notes : ν) : Schedule κ ν :=
  { schedule with agent := { schedule.agent with notes := notes } }

/-- The same at a later time. -/
def passTo (schedule : Schedule κ ν) (time : Int) : Schedule κ ν :=
  { schedule with agent := { schedule.agent with time := max schedule.agent.time time } }

/-- Everybody who has a turn at some time, as things are. -/
def turns (schedule : Schedule κ ν) : List (Int × Turn) :=
  let agent := schedule.agent
  let monitors := agent.monitorIds.filterMap fun id =>
    ((agent.monitor? id).bind fun monitor => monitor.wakes? agent.time).map fun time =>
      (time, Turn.monitor id)
  let hooks := schedule.paused.zipIdx.filterMap fun (pause, index) =>
    (pause.wakes? agent).map fun time => (time, Turn.hook index)
  monitors ++ hooks

/-- The next turn and its time. -/
def next? (schedule : Schedule κ ν) : Option (Int × Turn) := Turn.earliest? schedule.turns

/-- Lets a hook act until it waits or is done. -/
def act (schedule : Schedule κ ν) (hook : Act κ ν Unit) : Option (Schedule κ ν) :=
  match Act.goOn hook schedule.agent with
  | none => none
  | some (agent, none) => some { schedule with agent := agent }
  | some (agent, some pause) => some ⟨agent, schedule.paused ++ [pause]⟩

/-- Takes a turn. -/
def take (schedule : Schedule κ ν) (host : Host κ ν) (depth : Nat) :
    Turn → Option (Schedule κ ν)
  | .monitor id =>
    let woken :=
      { schedule with agent := schedule.agent.modifyMonitor id Hang.Monitor.wake }
    if woken.agent.isCalling id then woken.act (Agent.hook host depth id) else some woken
  | .hook index =>
    match schedule.paused[index]? with
    | none => some schedule
    | some pause =>
      { schedule with paused := schedule.paused.eraseIdx index }.act
        (pause.next (pause.ready schedule.agent))

/-- Lets time pass until the agent is as told, at most to a limit if there is one, and tells whether it
is. -/
def pass (host : Host κ ν) (depth : Nat) (limit : Option Int) (ready : Agent κ ν → Bool) :
    Nat → Schedule κ ν → Option (Bool × Schedule κ ν)
  | 0, _ => none
  | count + 1, schedule =>
    if ready schedule.agent then some (true, schedule)
    else
      match schedule.next?, limit with
      | none, none => none
      | none, some limit => some (false, schedule.passTo limit)
      | some (time, turn), limit =>
        if limit.any (· < time) then some (false, schedule.passTo (limit.getD time))
        else
          match (schedule.passTo time).take host depth turn with
          | none => none
          | some schedule => pass host depth limit ready count schedule

/-- Makes a move of the owner, with at most `count` turns of others. -/
def move (host : Host κ ν) (depth count : Nat) :
    (move : Move (Agent κ ν)) → StateT (Schedule κ ν) Option move.Answer
  | .get => fun schedule => some (schedule.agent, schedule)
  | .set agent => fun schedule => some ((), { schedule with agent := agent })
  | .wait span ready => fun schedule =>
    pass host depth (span.map fun span => schedule.agent.time + span) ready count schedule
  | .fail => fun _ => none

/-- Runs a script of the owner, with calls nested at most `depth` deep, and at most `count` turns of
others in each wait. -/
def run (schedule : Schedule κ ν) (host : Host κ ν) (depth count : Nat) (script : Script κ ν α) :
    Option (α × Schedule κ ν) :=
  ((Agent.runScript host none depth script).run (move host depth count)).run schedule

end Schedule

end CrashReporter
