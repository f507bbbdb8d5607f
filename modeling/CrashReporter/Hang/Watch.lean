/-
**Watching for hangs while others start and stop the watch.**

A watcher is a thread of its own. It takes a first look, and then goes round and round: it waits, ends if
it was told to stop, looks, and if that finds a hang, checks once more whether it was told to stop and
then calls its hook. A hook that panics ends its own call only.

The watch holds the watchers and which of them is installed. Enabling starts a watcher and installs it
unless there is one. Disabling takes the installed one out, tells it to stop, and waits until it has ended,
unless the call comes from the hook of that very watcher.

`Watcher.step` and `Watch.step?` are the atomic steps. `Watch.finish` runs a call on its own; `System.Step`
lets calls, watchers and hooks overlap in any way.
-/

import CrashReporter.Hang.Detector

namespace CrashReporter.Hang

/-- The listing of a watch, of which one sees whether a watcher is installed. -/
def describeInstalled (installed : Bool) : String :=
  "HandlerController \x7b installed: " ++ (if installed then "true" else "false") ++ " \x7d"

/-- Where a watcher stands. -/
inductive Phase where
  /-- Before its first look. -/
  | starting
  /-- Asleep until the next look, or until it is told to stop. -/
  | waiting (detector : Detector)
  /-- Before a look. -/
  | looking (detector : Detector)
  /-- After a look that found a hang. -/
  | alarmed (detector : Detector)
  /-- After a check that found no order to stop, about to call its hook. -/
  | cleared (detector : Detector)
  /-- Inside its hook. -/
  | calling (detector : Detector)
  | ended
  deriving DecidableEq, Repr

/-- A thread that watches for hangs. -/
structure Watcher where
  threshold : Nat
  /-- It was told to stop. -/
  stopped : Bool
  phase : Phase
  deriving DecidableEq, Repr

/-- How a call of a hook ends. -/
inductive HookEnd where
  | returned
  | panicked
  deriving DecidableEq, Repr

namespace Phase

/-- Inside its hook. -/
def isCalling : Phase → Bool
  | .calling _ => true
  | _ => false

end Phase

namespace Watcher

/-- A watcher that is about to start. -/
def fresh (threshold : Nat) : Watcher := ⟨threshold, false, .starting⟩

/-- Makes one step, in which a look finds `sight` and a call of the hook ends as in `hook`. -/
def step (watcher : Watcher) (sight : Sight) (hook : HookEnd) : Watcher :=
  match watcher.phase with
  | .starting => { watcher with phase := .waiting (.start watcher.threshold sight) }
  | .waiting detector =>
    { watcher with phase := if watcher.stopped then .ended else .looking detector }
  | .looking detector =>
    let (hang, detector) := detector.observe sight
    { watcher with phase := if hang then .alarmed detector else .waiting detector }
  | .alarmed detector =>
    { watcher with phase := if watcher.stopped then .ended else .cleared detector }
  | .cleared detector => { watcher with phase := .calling detector }
  | .calling detector =>
    match hook with
    | .returned => { watcher with phase := .waiting detector }
    | .panicked => { watcher with phase := .waiting detector }
  | .ended => watcher

/-- A step does not tell the watcher to stop. -/
@[simp] theorem stopped_step (watcher : Watcher) (sight : Sight) (hook : HookEnd) :
    (watcher.step sight hook).stopped = watcher.stopped := by
  obtain ⟨threshold, stopped, phase⟩ := watcher
  cases phase with
  | calling detector => cases hook <;> rfl
  | _ => rfl

/-- Makes at most the given number of steps, until it waits, has ended or is inside its hook. -/
def goOn (sight : Sight) : Nat → Watcher → Watcher
  | 0, watcher => watcher
  | count + 1, watcher =>
    let watcher := watcher.step sight .returned
    match watcher.phase with
    | .looking _ => goOn sight count watcher
    | .alarmed _ => goOn sight count watcher
    | .cleared _ => goOn sight count watcher
    | _ => watcher

/-- Goes on until it waits, has ended or is inside its hook. That takes at most four steps. -/
def round (watcher : Watcher) (sight : Sight) : Watcher :=
  watcher.goOn sight 4

end Watcher

/-- Watchers in the order of their start, and the index of the installed one. -/
structure Watch where
  watchers : List Watcher
  installed : Option Nat
  deriving DecidableEq, Repr

/-- Where a call on the watch stands. The caller is the watcher whose hook makes the call, if any. -/
inductive Call where
  /-- Before it installs a watcher. -/
  | enable (caller : Option Nat) (threshold : Nat)
  /-- Before it takes the installed watcher out. -/
  | disable (caller : Option Nat)
  /-- Before it tells the watcher that it took to stop. -/
  | stop (caller : Option Nat) (target : Nat)
  /-- Before the watcher that it took has ended. -/
  | join (caller : Option Nat) (target : Nat)
  /-- At its end: whether it started a watcher. -/
  | enabled (fresh : Bool)
  /-- At its end: the watcher that it took, if there was one. -/
  | disabled (caller target : Option Nat)
  deriving DecidableEq, Repr

namespace Call

/-- The watcher whose hook is inside the call, until it has returned. -/
def caller? : Call → Option Nat
  | .enable caller _ => caller
  | .disable caller => caller
  | .stop caller _ => caller
  | .join caller _ => caller
  | .enabled _ => none
  | .disabled .. => none

end Call

namespace Watch

/-- No watcher was ever started. -/
def empty : Watch := ⟨[], none⟩

/-- A watcher is installed. -/
def isInstalled (watch : Watch) : Bool := watch.installed.isSome

/-- A watcher has ended. -/
def hasEnded (watch : Watch) (index : Nat) : Bool :=
  watch.watchers[index]?.all fun watcher => watcher.phase = .ended

/-- A watcher is inside its hook. -/
def isCalling (watch : Watch) (index : Nat) : Bool :=
  watch.watchers[index]?.any fun watcher => watcher.phase.isCalling

/-- Lets a watcher make a step. -/
def tick (watch : Watch) (index : Nat) (sight : Sight) (hook : HookEnd) : Watch :=
  { watch with watchers := watch.watchers.modify index fun watcher => watcher.step sight hook }

/-- Makes one step of a call, unless it has returned or has to wait. -/
def step? (watch : Watch) : Call → Option (Watch × Call)
  | .enable _ threshold =>
    if watch.isInstalled then some (watch, .enabled false)
    else
      some
        (⟨watch.watchers ++ [.fresh threshold], some watch.watchers.length⟩, .enabled true)
  | .disable caller =>
    match watch.installed with
    | none => some (watch, .disabled caller none)
    | some target => some ({ watch with installed := none }, .stop caller target)
  | .stop caller target =>
    some
      ({ watch with
          watchers := watch.watchers.modify target fun watcher => { watcher with stopped := true } },
        if caller = some target then .disabled caller (some target) else .join caller target)
  | .join caller target =>
    if watch.hasEnded target then some (watch, .disabled caller (some target)) else none
  | .enabled _ => none
  | .disabled .. => none

/-- Makes at most the given number of steps of a call and of the watcher that it waits for. -/
def finishWithin (sight : Sight) : Nat → Watch → Call → Watch × Call
  | 0, watch, call => (watch, call)
  | count + 1, watch, call =>
    match watch.step? call, call with
    | some (watch, call), _ => finishWithin sight count watch call
    | none, .join _ target => finishWithin sight count (watch.tick target sight .returned) call
    | none, call => (watch, call)

/-- Runs a call to its end, while a watcher that it waits for goes on. A call takes at most three steps,
and a watcher that was told to stop ends within two. -/
def finish (watch : Watch) (sight : Sight) (call : Call) : Watch × Call :=
  finishWithin sight 5 watch call

/-- Enables the watch, and tells whether that started a watcher. -/
def enable (watch : Watch) (sight : Sight) (caller : Option Nat) (threshold : Nat) : Bool × Watch :=
  match watch.finish sight (.enable caller threshold) with
  | (watch, .enabled fresh) => (fresh, watch)
  | (watch, _) => (false, watch)

/-- Disables the watch, and tells whether a watcher was installed. -/
def disable (watch : Watch) (sight : Sight) (caller : Option Nat) : Bool × Watch :=
  match watch.finish sight (.disable caller) with
  | (watch, .disabled _ target) => (target.isSome, watch)
  | (watch, _) => (false, watch)

/-- Lets the watcher of an index go on until it waits, has ended or is inside its hook. -/
def round (watch : Watch) (index : Nat) (sight : Sight) : Watch :=
  { watch with watchers := watch.watchers.modify index fun watcher => watcher.round sight }

/-- Lets the watcher of an index go on, and calls its hook if it finds a hang. -/
def lookOne {σ : Type} (sight : Sight) (hook : Nat → Watch × σ → HookEnd × Watch × σ)
    (state : Watch × σ) (index : Nat) : Watch × σ :=
  let (watch, rest) := state
  let watch := watch.round index sight
  if watch.isCalling index then
    let (outcome, watch, rest) := hook index (watch, rest)
    (watch.tick index sight outcome, rest)
  else (watch, rest)

/-- Lets every watcher go on, one after the other, and calls the hooks of those that find a hang. A hook may
use the watch and change what else there is. -/
def lookAll {σ : Type} (sight : Sight) (hook : Nat → Watch × σ → HookEnd × Watch × σ)
    (state : Watch × σ) : Watch × σ :=
  (List.range state.1.watchers.length).foldl (lookOne sight hook) state

/-- The listing of a watch. -/
def describe (watch : Watch) : String :=
  describeInstalled watch.isInstalled

end Watch

/-! ### Overlapping calls -/

/-- A watch with the calls that are under way or have returned. -/
structure WatchSystem where
  watch : Watch
  calls : List Call
  deriving DecidableEq, Repr

namespace WatchSystem

/-- A watch on which nothing was called. -/
def initial : WatchSystem := ⟨.empty, []⟩

/-- The hook of a watcher is inside a call. -/
def isBusy (system : WatchSystem) (index : Nat) : Bool :=
  system.calls.any fun call => call.caller? = some index

/-- A call begins, from any thread or from a hook; or a call makes a step; or a watcher does, unless its
hook is inside a call. -/
inductive Step : WatchSystem → WatchSystem → Prop where
  | enable (system : WatchSystem) (threshold : Nat) :
    Step system ⟨system.watch, system.calls ++ [.enable none threshold]⟩
  | disable (system : WatchSystem) : Step system ⟨system.watch, system.calls ++ [.disable none]⟩
  | enableInHook (system : WatchSystem) (index threshold : Nat) :
    system.watch.isCalling index → ¬ system.isBusy index →
    Step system ⟨system.watch, system.calls ++ [.enable (some index) threshold]⟩
  | disableInHook (system : WatchSystem) (index : Nat) :
    system.watch.isCalling index → ¬ system.isBusy index →
    Step system ⟨system.watch, system.calls ++ [.disable (some index)]⟩
  | advance (system : WatchSystem) (index : Nat) (call after : Call) (watch : Watch) :
    system.calls[index]? = some call → system.watch.step? call = some (watch, after) →
    Step system ⟨watch, system.calls.set index after⟩
  | tick (system : WatchSystem) (index : Nat) (sight : Sight) (hook : HookEnd) :
    ¬ system.isBusy index →
    Step system ⟨system.watch.tick index sight hook, system.calls⟩

/-- The states that overlapping calls and watchers lead to. -/
inductive Reachable : WatchSystem → Prop where
  | initial : Reachable initial
  | step {before after : WatchSystem} : Reachable before → Step before after → Reachable after

end WatchSystem

end CrashReporter.Hang
