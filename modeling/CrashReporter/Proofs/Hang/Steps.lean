/-
**What a step does to a watcher and to a call.**

Calls that enable and disable a watch overlap with one another and with the watchers that they start and
stop.

* `Advance` says all that a step of a call does.
* In a step of the whole, a watcher stays as it is, is told to stop, or makes a step (`watcher_of_step`). What
  outlasts each of these (`Stays`) is true of the watcher for good (`has_of_later`).
* A watcher that has ended, or was told to stop and has no look before it, begins no call of its hook.
* A call that took a watcher out has taken it for good.
-/

import CrashReporter.Hang.Watch
import Mathlib.Logic.Relation
import Mathlib.Tactic.Common

namespace CrashReporter.Hang

open Relation (ReflTransGen)

/-! ## Part 1 — one watcher -/

namespace Watcher

/-- Tells a watcher to stop. -/
def tell (watcher : Watcher) : Watcher := { watcher with stopped := true }

/-- The watcher has ended. -/
def HasEnded (watcher : Watcher) : Prop := watcher.phase = .ended

/-- The watcher has ended, or it will end before it looks again. -/
def IsLeaving (watcher : Watcher) : Prop :=
  watcher.HasEnded ∨ watcher.stopped = true ∧
    ((∃ detector, watcher.phase = .waiting detector) ∨ ∃ detector, watcher.phase = .calling detector)

/-- What is told of a watcher stays so, whatever it does and is told to. -/
structure Stays (told : Watcher → Prop) : Prop where
  tell : ∀ watcher, told watcher → told watcher.tell
  step : ∀ watcher sight hook, told watcher → told (watcher.step sight hook)

theorem stopped_stays : Stays fun watcher => watcher.stopped = true where
  tell _ _ := rfl
  step watcher sight hook stopped := by rwa [stopped_step]

theorem hasEnded_stays : Stays HasEnded where
  tell _ ended := ended
  step watcher sight hook ended := by
    unfold HasEnded step
    rw [ended]
    exact ended

theorem isLeaving_stays : Stays IsLeaving where
  tell watcher leaving := by
    rcases leaving with ended | ⟨_, phase⟩
    · exact .inl ended
    · exact .inr ⟨rfl, phase⟩
  step watcher sight hook leaving := by
    rcases leaving with ended | ⟨stopped, ⟨detector, phase⟩ | ⟨detector, phase⟩⟩
    · exact .inl (hasEnded_stays.step watcher sight hook ended)
    · refine .inl ?_
      unfold HasEnded step
      rw [phase]
      exact if_pos stopped
    · refine .inr ⟨stopped_stays.step watcher sight hook stopped, .inl ⟨detector, ?_⟩⟩
      unfold step
      rw [phase]
      cases hook <;> rfl

theorem calling_of_isCalling {watcher : Watcher} (inside : watcher.phase.isCalling = true) :
    ∃ detector, watcher.phase = .calling detector := by
  cases phase : watcher.phase with
  | calling detector => exact ⟨detector, rfl⟩
  | _ =>
    rw [phase] at inside
    cases inside

/-- A watcher that is leaving begins no call of its hook. -/
theorem isCalling_of_leaving {watcher : Watcher} (leaving : watcher.IsLeaving) (sight : Sight)
    (hook : HookEnd) (calling : (watcher.step sight hook).phase.isCalling = true) :
    watcher.phase.isCalling = true := by
  rcases leaving with ended | ⟨stopped, ⟨detector, phase⟩ | ⟨detector, phase⟩⟩
  · rw [hasEnded_stays.step watcher sight hook ended] at calling
    cases calling
  · unfold step at calling
    rw [phase] at calling
    simp only [stopped, if_true] at calling
    cases calling
  · rw [phase]
    rfl

end Watcher

/-! ## Part 2 — one step of a call -/

namespace Call

/-- The watcher that a call has taken out. -/
def taken? : Call → Option Nat
  | .stop _ target => some target
  | .join _ target => some target
  | .disabled _ target => target
  | _ => none

/-- The watcher that a call has told to stop. -/
def stopped? : Call → Option Nat
  | .join _ target => some target
  | .disabled _ target => target
  | _ => none

/-- The call is to disable the watch, and has not returned. -/
def IsDisabling : Call → Prop
  | .disable _ | .stop .. | .join .. => True
  | _ => False

theorem taken?_of_stopped? {call : Call} {target : Nat} (stopped : call.stopped? = some target) :
    call.taken? = some target := by
  cases call with
  | join caller other => exact stopped
  | disabled caller other => exact stopped
  | _ => cases stopped

end Call

namespace Watch

/-- A watcher is as told. -/
def Has (watch : Watch) (index : Nat) (told : Watcher → Prop) : Prop :=
  ∃ watcher, watch.watchers[index]? = some watcher ∧ told watcher

/-- Tells a watcher to stop. -/
def tell (watch : Watch) (target : Nat) : Watch :=
  { watch with watchers := watch.watchers.modify target Watcher.tell }

section Watchers

variable (watch : Watch) (index : Nat)

theorem getElem?_tell (target : Nat) :
    (watch.tell target).watchers[index]? =
      watch.watchers[index]?.map fun watcher =>
        if target = index then watcher.tell else watcher := by
  unfold tell
  rw [List.getElem?_modify]
  split <;> rfl

theorem getElem?_tick (place : Nat) (sight : Sight) (hook : HookEnd) :
    (watch.tick place sight hook).watchers[index]? =
      watch.watchers[index]?.map fun watcher =>
        if place = index then watcher.step sight hook else watcher := by
  unfold tick
  rw [List.getElem?_modify]
  split <;> rfl

theorem length_tell (target : Nat) : (watch.tell target).watchers.length = watch.watchers.length :=
  List.length_modify ..

theorem length_tick (place : Nat) (sight : Sight) (hook : HookEnd) :
    (watch.tick place sight hook).watchers.length = watch.watchers.length :=
  List.length_modify ..

theorem isCalling_iff_has :
    watch.isCalling index = true ↔ watch.Has index fun watcher => watcher.phase.isCalling = true := by
  unfold isCalling Has
  rw [Option.any_eq_true]

end Watchers

/-- What one step of a call does. -/
inductive Advance (watch : Watch) : Call → Watch → Call → Prop
  | keep {caller : Option Nat} {threshold : Nat} (installed : watch.isInstalled = true) :
      Advance watch (.enable caller threshold) watch (.enabled false)
  | start {caller : Option Nat} {threshold : Nat} (empty : watch.installed = none) :
      Advance watch (.enable caller threshold)
        ⟨watch.watchers ++ [.fresh threshold], some watch.watchers.length⟩ (.enabled true)
  | miss {caller : Option Nat} (empty : watch.installed = none) :
      Advance watch (.disable caller) watch (.disabled caller none)
  | take {caller : Option Nat} {target : Nat} (installed : watch.installed = some target) :
      Advance watch (.disable caller) { watch with installed := none } (.stop caller target)
  | leave {target : Nat} :
      Advance watch (.stop (some target) target) (watch.tell target)
        (.disabled (some target) (some target))
  | await {caller : Option Nat} {target : Nat} (other : caller ≠ some target) :
      Advance watch (.stop caller target) (watch.tell target) (.join caller target)
  | finish {caller : Option Nat} {target : Nat} (ended : watch.hasEnded target = true) :
      Advance watch (.join caller target) watch (.disabled caller (some target))

theorem Advance.caller?_of_next {watch after : Watch} {call next : Call}
    (advance : watch.Advance call after next) {index : Nat} (caller : next.caller? = some index) :
    call.caller? = some index := by
  cases advance with
  | take installed => exact caller
  | await other => exact caller
  | _ => cases caller

/-- What a call took out it has taken for good. -/
theorem Advance.taken?_next {watch after : Watch} {call next : Call}
    (advance : watch.Advance call after next) {target : Nat} (taken : call.taken? = some target) :
    next.taken? = some target := by
  cases advance with
  | leave => exact taken
  | await other => exact taken
  | finish ended => exact taken
  | _ => cases taken

theorem isCalling_tell {watch : Watch} {index : Nat} (target : Nat)
    (calling : watch.isCalling index = true) : (watch.tell target).isCalling index = true := by
  obtain ⟨watcher, here, inside⟩ := (isCalling_iff_has _ _).mp calling
  refine (isCalling_iff_has _ _).mpr ⟨if target = index then watcher.tell else watcher, ?_, ?_⟩
  · rw [getElem?_tell, here, Option.map_some]
  · split <;> exact inside

/-- A step of a call takes no watcher out of its hook. -/
theorem Advance.isCalling {watch after : Watch} {call next : Call}
    (advance : watch.Advance call after next) {index : Nat} (calling : watch.isCalling index = true) :
    after.isCalling index = true := by
  cases advance with
  | start empty =>
    obtain ⟨watcher, here, inside⟩ := (isCalling_iff_has _ _).mp calling
    obtain ⟨within, _⟩ := List.getElem?_eq_some_iff.mp here
    refine (isCalling_iff_has _ _).mpr ⟨watcher, ?_, inside⟩
    rw [List.getElem?_append_left within]
    exact here
  | leave => exact isCalling_tell _ calling
  | await other => exact isCalling_tell _ calling
  | _ => exact calling

theorem isInstalled_eq_false {watch : Watch} : watch.isInstalled = false ↔ watch.installed = none := by
  unfold isInstalled
  rw [Option.isSome_eq_false_iff, Option.isNone_iff_eq_none]

theorem advance_of_step? {watch after : Watch} {call next : Call}
    (stepped : watch.step? call = some (after, next)) : watch.Advance call after next := by
  cases call with
  | enable caller threshold =>
    by_cases installed : watch.isInstalled = true
    · rw [step?, if_pos installed] at stepped
      cases stepped
      exact .keep installed
    · rw [step?, if_neg installed] at stepped
      cases stepped
      exact .start (isInstalled_eq_false.mp (eq_false_of_ne_true installed))
  | disable caller =>
    cases installed : watch.installed with
    | none =>
      rw [step?, installed] at stepped
      cases stepped
      exact .miss installed
    | some target =>
      rw [step?, installed] at stepped
      cases stepped
      exact .take installed
  | stop caller target =>
    by_cases own : caller = some target
    · subst own
      rw [step?, if_pos rfl] at stepped
      cases stepped
      exact .leave
    · rw [step?, if_neg own] at stepped
      cases stepped
      exact .await own
  | join caller target =>
    by_cases ended : watch.hasEnded target = true
    · rw [step?, if_pos ended] at stepped
      cases stepped
      exact .finish ended
    · rw [step?, if_neg ended] at stepped
      cases stepped
  | enabled fresh => cases stepped
  | disabled caller target => cases stepped

end Watch

/-! ## Part 3 — a step of the whole -/

namespace WatchSystem

variable {before after : WatchSystem}

/-- **In a step, a watcher stays as it is, is told to stop, or makes a step.** -/
theorem watcher_of_step (step : Step before after) {index : Nat} {watcher : Watcher}
    (here : before.watch.watchers[index]? = some watcher) :
    ∃ next, after.watch.watchers[index]? = some next ∧
      (next = watcher ∨ next = watcher.tell ∨ ∃ sight hook, next = watcher.step sight hook) := by
  have same : ∃ next, before.watch.watchers[index]? = some next ∧
      (next = watcher ∨ next = watcher.tell ∨ ∃ sight hook, next = watcher.step sight hook) :=
    ⟨watcher, here, .inl rfl⟩
  obtain ⟨within, _⟩ := List.getElem?_eq_some_iff.mp here
  cases step with
  | enable threshold => exact same
  | disable => exact same
  | enableInHook caller threshold calling free => exact same
  | disableInHook caller calling free => exact same
  | advance place call next watch found stepped =>
    have told (target : Nat) : ∃ next, (before.watch.tell target).watchers[index]? = some next ∧
        (next = watcher ∨ next = watcher.tell ∨ ∃ sight hook, next = watcher.step sight hook) := by
      rw [Watch.getElem?_tell, here]
      refine ⟨_, rfl, ?_⟩
      split
      · exact .inr (.inl rfl)
      · exact .inl rfl
    cases Watch.advance_of_step? stepped with
    | keep installed => exact same
    | start empty =>
      refine ⟨watcher, ?_, .inl rfl⟩
      rw [List.getElem?_append_left within]
      exact here
    | miss empty => exact same
    | take installed => exact same
    | leave => exact told _
    | await other => exact told _
    | finish ended => exact same
  | tick place sight hook free =>
    rw [Watch.getElem?_tick, here]
    refine ⟨_, rfl, ?_⟩
    split
    · exact .inr (.inr ⟨sight, hook, rfl⟩)
    · exact .inl rfl

theorem has_of_step {told : Watcher → Prop} (stays : Watcher.Stays told) (step : Step before after)
    {index : Nat} (has : before.watch.Has index told) : after.watch.Has index told := by
  obtain ⟨watcher, here, holds⟩ := has
  obtain ⟨next, there, rfl | rfl | ⟨sight, hook, rfl⟩⟩ := watcher_of_step step here
  · exact ⟨_, there, holds⟩
  · exact ⟨_, there, stays.tell _ holds⟩
  · exact ⟨_, there, stays.step _ sight hook holds⟩

/-- **What stays so of a watcher stays so however calls and watchers overlap.** -/
theorem has_of_later {told : Watcher → Prop} (stays : Watcher.Stays told)
    (path : ReflTransGen Step before after) {index : Nat} (has : before.watch.Has index told) :
    after.watch.Has index told := by
  induction path with
  | refl => exact has
  | tail _ step ih => exact has_of_step stays step ih

theorem reachable_of_later (reachable : Reachable before) (path : ReflTransGen Step before after) :
    Reachable after := by
  induction path with
  | refl => exact reachable
  | tail _ step ih => exact .step ih step

/-- A call of the hook of a watcher begins in the step between two states. -/
def Begins (index : Nat) (before after : WatchSystem) : Prop :=
  before.watch.isCalling index = false ∧ after.watch.isCalling index = true

theorem not_begins_of_leaving {index : Nat} (leaving : before.watch.Has index Watcher.IsLeaving)
    (step : Step before after) : ¬ Begins index before after := by
  rintro ⟨quiet, calling⟩
  obtain ⟨watcher, here, leaves⟩ := leaving
  obtain ⟨next, there, became⟩ := watcher_of_step step here
  have inside : next.phase.isCalling = true := by
    obtain ⟨found, same, inside⟩ := (Watch.isCalling_iff_has _ _).mp calling
    rw [there] at same
    cases same
    exact inside
  have before_inside : watcher.phase.isCalling = true := by
    rcases became with rfl | rfl | ⟨sight, hook, rfl⟩
    · exact inside
    · exact inside
    · exact Watcher.isCalling_of_leaving leaves sight hook inside
  rw [(Watch.isCalling_iff_has _ _).mpr ⟨watcher, here, before_inside⟩] at quiet
  cases quiet

/-- The call at a place took a watcher out. -/
def HasTaken (system : WatchSystem) (place target : Nat) : Prop :=
  ∃ call, system.calls[place]? = some call ∧ call.taken? = some target

theorem hasTaken_of_later (path : ReflTransGen Step before after) {place target : Nat}
    (taken : before.HasTaken place target) : after.HasTaken place target := by
  induction path with
  | refl => exact taken
  | tail _ step ih =>
    obtain ⟨call, here, took⟩ := ih
    have kept (begun : Call) {calls : List Call} (here : calls[place]? = some call) :
        (calls ++ [begun])[place]? = some call := by
      obtain ⟨within, _⟩ := List.getElem?_eq_some_iff.mp here
      rw [List.getElem?_append_left within]
      exact here
    cases step with
    | enable threshold => exact ⟨call, kept _ here, took⟩
    | disable => exact ⟨call, kept _ here, took⟩
    | enableInHook index threshold calling free => exact ⟨call, kept _ here, took⟩
    | disableInHook index calling free => exact ⟨call, kept _ here, took⟩
    | advance other former next watch there stepped =>
      by_cases same : other = place
      · subst same
        rw [here] at there
        cases there
        have took_next := (Watch.advance_of_step? stepped).taken?_next took
        refine ⟨next, ?_, took_next⟩
        obtain ⟨within, _⟩ := List.getElem?_eq_some_iff.mp here
        exact List.getElem?_set_self within
      · refine ⟨call, ?_, took⟩
        rw [List.getElem?_set_ne same]
        exact here
    | tick index sight hook free => exact ⟨call, here, took⟩

end WatchSystem

end CrashReporter.Hang
