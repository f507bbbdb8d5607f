/-
**A closed client keeps no monitor.**

Two facts are read and changed in separate steps by any number of calls: whether the client is closed, and
which monitor is installed. So a monitor may be installed after the client was closed, and a call may take
out a monitor that another one installed. What holds in between is that somebody still owes to take the
monitor out (`Position.Owes`): the call that closed the client, or the one that installed the monitor.

* `owes_of_lingering`: while a monitor is installed in a closed client, some call owes to take it out;
* `refusing_of_later`: a call that has installed a monitor and then read that the client is closed can
  only end by being refused;
* `nothing_installed_once_closed`: both for calls that overlap in any way.
-/

import CrashReporter.Hang.Lifecycle
import Mathlib.Logic.Relation
import Mathlib.Tactic.Common

namespace CrashReporter.Hang

open Relation (ReflTransGen)

variable {μ : Type}

namespace Position

/-- The call is to enable a monitor, and has not returned. -/
def IsEnabling : Position μ → Prop
  | .readClosed _ | .install _ | .readClosedAgain | .takeAndRefuse => True
  | _ => False

/-- The call is to close the client, and has not returned. -/
def IsClosing : Position μ → Prop
  | .markClosed | .takeToClose => True
  | _ => False

/-- The call will take the monitor out of a closed client. -/
def Owes : Position μ → Prop
  | .readClosedAgain | .takeAndRefuse | .takeToClose => True
  | _ => False

theorem Owes.in_flight {position : Position μ} (owes : position.Owes) :
    position.IsEnabling ∨ position.IsClosing := by
  cases position with
  | readClosedAgain => exact .inl trivial
  | takeAndRefuse => exact .inl trivial
  | takeToClose => exact .inr trivial
  | _ => exact owes.elim

/-- The call has installed a monitor and read then that the client is closed. -/
def IsRefusing (position : Position μ) : Prop :=
  position = .takeAndRefuse ∨ position = .returned .refused

end Position

/-- The client is closed, and a monitor is installed still. -/
def Lifecycle.Lingers (lifecycle : Lifecycle μ) : Prop :=
  lifecycle.closed = true ∧ lifecycle.installed.isSome = true

/-! ### One step of a call -/

section Step

variable {lifecycle : Lifecycle μ} {position : Position μ}

/-- If a step leaves a monitor in a closed client, the call that made it owes now, or the client was so
before and the call owed nothing. -/
theorem lingering_step (lingers : (lifecycle.step position).1.Lingers) :
    (lifecycle.step position).2.Owes ∨ lifecycle.Lingers ∧ ¬ position.Owes := by
  cases position with
  | readClosed monitor => exact .inr ⟨lingers, id⟩
  | install monitor =>
    by_cases present : lifecycle.installed.isSome = true
    · rw [Lifecycle.step, if_pos present] at lingers
      exact .inr ⟨lingers, id⟩
    · rw [Lifecycle.step, if_neg present]
      exact .inl trivial
  | readClosedAgain =>
    have closed : lifecycle.closed = true := lingers.1
    rw [Lifecycle.step, if_pos closed]
    exact .inl trivial
  | takeAndRefuse => cases lingers.2
  | takeToDisable => cases lingers.2
  | takeToClose => cases lingers.2
  | markClosed =>
    by_cases closed : lifecycle.closed = true
    · exact .inr ⟨⟨closed, lingers.2⟩, id⟩
    · rw [Lifecycle.step, if_neg closed]
      exact .inl trivial
  | returned result => exact .inr ⟨lingers, id⟩

/-- A call that is refusing goes on refusing. -/
theorem refusing_step (refusing : position.IsRefusing) :
    (lifecycle.step position).2.IsRefusing := by
  rcases refusing with rfl | rfl
  · exact .inr rfl
  · exact .inr rfl

end Step

/-! ### Any number of calls -/

namespace System

variable {system later : System μ}

theorem advance_some {index : Nat} {position : Position μ}
    (here : system.calls[index]? = some position) :
    system.advance index =
      ⟨(system.lifecycle.step position).1,
        system.calls.set index (system.lifecycle.step position).2⟩ := by
  unfold advance
  rw [here]

theorem advance_none {index : Nat} (none : system.calls[index]? = none) :
    system.advance index = system := by
  unfold advance
  rw [none]

/-- A call that makes a step is where that step leads. -/
theorem calls_advance {index : Nat} {position : Position μ}
    (here : system.calls[index]? = some position) :
    (system.advance index).calls[index]? = some (system.lifecycle.step position).2 := by
  obtain ⟨within, _⟩ := List.getElem?_eq_some_iff.mp here
  rw [advance_some here, List.getElem?_set_self within]

/-- **While a monitor is installed in a closed client, some call owes to take it out.** -/
theorem owes_of_lingering (reachable : Reachable system) (lingers : system.lifecycle.Lingers) :
    ∃ position ∈ system.calls, position.Owes := by
  induction reachable with
  | initial => cases lingers.2
  | @step before after _ step ih =>
    -- A call that begins changes nothing that those under way owe.
    have begin (call : Position μ) (lingers : before.lifecycle.Lingers) :
        ∃ position ∈ before.calls ++ [call], position.Owes := by
      obtain ⟨position, member, owes⟩ := ih lingers
      exact ⟨position, List.mem_append_left _ member, owes⟩
    cases step with
    | enable monitor => exact begin _ lingers
    | disable => exact begin _ lingers
    | close => exact begin _ lingers
    | advance index =>
      cases here : before.calls[index]? with
      | none =>
        rw [advance_none here] at lingers ⊢
        exact ih lingers
      | some position =>
        obtain ⟨within, _⟩ := List.getElem?_eq_some_iff.mp here
        rw [advance_some here] at lingers ⊢
        rcases lingering_step lingers with owes | ⟨lingered, spared⟩
        · exact ⟨_, List.mem_set within _, owes⟩
        · -- Whoever owed before is another call, and still there.
          obtain ⟨other, member, owes⟩ := ih lingered
          obtain ⟨place, there⟩ := List.mem_iff_getElem?.mp member
          have elsewhere : index ≠ place := by
            rintro rfl
            rw [here] at there
            obtain rfl := Option.some.inj there
            exact spared owes
          refine ⟨other, List.mem_iff_getElem?.mpr ⟨place, ?_⟩, owes⟩
          rw [List.getElem?_set_ne elsewhere]
          exact there

/-- The call with an index is refusing. -/
def Refusing (system : System μ) (index : Nat) : Prop :=
  ∃ position, system.calls[index]? = some position ∧ position.IsRefusing

theorem refusing_of_step {index : Nat} (step : Step system later)
    (refusing : system.Refusing index) : later.Refusing index := by
  obtain ⟨position, here, refusal⟩ := refusing
  have begin (call : Position μ) : (system.calls ++ [call])[index]? = some position := by
    obtain ⟨within, _⟩ := List.getElem?_eq_some_iff.mp here
    rw [List.getElem?_append_left within]
    exact here
  cases step with
  | enable monitor => exact ⟨position, begin _, refusal⟩
  | disable => exact ⟨position, begin _, refusal⟩
  | close => exact ⟨position, begin _, refusal⟩
  | advance other =>
    by_cases same : other = index
    · subst same
      exact ⟨_, calls_advance here, refusing_step refusal⟩
    · refine ⟨position, ?_, refusal⟩
      cases there : system.calls[other]? with
      | none =>
        rw [advance_none there]
        exact here
      | some moved =>
        rw [advance_some there, List.getElem?_set_ne same]
        exact here

/-- **A call that is refusing is refusing ever after.** -/
theorem refusing_of_later {index : Nat} (path : ReflTransGen Step system later)
    (refusing : system.Refusing index) : later.Refusing index := by
  induction path with
  | refl => exact refusing
  | tail _ step ih => exact refusing_of_step step ih

/-- **Once a client is closed and all calls to enable or close it have returned, no monitor is
installed**, however the calls overlapped. And a call to enable that reads for the second time whether
the client is closed, and reads that it is, is refused: it ends in no other way, and its own next step
takes the monitor out and ends it. -/
theorem nothing_installed_once_closed :
    (∀ system : System μ, Reachable system → system.lifecycle.closed = true →
      (∀ position ∈ system.calls, ¬ position.IsEnabling ∧ ¬ position.IsClosing) →
        system.lifecycle.installed = none) ∧
    ∀ (system : System μ) (index : Nat), system.calls[index]? = some .readClosedAgain →
      system.lifecycle.closed = true →
        ∀ later, ReflTransGen Step (system.advance index) later →
          later.calls[index]? = some (.returned .refused) ∨
          later.calls[index]? = some .takeAndRefuse ∧
            (later.advance index).lifecycle.installed = none ∧
            (later.advance index).calls[index]? = some (.returned .refused) := by
  constructor
  · intro system reachable closed settled
    by_contra present
    have lingers : system.lifecycle.Lingers := ⟨closed, Option.isSome_iff_ne_none.mpr present⟩
    obtain ⟨position, member, owes⟩ := owes_of_lingering reachable lingers
    rcases owes.in_flight with enabling | closing
    · exact (settled position member).1 enabling
    · exact (settled position member).2 closing
  · intro system index reading closed later path
    have refused : (system.advance index).Refusing index := by
      refine ⟨_, calls_advance reading, ?_⟩
      rw [Lifecycle.step, if_pos closed]
      exact .inl rfl
    obtain ⟨position, here, rfl | rfl⟩ := refusing_of_later path refused
    · refine .inr ⟨here, ?_, calls_advance here⟩
      rw [advance_some here]
      rfl
    · exact .inl here

/-! A call that closes the client between the first read of one that enables it and its installing. -/

/-- One call to enable and one to close, once they have made the given steps. -/
def race (steps : List Nat) : System Unit :=
  steps.foldl advance ⟨.fresh, [.enable (), .close]⟩

theorem reachable_race (steps : List Nat) : Reachable (race steps) := by
  have advanced (steps : List Nat) (system : System Unit) (reachable : Reachable system) :
      Reachable (steps.foldl advance system) := by
    induction steps generalizing system with
    | nil => exact reachable
    | cons index steps ih => exact ih _ (.step reachable (.advance system index))
  exact advanced steps _ (.step (.step .initial (.enable _ ())) (.close _))

/-- The call that enables finds out and takes its monitor out again. -/
theorem nothing_installed_once_closed_race :
    ((race [0, 1, 1, 0]).lifecycle = ⟨true, some ()⟩ ∧
      (race [0, 1, 1, 0]).calls[0]? = some .readClosedAgain ∧
      ((race [0, 1, 1, 0, 0]).calls[0]? = some (.returned .refused) ∨
        (race [0, 1, 1, 0, 0]).calls[0]? = some .takeAndRefuse ∧
          (race [0, 1, 1, 0, 0, 0]).lifecycle.installed = none ∧
          (race [0, 1, 1, 0, 0, 0]).calls[0]? = some (.returned .refused))) ∧
    (race [0, 1, 1, 0, 0, 0]).calls = [.returned .refused, .returned .closed] ∧
      (race [0, 1, 1, 0, 0, 0]).lifecycle.installed = none := by
  have settled : ∀ position ∈ (race [0, 1, 1, 0, 0, 0]).calls,
      ¬ position.IsEnabling ∧ ¬ position.IsClosing := by
    intro position member
    change position ∈ [Position.returned .refused, Position.returned .closed] at member
    simp only [List.mem_cons, List.not_mem_nil, or_false] at member
    rcases member with rfl | rfl
    · exact ⟨id, id⟩
    · exact ⟨id, id⟩
  exact ⟨⟨rfl, rfl, nothing_installed_once_closed.2 (race [0, 1, 1, 0]) 0 rfl rfl _ .refl⟩, rfl,
    nothing_installed_once_closed.1 _ (reachable_race _) rfl settled⟩

end System

end CrashReporter.Hang
