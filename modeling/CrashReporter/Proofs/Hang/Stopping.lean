/-
**A watcher that was taken out is done for good.**

Between taking a watcher out and telling it to stop, nothing is installed, so that another watcher may be
started meanwhile; and a hook may disable its own watcher.

The calls that took a watcher out are counted (`tally`), and four facts hold in every reachable state
(`Sound`):

* every watcher is installed, or exactly one call took it out;
* a watcher was told to stop exactly if the call that took it out has come that far;
* a watcher whose hook is inside a call is inside its hook;
* when a call that disabled a watcher has returned, the watcher has ended, or it is the caller and will look
  no more.

`disabled_for_good` draws the conclusions.
-/

import CrashReporter.Proofs.Hang.Steps

namespace CrashReporter.Hang

open Relation (ReflTransGen)

/-! ## Part 1 — counting calls -/

/-- The number of calls with the given watcher. -/
def tally (watcher? : Call → Option Nat) (calls : List Call) (index : Nat) : Nat :=
  calls.countP fun call => watcher? call = some index

section Tally

variable {watcher? : Call → Option Nat} {calls : List Call} {index : Nat}

theorem tally_pos_iff : 0 < tally watcher? calls index ↔
    ∃ call ∈ calls, watcher? call = some index := by
  unfold tally
  rw [List.countP_pos_iff]
  simp only [decide_eq_true_eq]

/-- A call that begins is not counted. -/
theorem tally_concat {call : Call} (none : watcher? call = none) :
    tally watcher? (calls ++ [call]) index = tally watcher? calls index := by
  unfold tally
  rw [List.countP_append, List.countP_singleton, none]
  rfl

/-- A call that makes a step is counted as what it was before, or as what it is now. -/
theorem tally_set (watcher? : Call → Option Nat) (index : Nat) {place : Nat} {call : Call}
    (here : calls[place]? = some call) (next : Call) :
    tally watcher? (calls.set place next) index + (if watcher? call = some index then 1 else 0) =
      tally watcher? calls index + if watcher? next = some index then 1 else 0 := by
  obtain ⟨within, found⟩ := List.getElem?_eq_some_iff.mp here
  have counted := List.boole_getElem_le_countP
    (p := fun call => decide (watcher? call = some index)) within
  unfold tally
  rw [List.countP_set within]
  rw [found] at counted ⊢
  simp only [decide_eq_true_eq] at counted ⊢
  omega

theorem tally_set_same (index : Nat) {place : Nat} {call next : Call}
    (here : calls[place]? = some call) (same : watcher? next = watcher? call) :
    tally watcher? (calls.set place next) index = tally watcher? calls index := by
  have counted := tally_set watcher? index here next
  rw [same] at counted
  exact Nat.add_right_cancel counted

/-- Two calls with one watcher are counted twice. -/
theorem eq_of_tally_le {first second : Nat} {one other : Call}
    (single : tally Call.taken? calls index ≤ 1) (here : calls[first]? = some one)
    (there : calls[second]? = some other) (one_eq : one.taken? = some index)
    (other_eq : other.taken? = some index) : first = second := by
  by_contra different
  have counted := tally_set Call.taken? index here (.enabled false)
  rw [if_pos one_eq, if_neg (by simp [Call.taken?])] at counted
  have kept : other ∈ calls.set first (.enabled false) := by
    refine List.mem_iff_getElem?.mpr ⟨second, ?_⟩
    rw [List.getElem?_set_ne different]
    exact there
  have still : 0 < tally Call.taken? (calls.set first (.enabled false)) index :=
    tally_pos_iff.mpr ⟨other, kept, other_eq⟩
  omega

end Tally

/-! ## Part 2 — what every step preserves -/

namespace WatchSystem

/-- What holds in every reachable state. -/
structure Sound (system : WatchSystem) : Prop where
  /-- Every watcher is installed, or exactly one call took it out; nothing else is. -/
  held : ∀ index,
    (if system.watch.installed = some index then 1 else 0) +
        tally Call.taken? system.calls index =
      if index < system.watch.watchers.length then 1 else 0
  /-- A watcher was told to stop exactly if the call that took it out has come that far. -/
  told : ∀ index watcher, system.watch.watchers[index]? = some watcher →
    (watcher.stopped = true ↔ 0 < tally Call.stopped? system.calls index)
  /-- A watcher whose hook is inside a call is inside its hook. -/
  inside : ∀ call ∈ system.calls, ∀ index, call.caller? = some index →
    system.watch.isCalling index = true
  /-- When a call that disabled a watcher has returned, the watcher has ended, or is the caller and will
  look no more. -/
  left : ∀ caller target, Call.disabled caller (some target) ∈ system.calls →
    system.watch.Has target Watcher.IsLeaving ∧
      (caller ≠ some target → system.watch.Has target Watcher.HasEnded)

variable {system before after : WatchSystem}

namespace Sound

theorem stopped_le_taken (calls : List Call) (index : Nat) :
    tally Call.stopped? calls index ≤ tally Call.taken? calls index := by
  refine List.countP_mono_left fun call _ stopped => ?_
  rw [decide_eq_true_eq] at stopped ⊢
  exact Call.taken?_of_stopped? stopped

/-- What was not started was not taken out. -/
theorem tally_beyond (sound : Sound system) {index : Nat}
    (beyond : system.watch.watchers.length ≤ index) : tally Call.taken? system.calls index = 0 := by
  have held := sound.held index
  rw [if_neg (Nat.not_lt.mpr beyond)] at held
  omega

theorem lt_of_taken (sound : Sound system) {call : Call} (member : call ∈ system.calls) {index : Nat}
    (taken : call.taken? = some index) : index < system.watch.watchers.length := by
  have counted : 0 < tally Call.taken? system.calls index := tally_pos_iff.mpr ⟨call, member, taken⟩
  by_contra beyond
  rw [sound.tally_beyond (Nat.le_of_not_lt beyond)] at counted
  exact Nat.lt_irrefl _ counted

theorem initial : Sound initial where
  held _ := rfl
  told _ _ here := by cases here
  inside _ member := by cases member
  left _ _ member := by cases member

/-- A call that begins has done nothing yet. -/
theorem begin (sound : Sound system) {call : Call} (untaken : call.taken? = none)
    (inside : ∀ index, call.caller? = some index → system.watch.isCalling index = true) :
    Sound ⟨system.watch, system.calls ++ [call]⟩ where
  held index := by
    rw [tally_concat untaken]
    exact sound.held index
  told index watcher here := by
    have unstopped : call.stopped? = none := by
      cases stopped : call.stopped? with
      | none => rfl
      | some target =>
        rw [Call.taken?_of_stopped? stopped] at untaken
        cases untaken
    rw [tally_concat unstopped]
    exact sound.told index watcher here
  inside other member index caller := by
    rcases List.mem_append.mp member with member | member
    · exact sound.inside other member index caller
    · rw [List.mem_singleton.mp member] at caller
      exact inside index caller
  left caller target member := by
    rcases List.mem_append.mp member with member | member
    · exact sound.left caller target member
    · rw [← List.mem_singleton.mp member] at untaken
      cases untaken

/-- What a call that has returned did to a watcher lasts. -/
theorem left_of_step (sound : Sound before) (step : Step before after) {caller : Option Nat}
    {target : Nat} (member : .disabled caller (some target) ∈ before.calls) :
    after.watch.Has target Watcher.IsLeaving ∧
      (caller ≠ some target → after.watch.Has target Watcher.HasEnded) := by
  obtain ⟨leaving, ended⟩ := sound.left caller target member
  refine ⟨has_of_step Watcher.isLeaving_stays step leaving, fun other => ?_⟩
  exact has_of_step Watcher.hasEnded_stays step (ended other)

theorem tick (sound : Sound system) {place : Nat} (free : ¬ system.isBusy place) (sight : Sight)
    (hook : HookEnd) : Sound ⟨system.watch.tick place sight hook, system.calls⟩ where
  held index := by
    rw [Watch.length_tick]
    exact sound.held index
  told index watcher here := by
    rw [Watch.getElem?_tick] at here
    obtain ⟨former, there, rfl⟩ := Option.map_eq_some_iff.mp here
    rw [← sound.told index former there]
    split
    · rw [Watcher.stopped_step]
    · rfl
  inside call member index caller := by
    have elsewhere : place ≠ index := by
      rintro rfl
      exact free (List.any_eq_true.mpr ⟨call, member, decide_eq_true caller⟩)
    obtain ⟨watcher, here, calling⟩ :=
      (Watch.isCalling_iff_has _ _).mp (sound.inside call member index caller)
    refine (Watch.isCalling_iff_has _ _).mpr ⟨watcher, ?_, calling⟩
    rw [Watch.getElem?_tick, here, Option.map_some, if_neg elsewhere]
  left _ _ member := sound.left_of_step (.tick system place sight hook free) member

section Advance

variable {place : Nat} {call next : Call} {watch : Watch}

theorem held_advance (sound : Sound system) (here : system.calls[place]? = some call)
    (advance : system.watch.Advance call watch next) (index : Nat) :
    (if watch.installed = some index then 1 else 0) +
        tally Call.taken? (system.calls.set place next) index =
      if index < watch.watchers.length then 1 else 0 := by
  have held := sound.held index
  have counted := tally_set Call.taken? index here next
  have same (equal : next.taken? = call.taken?) := tally_set_same index here equal
  cases advance with
  | keep installed =>
    rw [same rfl]
    exact held
  | start empty =>
    rw [empty, if_neg nofun] at held
    rw [same rfl]
    simp only [List.length_append, List.length_singleton, Option.some_inj]
    split_ifs at held ⊢ <;> omega
  | miss empty =>
    rw [same rfl]
    exact held
  | take installed =>
    rw [installed] at held
    rw [if_neg nofun] at counted ⊢
    rw [Nat.zero_add, ← held, Nat.add_comm]
    exact counted
  | leave =>
    rw [same rfl, Watch.length_tell]
    exact held
  | await other =>
    rw [same rfl, Watch.length_tell]
    exact held
  | finish ended =>
    rw [same rfl]
    exact held

theorem told_tell (sound : Sound system) (here : system.calls[place]? = some call) {target : Nat}
    (untold : call.stopped? = none) (aimed : next.stopped? = some target) (index : Nat)
    (watcher : Watcher) (there : (system.watch.tell target).watchers[index]? = some watcher) :
    watcher.stopped = true ↔ 0 < tally Call.stopped? (system.calls.set place next) index := by
  have counted := tally_set Call.stopped? index here next
  rw [untold, aimed, if_neg nofun] at counted
  rw [Watch.getElem?_tell] at there
  obtain ⟨former, found, rfl⟩ := Option.map_eq_some_iff.mp there
  by_cases same : target = index
  · rw [if_pos (congrArg some same)] at counted
    rw [if_pos same]
    exact iff_of_true rfl (by omega)
  · rw [if_neg (fun equal => same (Option.some_inj.mp equal))] at counted
    rw [if_neg same, sound.told index former found]
    omega

theorem told_advance (sound : Sound system) (here : system.calls[place]? = some call)
    (advance : system.watch.Advance call watch next) (index : Nat) (watcher : Watcher)
    (there : watch.watchers[index]? = some watcher) :
    watcher.stopped = true ↔ 0 < tally Call.stopped? (system.calls.set place next) index := by
  have same (equal : next.stopped? = call.stopped?) := tally_set_same index here equal
  cases advance with
  | keep installed =>
    rw [same rfl]
    exact sound.told index watcher there
  | start empty =>
    rw [same rfl]
    by_cases old : index < system.watch.watchers.length
    · rw [List.getElem?_append_left old] at there
      exact sound.told index watcher there
    · have beyond := Nat.le_of_not_lt old
      rw [List.getElem?_append_right beyond] at there
      have fresh : watcher = .fresh _ := List.mem_singleton.mp (List.mem_of_getElem? there)
      have untaken := sound.tally_beyond beyond
      have untold := stopped_le_taken system.calls index
      rw [fresh]
      exact iff_of_false Bool.false_ne_true (by omega)
  | miss empty =>
    rw [same rfl]
    exact sound.told index watcher there
  | take installed =>
    rw [same rfl]
    exact sound.told index watcher there
  | leave => exact sound.told_tell here rfl rfl index watcher there
  | await other => exact sound.told_tell here rfl rfl index watcher there
  | finish ended =>
    rw [same rfl]
    exact sound.told index watcher there

theorem inside_advance (sound : Sound system) (here : system.calls[place]? = some call)
    (advance : system.watch.Advance call watch next) (other : Call)
    (member : other ∈ system.calls.set place next) (index : Nat)
    (caller : other.caller? = some index) : watch.isCalling index = true := by
  have before : system.watch.isCalling index = true := by
    rcases List.mem_or_eq_of_mem_set member with member | rfl
    · exact sound.inside other member index caller
    · exact sound.inside call (List.mem_of_getElem? here) index (advance.caller?_of_next caller)
  exact advance.isCalling before

theorem left_advance (sound : Sound system) (here : system.calls[place]? = some call)
    (advance : system.watch.Advance call watch next)
    (step : Step system ⟨watch, system.calls.set place next⟩) (caller : Option Nat) (target : Nat)
    (member : .disabled caller (some target) ∈ system.calls.set place next) :
    watch.Has target Watcher.IsLeaving ∧
      (caller ≠ some target → watch.Has target Watcher.HasEnded) := by
  rcases List.mem_or_eq_of_mem_set member with member | now
  · exact sound.left_of_step step member
  · have former := List.mem_of_getElem? here
    cases advance with
    | leave =>
      cases now
      obtain ⟨watcher, there, calling⟩ :=
        (Watch.isCalling_iff_has _ _).mp (sound.inside _ former target rfl)
      refine ⟨⟨watcher.tell, ?_, .inr ⟨rfl, .inr ?_⟩⟩, fun other => absurd rfl other⟩
      · rw [Watch.getElem?_tell, there, Option.map_some, if_pos rfl]
      · exact Watcher.calling_of_isCalling calling
    | finish ended =>
      cases now
      have within := sound.lt_of_taken former rfl
      have has : system.watch.Has target Watcher.HasEnded := by
        refine ⟨system.watch.watchers[target], List.getElem?_eq_getElem within, ?_⟩
        unfold Watch.hasEnded at ended
        rw [List.getElem?_eq_getElem within] at ended
        exact of_decide_eq_true (p := _ = Phase.ended) ended
      obtain ⟨watcher, there, holds⟩ := has
      exact ⟨⟨watcher, there, .inl holds⟩, fun _ => ⟨watcher, there, holds⟩⟩
    | _ => cases now

end Advance

theorem step (sound : Sound before) (step : Step before after) : Sound after := by
  cases step with
  | enable threshold => exact sound.begin rfl (fun _ caller => by cases caller)
  | disable => exact sound.begin rfl (fun _ caller => by cases caller)
  | enableInHook index threshold calling free =>
    refine sound.begin rfl fun other caller => ?_
    cases caller
    exact calling
  | disableInHook index calling free =>
    refine sound.begin rfl fun other caller => ?_
    cases caller
    exact calling
  | advance place call next watch here stepped =>
    have advance := Watch.advance_of_step? stepped
    exact {
      held := sound.held_advance here advance
      told := sound.told_advance here advance
      inside := sound.inside_advance here advance
      left := sound.left_advance here advance (.advance before place call next watch here stepped) }
  | tick place sight hook free => exact sound.tick free sight hook

end Sound

theorem sound_of_reachable (reachable : Reachable system) : Sound system := by
  induction reachable with
  | initial => exact .initial
  | step _ step ih => exact ih.step step

/-! ## Part 3 — what follows -/

/-- A watcher was not told to stop. -/
def IsOn (system : WatchSystem) (index : Nat) : Prop :=
  system.watch.Has index fun watcher => watcher.stopped = false

namespace Sound

theorem tally_le_one (sound : Sound system) (index : Nat) :
    tally Call.taken? system.calls index ≤ 1 := by
  have held := sound.held index
  split_ifs at held <;> omega

theorem isOn_of_untold (sound : Sound system) {index : Nat}
    (within : index < system.watch.watchers.length)
    (untold : tally Call.stopped? system.calls index = 0) : system.IsOn index := by
  have here := List.getElem?_eq_getElem within
  refine ⟨_, here, eq_false_of_ne_true fun stopped => ?_⟩
  have told := (sound.told index _ here).mp stopped
  omega

/-- The call that takes a watcher out is the only one that can tell it to stop. -/
theorem untold_of_stop (sound : Sound system) {caller : Option Nat} {index : Nat}
    (member : .stop caller index ∈ system.calls) : tally Call.stopped? system.calls index = 0 := by
  by_contra told
  obtain ⟨other, present, stopped⟩ := tally_pos_iff.mp (Nat.pos_of_ne_zero told)
  obtain ⟨first, here⟩ := List.mem_iff_getElem?.mp member
  obtain ⟨second, there⟩ := List.mem_iff_getElem?.mp present
  obtain rfl := eq_of_tally_le (sound.tally_le_one index) here there rfl
    (Call.taken?_of_stopped? stopped)
  rw [here] at there
  cases there
  cases stopped

/-- **A watcher was not told to stop exactly if it is installed, or a call took it out and is about to
tell it.** -/
theorem isOn_iff (sound : Sound system) (index : Nat) :
    system.IsOn index ↔
      system.watch.installed = some index ∨ ∃ caller, .stop caller index ∈ system.calls := by
  have held := sound.held index
  constructor
  · rintro ⟨watcher, here, unstopped⟩
    by_contra neither
    obtain ⟨away, unsent⟩ := not_or.mp neither
    obtain ⟨within, _⟩ := List.getElem?_eq_some_iff.mp here
    rw [if_neg away, if_pos within, Nat.zero_add] at held
    obtain ⟨call, member, taken⟩ := tally_pos_iff.mp (Nat.lt_of_lt_of_eq Nat.one_pos held.symm)
    have stopped : call.stopped? = some index := by
      cases call with
      | stop caller target =>
        cases taken
        exact absurd ⟨caller, member⟩ unsent
      | join caller target => exact taken
      | disabled caller target => exact taken
      | _ => cases taken
    have told := (sound.told index watcher here).mpr (tally_pos_iff.mpr ⟨call, member, stopped⟩)
    rw [unstopped] at told
    cases told
  · rintro (installed | ⟨caller, member⟩)
    · rw [if_pos installed] at held
      have within : index < system.watch.watchers.length := by
        by_contra beyond
        rw [if_neg beyond] at held
        omega
      have untaken : tally Call.taken? system.calls index = 0 := by
        rw [if_pos within] at held
        omega
      have untold := stopped_le_taken system.calls index
      exact sound.isOn_of_untold within (by omega)
    · exact sound.isOn_of_untold (sound.lt_of_taken member rfl) (sound.untold_of_stop member)

theorem not_installed_of_stopped (sound : Sound system) {index : Nat}
    (stopped : system.watch.Has index fun watcher => watcher.stopped = true) :
    system.watch.installed ≠ some index := by
  intro installed
  obtain ⟨watcher, here, on⟩ := (sound.isOn_iff index).mpr (.inl installed)
  obtain ⟨_, there, off⟩ := stopped
  rw [here] at there
  cases there
  rw [on] at off
  cases off

end Sound

/-- A call that enables starts a watcher exactly if none is installed. -/
theorem step?_enable (watch : Watch) (caller : Option Nat) (threshold : Nat) :
    ∃ fresh after, watch.step? (.enable caller threshold) = some (after, .enabled fresh) ∧
      (fresh = true ↔ watch.installed = none) ∧
      after = if fresh then
          ⟨watch.watchers ++ [⟨threshold, false, .starting⟩], some watch.watchers.length⟩
        else watch := by
  cases installed : watch.isInstalled with
  | false =>
    have empty := Watch.isInstalled_eq_false.mp installed
    refine ⟨true, _, ?_, iff_of_true rfl empty, rfl⟩
    rw [Watch.step?, if_neg (ne_true_of_eq_false installed)]
    rfl
  | true =>
    refine ⟨false, watch, ?_, iff_of_false Bool.false_ne_true fun empty => ?_, rfl⟩
    · rw [Watch.step?, if_pos installed]
    · rw [Watch.isInstalled_eq_false.mpr empty] at installed
      cases installed

/-- **A watcher that was taken out is done for good**, however calls, watchers and hooks overlap.

When a call that disabled a watcher has returned, the watcher has ended, or it is the caller and begins no
call of its hook any more. While nobody is disabling, the watchers that were not told to stop are the
installed one. A watcher is taken out by one call only. A call that enables tells whether nothing was
installed, and starts a watcher then, which makes its own detector. And a watcher that was told to stop
is never installed again. -/
theorem disabled_for_good (reachable : Reachable system) :
    (∀ caller target, .disabled caller (some target) ∈ system.calls →
      (caller ≠ some target → ∀ later, ReflTransGen Step system later →
        later.watch.Has target Watcher.HasEnded) ∧
      ∀ before after, ReflTransGen Step system before → Step before after →
        ¬ Begins target before after) ∧
    ((∀ call ∈ system.calls, ¬ call.IsDisabling) → ∀ index,
      system.IsOn index ↔ system.watch.installed = some index) ∧
    (∀ later first second target, ReflTransGen Step system later →
      system.HasTaken first target → later.HasTaken second target → first = second) ∧
    (∀ caller threshold,
      (∃ fresh after, system.watch.step? (.enable caller threshold) = some (after, .enabled fresh) ∧
        (fresh = true ↔ system.watch.installed = none) ∧
        after = if fresh then
            ⟨system.watch.watchers ++ [⟨threshold, false, .starting⟩],
              some system.watch.watchers.length⟩
          else system.watch) ∧
      ∀ sight hook, (⟨threshold, false, .starting⟩ : Watcher).step sight hook =
        ⟨threshold, false, .waiting (.start threshold sight)⟩) ∧
    ∀ index later, (system.watch.Has index fun watcher => watcher.stopped = true) →
      ReflTransGen Step system later →
        (later.watch.Has index fun watcher => watcher.stopped = true) ∧
          later.watch.installed ≠ some index := by
  have sound := sound_of_reachable reachable
  refine ⟨fun caller target member => ⟨fun other later path => ?_, fun before after path step => ?_⟩,
    fun settled index => ?_, fun later first second target path one two => ?_,
    fun caller threshold => ⟨step?_enable _ caller threshold, fun _ _ => rfl⟩,
    fun index later stopped path => ?_⟩
  · exact has_of_later Watcher.hasEnded_stays path ((sound.left caller target member).2 other)
  · have leaving := has_of_later Watcher.isLeaving_stays path (sound.left caller target member).1
    exact not_begins_of_leaving leaving step
  · rw [sound.isOn_iff, or_iff_left_iff_imp]
    rintro ⟨caller, member⟩
    exact absurd trivial (settled _ member)
  · have later_sound := sound_of_reachable (reachable_of_later reachable path)
    obtain ⟨call, here, took⟩ := hasTaken_of_later path one
    obtain ⟨other, there, took_other⟩ := two
    exact eq_of_tally_le (later_sound.tally_le_one target) here there took took_other
  · have still := has_of_later Watcher.stopped_stays path stopped
    have later_sound := sound_of_reachable (reachable_of_later reachable path)
    exact ⟨still, later_sound.not_installed_of_stopped still⟩

/-! A hook that takes its own watcher out, while another watcher is started and taken out. -/

/-- The first watcher is still inside its hook; the second has ended. -/
def handover : WatchSystem :=
  ⟨⟨[⟨5, true, .calling ⟨5, 0, 0, true⟩⟩, ⟨7, true, .ended⟩], none⟩,
    [.enabled true, .disabled (some 0) (some 0), .enabled true, .disabled none (some 1)]⟩

theorem reachable_handover : Reachable handover := by
  have enabling := Reachable.step .initial (.enable _ 5)
  have enabled := Reachable.step enabling (.advance _ 0 _ _ _ rfl rfl)
  have waiting := Reachable.step enabled (.tick _ 0 ⟨0, 0⟩ .returned (by decide))
  have looking := Reachable.step waiting (.tick _ 0 ⟨0, 6⟩ .returned (by decide))
  have alarmed := Reachable.step looking (.tick _ 0 ⟨0, 6⟩ .returned (by decide))
  have cleared := Reachable.step alarmed (.tick _ 0 ⟨0, 6⟩ .returned (by decide))
  have calling := Reachable.step cleared (.tick _ 0 ⟨0, 6⟩ .returned (by decide))
  have disabling := Reachable.step calling (.disableInHook _ 0 (by decide) (by decide))
  have taken := Reachable.step disabling (.advance _ 1 _ _ _ rfl rfl)
  -- nothing is installed, although the first watcher was not told to stop yet
  have again := Reachable.step taken (.enable _ 7)
  have second := Reachable.step again (.advance _ 2 _ _ _ rfl rfl)
  have left := Reachable.step second (.advance _ 1 _ _ _ rfl rfl)
  have outside := Reachable.step left (.disable _)
  have takenOut := Reachable.step outside (.advance _ 3 _ _ _ rfl rfl)
  have told := Reachable.step takenOut (.advance _ 3 _ _ _ rfl rfl)
  have started := Reachable.step told (.tick _ 1 ⟨0, 8⟩ .returned (by decide))
  have ended := Reachable.step started (.tick _ 1 ⟨0, 8⟩ .returned (by decide))
  exact .step ended (.advance _ 3 _ _ _ rfl rfl)

/-- The first watcher calls its hook no more, the second has ended, and none is on. -/
theorem disabled_for_good_handover : Reachable handover ∧
    (∀ before after, ReflTransGen Step handover before → Step before after →
      ¬ Begins 0 before after) ∧
    (∀ later, ReflTransGen Step handover later → later.watch.Has 1 Watcher.HasEnded) ∧
    (∀ index, ¬ handover.IsOn index) ∧
    ∀ place, handover.HasTaken place 1 → place = 3 := by
  obtain ⟨left, settled, once, _, _⟩ := disabled_for_good reachable_handover
  have returned : ∀ call ∈ handover.calls, ¬ call.IsDisabling := by
    unfold handover
    simp only [List.forall_mem_cons, Call.IsDisabling, not_false_eq_true, true_and]
    exact fun call member => absurd member List.not_mem_nil
  refine ⟨reachable_handover, (left (some 0) 0 (by decide)).2,
    (left none 1 (by decide)).1 (by decide), fun index on => ?_, fun place taken => ?_⟩
  · cases (settled returned index).mp on
  · exact once _ place 3 1 .refl taken ⟨_, rfl, rfl⟩

end WatchSystem

end CrashReporter.Hang
