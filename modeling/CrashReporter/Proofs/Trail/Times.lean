/-
**The times of a trail: running maxima of the readings of its clock.**

The entries of a trail change when a breadcrumb is appended and when the trail is cleared. `additions` are
the breadcrumbs that were appended since it was last cleared, each with its reading of the clock, and
`Dated` gives to each one the maximum of the readings up to its own: breadcrumbs that no longer fit
count, and the times that breadcrumbs come with do not.

* `append_dates`: appending looks at the last entry only, and that is enough, because its time is the
  maximum of all readings since the trail was cleared;
* `led_of_course`: requests of any kind, with callbacks that make further ones, act on the entries by such changes
  alone, and their readings are readings of the clock in its order.

`times_after_changes`: after any changes, the entries are the latest of the dated breadcrumbs, as many as fit.
Their times never decrease, and the last one is not before its own reading, whichever way the clock goes.
-/

import CrashReporter.Proofs.Instant.Order
import CrashReporter.Proofs.Trail.Contents
import Mathlib.Data.List.MinMax

namespace CrashReporter.Trail

open Program (Runs)

variable {κ ν : Type}

/-! ### Changes -/

/-- What changes the entries of a trail. -/
inductive Change where
  /-- Adds a breadcrumb at a reading of the clock. -/
  | append (now : Instant) (breadcrumb : Breadcrumb)
  | clear

/-- Makes a change. -/
def change (trail : Trail κ) : Change → Trail κ
  | .append now breadcrumb => trail.append now breadcrumb
  | .clear => trail.clear

/-- A breadcrumb that was added, and the reading of the clock at which it was. -/
structure Addition where
  reading : Instant
  breadcrumb : Breadcrumb

/-- The additions since the trail was last cleared, after one more change. -/
def Change.extend (additions : List Addition) : Change → List Addition
  | .append now breadcrumb => additions ++ [⟨now, breadcrumb⟩]
  | .clear => []

/-- The additions since the trail was last cleared. -/
def additions (changes : List Change) : List Addition :=
  changes.foldl Change.extend []

/-! ### Running maxima -/

/-- The time of a breadcrumb that follows others, at a reading of the clock. -/
def stamp (entries : List Breadcrumb) (now : Instant) : Instant :=
  match entries.getLast? with
  | some last => Instant.latest last.timestamp now
  | none => now

/-- Breadcrumbs as they were added one after the other, each with the maximum of the readings up to its own
as its time. -/
structure Dated (additions : List Addition) (dated : List Breadcrumb) : Prop where
  bare : dated.map Breadcrumb.bare = additions.map fun addition => addition.breadcrumb.bare
  maximum : ∀ place entry, dated[place]? = some entry →
    ((additions.take (place + 1)).map Addition.reading).maximum = entry.timestamp

namespace Dated

variable {additions : List Addition} {dated : List Breadcrumb}

theorem length_eq (h : Dated additions dated) : dated.length = additions.length := by
  simpa using congrArg List.length h.bare

theorem nil : Dated [] [] := ⟨rfl, by simp⟩

/-- The last one has the maximum of all readings. -/
theorem maximum_of_getLast? (h : Dated additions dated) {last : Breadcrumb}
    (ends : dated.getLast? = some last) :
    (additions.map Addition.reading).maximum = last.timestamp := by
  have held : 0 < dated.length := List.length_pos_of_mem (List.mem_of_getLast? ends)
  have place : dated.length - 1 + 1 = additions.length := by
    rw [← h.length_eq]
    omega
  have maximum := h.maximum (dated.length - 1) last (by rw [← List.getLast?_eq_getElem?, ends])
  rwa [place, List.take_length] at maximum

/-- The time that another one gets is the maximum of all readings and its own. -/
theorem stamp_eq_max (h : Dated additions dated) (now : Instant) :
    (stamp dated now : WithBot Instant) = max (additions.map Addition.reading).maximum now := by
  unfold stamp
  cases ends : dated.getLast? with
  | some last =>
    rw [h.maximum_of_getLast? ends, ← WithBot.coe_max]
    exact congrArg WithBot.some (Instant.latest_eq_max _ _)
  | none =>
    have unused : additions = [] := by
      rw [← List.length_eq_zero_iff, ← h.length_eq, List.getLast?_eq_none_iff.mp ends, List.length_nil]
    rw [unused, List.map_nil, List.maximum_nil, max_eq_right bot_le]

theorem concat (h : Dated additions dated) (now : Instant) (breadcrumb : Breadcrumb) :
    Dated (additions ++ [⟨now, breadcrumb⟩])
      (dated ++ [{ breadcrumb with timestamp := stamp dated now }]) := by
  refine ⟨?_, ?_⟩
  · rw [List.map_append, List.map_append, h.bare]
    rfl
  · intro place entry found
    by_cases earlier : place < dated.length
    · rw [List.getElem?_append_left earlier] at found
      rw [List.take_append_of_le_length (by rw [← h.length_eq]; omega)]
      exact h.maximum place entry found
    · obtain ⟨within, -⟩ := List.getElem?_eq_some_iff.mp found
      rw [List.length_append, List.length_singleton] at within
      obtain rfl : place = dated.length := by omega
      rw [List.getElem?_concat_length, Option.some_inj] at found
      rw [List.take_of_length_le (by simp [h.length_eq]), List.map_append, List.map_singleton,
        List.maximum_concat, ← h.stamp_eq_max, ← found]

/-- The times never decrease. -/
theorem pairwise (h : Dated additions dated) :
    (dated.map Breadcrumb.timestamp).Pairwise (· ≤ ·) := by
  rw [List.pairwise_map, List.pairwise_iff_getElem]
  intro place later held heldLater before
  rw [← WithBot.coe_le_coe, ← h.maximum place _ (List.getElem?_eq_getElem held),
    ← h.maximum later _ (List.getElem?_eq_getElem heldLater)]
  have more : additions.take (place + 1) ⊆ additions.take (later + 1) :=
    (List.take_sublist_take_left (by omega)).subset
  exact List.maximum_mono (List.map_subset _ more)

end Dated

/-! ### What changes do to the entries -/

/-- The entries are the latest of the dated additions, as many as fit. -/
def Dates (trail : Trail κ) (additions : List Addition) : Prop :=
  ∃ dated, Dated additions dated ∧ trail.entries = dated.rtake trail.capacity

theorem ofCapacity_dates (κ : Type) (capacity : Nat) : (ofCapacity capacity : Trail κ).Dates [] :=
  ⟨[], .nil, (List.rtake_nil _).symm⟩

theorem getLast?_rtake {α : Type} (elements : List α) {bound : Nat} (positive : 0 < bound) :
    (elements.rtake bound).getLast? = elements.getLast? := by
  unfold List.rtake
  rw [List.getLast?_drop]
  split
  · rename_i outside
    have none : elements = [] := List.length_eq_zero_iff.mp (by omega)
    rw [none, List.getLast?_nil]
  · rfl

/-- Only the last entry decides the next time, and a bounded list keeps that one. -/
theorem stamp_rtake (entries : List Breadcrumb) {bound : Nat} (positive : 0 < bound) (now : Instant) :
    stamp (entries.rtake bound) now = stamp entries now := by
  unfold stamp
  rw [getLast?_rtake entries positive]

/-- **Appending keeps the running maxima.** -/
theorem append_dates {trail : Trail κ} {additions : List Addition} (h : trail.Dates additions)
    (now : Instant) (breadcrumb : Breadcrumb) :
    (trail.append now breadcrumb).Dates (additions ++ [⟨now, breadcrumb⟩]) := by
  obtain ⟨dated, maxima, entries⟩ := h
  obtain ⟨bound, capacity⟩ := Nat.exists_eq_add_one.mpr trail.capacity_pos
  refine ⟨_, maxima.concat now breadcrumb, ?_⟩
  have same : stamp trail.entries now = stamp dated now := by
    rw [entries, stamp_rtake dated trail.capacity_pos]
  show _ ++ [{ breadcrumb with timestamp := stamp trail.entries now }] =
    (dated ++ [_]).rtake trail.capacity
  rw [capacity] at entries
  rw [same, capacity, List.rtake_concat_succ, entries, tail_rtake]

theorem change_dates {trail : Trail κ} {additions : List Addition} (h : trail.Dates additions)
    (one : Change) : (trail.change one).Dates (one.extend additions) := by
  cases one with
  | append now breadcrumb => exact append_dates h now breadcrumb
  | clear => exact ⟨[], .nil, (List.rtake_nil _).symm⟩

theorem foldl_change_dates {trail : Trail κ} {additions : List Addition} (h : trail.Dates additions)
    (changes : List Change) :
    (changes.foldl change trail).Dates (changes.foldl Change.extend additions) := by
  induction changes generalizing trail additions with
  | nil => exact h
  | cons one changes ih => exact ih (change_dates h one)

theorem foldl_change_capacity (trail : Trail κ) (changes : List Change) :
    (changes.foldl change trail).capacity = trail.capacity := by
  induction changes generalizing trail with
  | nil => rfl
  | cons one changes ih =>
    refine (ih _).trans ?_
    cases one with
    | append now breadcrumb => rfl
    | clear => rfl

/-- What changes make of the entries depends on nothing else that a trail holds. -/
theorem foldl_change_congr {first second : Trail κ} (entries : first.entries = second.entries)
    (capacity : first.capacity = second.capacity) (changes : List Change) :
    (changes.foldl change first).entries = (changes.foldl change second).entries := by
  induction changes generalizing first second with
  | nil => exact entries
  | cons one changes ih =>
    cases one with
    | append now breadcrumb =>
      refine ih ?_ capacity
      show (if first.capacity ≤ first.entries.length then _ else _) ++ [_] = _
      rw [entries, capacity]
      rfl
    | clear => exact ih rfl capacity

/-! ### What the entries show -/

theorem isOrdered_iff (trail : Trail κ) :
    trail.isOrdered = true ↔ (trail.entries.map Breadcrumb.timestamp).IsChain (· ≤ ·) := by
  unfold isOrdered
  generalize trail.entries = entries
  induction entries with
  | nil => simp
  | cons first entries ih =>
    cases entries with
    | nil => simp
    | cons second entries =>
      rw [List.tail_cons, List.zip_cons_cons, List.all_cons, Bool.and_eq_true, decide_eq_true_iff,
        Instant.latest_eq_max, sup_eq_right, List.map_cons, List.map_cons, List.isChain_cons_cons]
      exact and_congr_right fun _ => ih

/-- What the entries of a trail show of the breadcrumbs that were added since it was last cleared. -/
structure ShowsTimes (trail : Trail κ) (additions : List Addition) : Prop where
  /-- The latest breadcrumbs are held, as many as fit, with the maxima of the readings up to their own. -/
  dated : ∃ dated, Dated additions dated ∧ trail.entries = dated.rtake trail.capacity
  /-- The times never decrease. -/
  pairwise : (trail.entries.map Breadcrumb.timestamp).Pairwise (· ≤ ·)
  isOrdered : trail.isOrdered = true
  /-- The last breadcrumb that was added is held, with a time that is not before its own reading. -/
  newest : ∀ addition ∈ additions.getLast?, ∃ entry, trail.entries.getLast? = some entry ∧
    entry.bare = addition.breadcrumb.bare ∧ addition.reading ≤ entry.timestamp

theorem Dates.shows {trail : Trail κ} {additions : List Addition} (h : trail.Dates additions) :
    trail.ShowsTimes additions := by
  obtain ⟨dated, maxima, entries⟩ := h
  have pairwise : (trail.entries.map Breadcrumb.timestamp).Pairwise (· ≤ ·) := by
    rw [entries]
    exact maxima.pairwise.sublist ((List.drop_sublist _ _).map _)
  refine ⟨⟨dated, maxima, entries⟩, pairwise,
    (isOrdered_iff trail).mpr (List.isChain_iff_pairwise.mpr pairwise), ?_⟩
  intro addition ends
  have latest : dated.getLast?.map Breadcrumb.bare = some addition.breadcrumb.bare := by
    rw [← List.getLast?_map, maxima.bare, List.getLast?_map, ends, Option.map_some]
  obtain ⟨entry, last, bare⟩ := Option.map_eq_some_iff.mp latest
  refine ⟨entry, ?_, bare, ?_⟩
  · rw [entries, getLast?_rtake dated trail.capacity_pos, last]
  · rw [← WithBot.coe_le_coe, ← maxima.maximum_of_getLast? last]
    exact List.le_maximum_of_mem' (List.mem_map_of_mem (List.mem_of_getLast? ends))

/-! ### Requests act by changes -/

/-- The mark that a change leaves. -/
def Change.mark : Change → Mark
  | .append _ breadcrumb => .added breadcrumb
  | .clear => .cleared

/-- The reading of the clock that a change takes. -/
def Change.reading? : Change → Option Instant
  | .append now _ => some now
  | .clear => none

/-- A scene came from another one by changes that left the marks. Their readings are some of the readings
that the clock gave meanwhile, in its order. -/
def Led (scene : Scene κ ν) (marks : List Mark) (final : Scene κ ν) : Prop :=
  ∃ (changes : List Change) (count : Nat),
    changes.map Change.mark = marks ∧
    final.trail.capacity = scene.trail.capacity ∧
    final.trail.entries = (changes.foldl change scene.trail).entries ∧
    final.clock = { scene.clock with taken := scene.clock.taken + count } ∧
    (changes.filterMap Change.reading?).Sublist
      ((List.range' scene.clock.taken count).map scene.clock.reading)

theorem led_nil (scene : Scene κ ν) : Led scene [] scene :=
  ⟨[], 0, rfl, rfl, rfl, rfl, .slnil⟩

theorem Led.append {scene middle final : Scene κ ν} {marks rest : List Mark}
    (first : Led scene marks middle) (second : Led middle rest final) :
    Led scene (marks ++ rest) final := by
  obtain ⟨changes, count, rfl, size, entries, clock, readings⟩ := first
  obtain ⟨later, further, rfl, sizeLater, entriesLater, clockLater, readingsLater⟩ := second
  refine ⟨changes ++ later, count + further, List.map_append, sizeLater.trans size, ?_, ?_, ?_⟩
  · rw [entriesLater, List.foldl_append]
    exact foldl_change_congr entries (size.trans (foldl_change_capacity _ _).symm) later
  · rw [clockLater, clock, Nat.add_assoc]
  · rw [clock] at readingsLater
    rw [List.filterMap_append, ← List.range'_append_1, List.map_append]
    exact readings.append readingsLater

theorem led_of_runs {behave : Behaviour κ ν} {α : Type}
    {program : Program (Request κ ν) Request.Answer α} {scene final : Scene κ ν} {marks : List Mark}
    {result : α} (runs : Runs (meaning behave) program scene marks result final) :
    Led scene marks final := by
  refine runs.preserves led_nil Led.append ?_
  intro request scene
  cases request with
  | append breadcrumb =>
    exact ⟨[.append scene.clock.read.1 breadcrumb], 1, rfl, rfl, rfl, rfl, .refl _⟩
  | clear => exact ⟨[.clear], 0, rfl, rfl, rfl, rfl, .slnil⟩
  -- Leaving a message takes a reading of its own, which dates nothing that is held.
  | leave message kind => exact ⟨[], 1, rfl, rfl, rfl, rfl, List.nil_sublist _⟩
  | «recall» => exact led_nil scene
  | remember notes => exact ⟨[], 0, rfl, rfl, rfl, rfl, .slnil⟩
  | push breadcrumb => exact led_nil scene
  | add callback => exact ⟨[], 0, rfl, rfl, rfl, rfl, .slnil⟩
  | remove id => exact ⟨[], 0, rfl, rfl, rfl, rfl, .slnil⟩

/-- **Requests that were made one after the other act by changes.** -/
theorem led_of_course {behave : Behaviour κ ν} {depth : Nat} {scene final : Scene κ ν}
    {requests : List (Request κ ν)} {deeds : List (Deed κ ν)}
    (course : Course behave depth scene requests deeds final) :
    Led scene (deeds.flatMap Deed.marks) final :=
  leads_of_linked led_nil Led.append course.linked fun deed member =>
    led_of_runs (course.runs deed member)

/-- **The times of a trail are the running maxima of its readings of the clock.**

Whatever is appended and cleared, at whatever readings, the trail shows the maximum of the readings since
it was cleared. Requests with callbacks that make further requests come down to such changes: they leave
the same marks, and their readings are readings of the clock in its order. -/
theorem times_after_changes (capacity : Nat) :
    (∀ changes : List Change,
      (changes.foldl change (ofCapacity capacity : Trail κ)).capacity = max capacity 1 ∧
      (changes.foldl change (ofCapacity capacity : Trail κ)).ShowsTimes (additions changes)) ∧
    ∀ (behave : Behaviour κ ν) (clock : Clock) (notes : ν) (depth : Nat)
      (requests : List (Request κ ν)) (final : Scene κ ν),
      (performAll behave depth requests).run (.start capacity clock notes) = some ((), final) →
        ∃ (deeds : List (Deed κ ν)) (changes : List Change) (count : Nat),
          Course behave depth (.start capacity clock notes) requests deeds final ∧
          changes.map Change.mark = deeds.flatMap Deed.marks ∧
          (changes.filterMap Change.reading?).Sublist
            ((List.range' clock.taken count).map clock.reading) ∧
          final.trail.capacity = max capacity 1 ∧
          final.trail.ShowsTimes (additions changes) := by
  have dates (changes : List Change) :
      (changes.foldl change (ofCapacity capacity : Trail κ)).Dates (additions changes) :=
    foldl_change_dates (ofCapacity_dates κ capacity) changes
  have size (changes : List Change) :
      (changes.foldl change (ofCapacity capacity : Trail κ)).capacity = max capacity 1 :=
    (foldl_change_capacity _ changes).trans (Nat.max_comm 1 capacity)
  refine ⟨fun changes => ⟨size changes, (dates changes).shows⟩, ?_⟩
  intro behave clock notes depth requests final performed
  obtain ⟨deeds, course⟩ := course_of_performAll performed
  obtain ⟨changes, count, marks, capacities, entries, -, readings⟩ := led_of_course course
  have kept : final.trail.capacity = max capacity 1 := capacities.trans (Nat.max_comm 1 capacity)
  obtain ⟨dated, maxima, shown⟩ := dates changes
  have held : final.trail.Dates (additions changes) := by
    refine ⟨dated, maxima, ?_⟩
    rw [entries, kept, ← size changes]
    exact shown
  exact ⟨deeds, changes, count, course, marks, readings, kept, held.shows⟩

/-- The morning of the day on which `shout` was made. -/
def dawn : Instant :=
  ⟨shout.timestamp.date, ⟨4, 17, 18, 19, by decide, by decide, by decide, by decide⟩⟩

/-- A clock that goes back after its first reading. -/
def fallingClock : Clock :=
  ⟨fun taken => if taken = 0 then shout.timestamp else dawn, 0⟩

/-- The clock has gone back, and the first breadcrumb has been evicted, but its time still counts. -/
theorem times_after_changes_falling :
    ∃ final, (performAll echoing 3 [.append shout, .append shout]).run (.start 0 fallingClock ()) =
        some ((), final) ∧ final.trail.entries.map Breadcrumb.timestamp = [shout.timestamp] ∧
      ∃ deeds changes count,
        Course echoing 3 (.start 0 fallingClock ()) [.append shout, .append shout] deeds final ∧
        changes.map Change.mark = deeds.flatMap Deed.marks ∧
        (changes.filterMap Change.reading?).Sublist
          ((List.range' 0 count).map fallingClock.reading) ∧
        final.trail.capacity = max 0 1 ∧
        final.trail.ShowsTimes (additions changes) :=
  ⟨_, rfl, rfl, (times_after_changes 0).2 echoing fallingClock () 3 [.append shout, .append shout] _ rfl⟩

end CrashReporter.Trail
