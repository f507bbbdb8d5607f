/-
**Instants are linearly ordered, and the later of two of them is their maximum.**

The order is the lexicographic one of the numbers of an instant. Two instants with the same numbers are
the same (`numbers_injective`), so that an instant which is not earlier than another is equal to it or
later, and `latest` is `max`.
-/

import CrashReporter.Instant.Basic
import Mathlib.Order.Lattice
import Mathlib.Order.Std
import Mathlib.Tactic.Common

namespace CrashReporter.Instant

theorem numbers_injective : Function.Injective numbers := by
  intro first second same
  obtain ⟨⟨_, _, _, _, _, _⟩, ⟨_, _, _, _, _, _, _, _⟩⟩ := first
  obtain ⟨⟨_, _, _, _, _, _⟩, ⟨_, _, _, _, _, _, _, _⟩⟩ := second
  simpa [numbers, Int.natCast_inj, and_assoc] using same

instance : Std.TransOrd Instant :=
  inferInstanceAs (Std.TransCmp (compareOn numbers))

instance : Std.LawfulEqOrd Instant where
  compare_self := Std.ReflOrd.compare_self (α := List Int)
  eq_of_compare same := numbers_injective (Std.LawfulEqOrd.eq_of_compare (α := List Int) same)

/-- The order in time, with `latest` for the maximum. -/
instance : LinearOrder Instant :=
  let order := LinearOrder.ofStd Instant
  { order with
    max := latest
    max_def := by
      intro first second
      change (if Ord.compare first second = .gt then first else second) = _
      by_cases earlier : first ≤ second
      · rw [if_pos earlier, if_neg fun greater => absurd earlier (not_le.mpr (compare_gt_iff_gt.mp greater))]
      · rw [if_neg earlier, if_pos (compare_gt_iff_gt.mpr (not_le.mp earlier))] }

theorem latest_eq_max (first second : Instant) : latest first second = max first second := rfl

end CrashReporter.Instant
