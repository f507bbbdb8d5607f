/-
**Texts are ordered as what they spell.**

Texts are compared as they are stored, with their terminators. No octet is smaller than a terminator and none of a text
is equal to it, so that it decides only where one of the texts goes on and the other ends, as the end itself would.

* `compareLex_terminated`: octets compare as they do with a terminator that is not among them;
* `compareLex_eq_lt_iff`, `precedes_iff_lt`: a proper beginning of other octets comes before them; of the first octets
  that differ, the smaller one decides;
* `compareLex_encode`: strings compare as their octets do.

`ordered_as_spelled` is the account of the order and of equality.
-/

import CrashReporter.Proofs.Text.NormalForm

namespace CrashReporter

/-! ### Octets -/

namespace Utf8

/-- One sequence of octets comes before another in a dictionary. -/
inductive Precedes : List UInt8 → List UInt8 → Prop
  /-- A proper beginning comes first. -/
  | shorter (common : List UInt8) (octet : UInt8) (rest : List UInt8) : Precedes common (common ++ octet :: rest)
  /-- Of the first octets that differ, the smaller one decides. -/
  | smaller (common : List UInt8) {octet octet' : UInt8} (less : octet < octet') (rest rest' : List UInt8) :
    Precedes (common ++ octet :: rest) (common ++ octet' :: rest')

theorem Precedes.cons {first second : List UInt8} (before : Precedes first second) (octet : UInt8) :
    Precedes (octet :: first) (octet :: second) := by
  cases before with
  | shorter _ other rest => exact .shorter (octet :: first) other rest
  | smaller common less rest rest' => exact .smaller (octet :: common) less rest rest'

theorem precedes_iff_lt (first second : List UInt8) : Precedes first second ↔ first < second := by
  constructor
  · intro before
    cases before with
    | shorter _ octet rest =>
      have later : first ++ [] < first ++ octet :: rest := List.append_left_lt (List.nil_lt_cons octet rest)
      rwa [List.append_nil] at later
    | smaller common less rest rest' => exact List.append_left_lt (List.cons_lt_cons_iff.mpr (.inl less))
  · intro less
    induction first generalizing second with
    | nil =>
      cases second with
      | nil => exact absurd less (List.lt_irrefl _)
      | cons octet rest => exact .shorter [] octet rest
    | cons octet first ih =>
      cases second with
      | nil => exact absurd less (List.not_lt_nil _)
      | cons other second =>
        rcases List.cons_lt_cons_iff.mp less with smaller | ⟨rfl, later⟩
        · exact .smaller [] smaller first second
        · exact (ih second later).cons octet

theorem compareLex_eq_lt_iff (first second : List UInt8) :
    List.compareLex Ord.compare first second = .lt ↔ first < second := by
  induction first generalizing second with
  | nil => cases second <;> simp [List.compareLex]
  | cons octet first ih =>
    cases second with
    | nil => simp [List.compareLex]
    | cons other second =>
      rw [List.compareLex_cons_cons, Ordering.then_eq_lt, ih, List.cons_lt_cons_iff, Std.compare_eq_lt,
        Std.LawfulEqOrd.compare_eq_iff_eq]

/-- Octets compare as they do with a terminator that is not among them. -/
theorem compareLex_terminated {first second : List UInt8} (free : 0 ∉ first) (free' : 0 ∉ second) :
    List.compareLex Ord.compare (first ++ [0]) (second ++ [0]) = List.compareLex Ord.compare first second := by
  induction first generalizing second with
  | nil =>
    cases second with
    | nil => rfl
    | cons other second =>
      -- The terminator of the shorter one meets an octet of the longer one, and is smaller.
      have positive : 0 < other := UInt8.pos_iff_ne_zero.mpr (List.ne_of_not_mem_cons free').symm
      rw [List.nil_append, List.cons_append, List.compareLex_cons_cons, Std.compare_eq_lt.mpr positive]
      rfl
  | cons octet first ih =>
    cases second with
    | nil =>
      have positive : 0 < octet := UInt8.pos_iff_ne_zero.mpr (List.ne_of_not_mem_cons free).symm
      rw [List.nil_append, List.cons_append, List.compareLex_cons_cons, Std.compare_eq_gt.mpr positive]
      rfl
    | cons other second =>
      rw [List.cons_append, List.cons_append, List.compareLex_cons_cons, List.compareLex_cons_cons,
        ih (List.not_mem_of_not_mem_cons free) (List.not_mem_of_not_mem_cons free')]

/-- Strings compare as their octets do. -/
theorem compareLex_encode (first second : String) :
    List.compareLex Ord.compare (encode first.toList) (encode second.toList) = Ord.compare first second := by
  rcases lt_trichotomy first second with before | rfl | after
  · have less := (compareLex_eq_lt_iff _ _).mpr ((encode_lt_iff first second).mpr before)
    rw [less, compare_lt_iff_lt.mpr before]
  · rw [compare_eq_iff_eq.mpr rfl]
    exact Std.ReflCmp.compare_self
  · have less := (compareLex_eq_lt_iff _ _).mpr ((encode_lt_iff second first).mpr after)
    rw [Std.OrientedCmp.gt_of_lt less, compare_gt_iff_gt.mpr after]

end Utf8

/-! ### Texts -/

namespace Text

/-- The octets of a text, without the terminator. -/
def octets (text : Text) : List UInt8 :=
  Utf8.encode text.content.toList

theorem zero_not_mem_octets (text : Text) : 0 ∉ text.octets :=
  Utf8.zero_not_mem_encode text.nul_free

/-- Texts that are stored alike spell the same. -/
theorem stored_injective : Function.Injective stored := by
  intro first second same
  have spelled : first.content.toList = second.content.toList :=
    Utf8.encode_injective (List.append_cancel_right same)
  exact Text.ext (String.toList_inj.mp spelled)

instance : Std.TransCmp Text.compare :=
  inferInstanceAs (Std.TransCmp (compareOn stored))

instance : Std.LawfulEqCmp Text.compare where
  compare_self := Std.ReflOrd.compare_self (α := List UInt8)
  eq_of_compare same := stored_injective (Std.LawfulEqOrd.eq_of_compare (α := List UInt8) same)

/-- The terminators of two texts have no part in how they compare. -/
theorem compare_eq_compareLex (first second : Text) :
    first.compare second = List.compareLex Ord.compare first.octets second.octets :=
  Utf8.compareLex_terminated first.zero_not_mem_octets second.zero_not_mem_octets

theorem compare_eq_compare_content (first second : Text) :
    first.compare second = Ord.compare first.content second.content :=
  (compare_eq_compareLex first second).trans (Utf8.compareLex_encode first.content second.content)

theorem compare_eq_lt_iff (first second : Text) :
    first.compare second = .lt ↔ Utf8.Precedes first.octets second.octets := by
  rw [compare_eq_compareLex, Utf8.compareLex_eq_lt_iff, Utf8.precedes_iff_lt]

theorem compare_eq_gt_iff (first second : Text) :
    first.compare second = .gt ↔ Utf8.Precedes second.octets first.octets :=
  Std.OrientedCmp.gt_iff_lt.trans (compare_eq_lt_iff second first)

/-- Of two texts, one is not after the other. -/
theorem compare_total (first second : Text) : (first.compare second).isLE ∨ (second.compare first).isLE := by
  cases order : first.compare second with
  | lt => exact .inl rfl
  | eq => exact .inl rfl
  | gt =>
    have before : second.compare first = .lt := Std.OrientedCmp.lt_of_gt order
    rw [before]
    exact .inr rfl

/-- **Texts are ordered as what they spell.**

As they are stored, with their terminators, texts compare as their octets without them, and as strings do: a proper
beginning of a text comes before it, and of the first octets that differ the smaller one decides. Only a text itself
compares as equal to it, is stored as it is, or spells the same. Any two texts stand in this order one way or the other,
and it is transitive. -/
theorem ordered_as_spelled (first second : Text) :
    first.compare second = List.compareLex Ord.compare first.octets second.octets ∧
    first.compare second = Ord.compare first.content second.content ∧
    (first.compare second = .lt ↔ Utf8.Precedes first.octets second.octets) ∧
    (first.compare second = .gt ↔ Utf8.Precedes second.octets first.octets) ∧
    (first.compare second = .eq ↔ first.content = second.content) ∧
    (first.stored = second.stored ↔ first.content = second.content) ∧
    (first = second ↔ first.content = second.content) ∧
    ((first.compare second).isLE ∨ (second.compare first).isLE) ∧
    ∀ third : Text, (first.compare second).isLE → (second.compare third).isLE → (first.compare third).isLE := by
  have same : first = second ↔ first.content = second.content := ⟨congrArg content, Text.ext⟩
  exact ⟨compare_eq_compareLex first second, compare_eq_compare_content first second, compare_eq_lt_iff first second,
    compare_eq_gt_iff first second, Std.LawfulEqCmp.compare_eq_iff_eq.trans same, stored_injective.eq_iff.trans same,
    same, compare_total first second, fun third => Std.TransCmp.isLE_trans⟩

/-- A text comes before one that goes on with the smallest octet of all texts, and both come before one that begins with
an octet above `7F`. -/
theorem ordered_as_spelled_accented :
    ∃ short long accented : Text,
      ofString? "ab" = some short ∧ ofString? "ab\x01" = some long ∧ ofString? "é" = some accented ∧
      short.compare long = .lt ∧ long.compare accented = .lt ∧ (short.compare accented).isLE := by
  let short : Text := ⟨"ab", by decide, by decide⟩
  let long : Text := ⟨"ab\x01", by decide, by decide⟩
  let accented : Text := ⟨"é", by decide, by decide⟩
  have shorter : Utf8.Precedes short.octets long.octets := by
    rw [show short.octets = [0x61, 0x62] by decide, show long.octets = [0x61, 0x62] ++ [0x01] by decide]
    exact .shorter [0x61, 0x62] 0x01 []
  have smaller : Utf8.Precedes long.octets accented.octets := by
    rw [show long.octets = [0x61, 0x62, 0x01] by decide, show accented.octets = [0xC3, 0xA9] by decide]
    exact .smaller [] (by decide) [0x62, 0x01] [0xA9]
  obtain ⟨-, -, before, -, -, -, -, -, transitive⟩ := ordered_as_spelled short long
  obtain ⟨-, -, before', -⟩ := ordered_as_spelled long accented
  have shortFirst := before.mpr shorter
  have longFirst := before'.mpr smaller
  exact ⟨short, long, accented, ofString?_content short, ofString?_content long, ofString?_content accented,
    shortFirst, longFirst, transitive accented (by rw [shortFirst]; rfl) (by rw [longFirst]; rfl)⟩

end Text

end CrashReporter
