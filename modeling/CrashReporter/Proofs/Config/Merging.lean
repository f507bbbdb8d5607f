/-
**Merging layers.**

Layers are a monoid under merging, with the layer that specifies nothing as its unit: sections that may be absent are
merged as their fields are, and of two fields the later one counts.

`merge_laws`: so merging is associative, whole layers with their absent and their empty sections being compared, and
in a list of merged layers every field is on its own that of the last layer that specifies it.
-/

import CrashReporter.Proofs.Config.Fields
import Mathlib.Data.List.Induction

namespace CrashReporter

/-! ### Associativity -/

theorem overlay_assoc {α : Type} (first second third : Option α) :
    overlay (overlay first second) third = overlay first (overlay second third) := by
  unfold overlay
  cases third <;> rfl

instance : Std.Associative BreadcrumbsLayer.merge where
  assoc first second third := by
    unfold BreadcrumbsLayer.merge
    rw [overlay_assoc]

instance : Std.Associative HangLayer.merge where
  assoc first second third := by
    unfold HangLayer.merge
    rw [overlay_assoc, overlay_assoc]

instance : Std.Associative ReleaseLayer.merge where
  assoc first second third := by
    unfold ReleaseLayer.merge
    rw [overlay_assoc, overlay_assoc]

instance : Std.Associative LogLayer.merge where
  assoc first second third := by
    unfold LogLayer.merge
    rw [overlay_assoc]

namespace Layer

/-- A section that is absent in one of three layers leaves two to merge, and of present ones the fields are merged. -/
theorem merge_assoc (first second third : Layer) :
    (first.merge second).merge third = first.merge (second.merge third) := by
  unfold merge
  congr 1
  all_goals exact (Option.associative_merge _).assoc _ _ _

theorem empty_merge (layer : Layer) : empty.merge layer = layer := by
  unfold merge empty
  simp only [Option.merge_none_left]

theorem merge_empty (layer : Layer) : layer.merge empty = layer := by
  unfold merge empty
  simp only [Option.merge_none_right]

instance : Std.Associative merge := ⟨merge_assoc⟩

instance : Std.LawfulIdentity merge empty where
  left_id := empty_merge
  right_id := merge_empty

/-! ### Many layers -/

/-- The layers of a list, each laid over those before it. -/
def mergeAll (layers : List Layer) : Layer := layers.foldl merge empty

/-- Laying layers over another one, one by one, is laying over it what they are together. -/
theorem foldl_merge (base : Layer) (layers : List Layer) :
    layers.foldl merge base = base.merge (mergeAll layers) := by
  calc layers.foldl merge base = layers.foldl merge (base.merge empty) := by rw [merge_empty]
    _ = base.merge (layers.foldl merge empty) := List.foldl_assoc

/-- The last layer that specifies a field is the first one from behind. -/
theorem field?_mergeAll (layers : List Layer) (field : Field) :
    (mergeAll layers).field? field = layers.reverse.findSome? fun layer => layer.field? field := by
  induction layers using List.reverseRecOn with
  | nil => exact field?_empty field
  | append_singleton layers last ih =>
    have laid : mergeAll (layers ++ [last]) = (mergeAll layers).merge last := List.foldl_append
    rw [laid, field?_merge, ih, List.reverse_append, List.reverse_singleton, List.singleton_append,
      List.findSome?_cons]
    cases last.field? field <;> rfl

/-- A field of merged layers has a value if the last layer that specifies the field gives it that. -/
theorem field?_mergeAll_eq_some_iff (layers : List Layer) (field : Field) (value : field.Value) :
    (mergeAll layers).field? field = some value ↔
      ∃ before last after, layers = before ++ last :: after ∧ last.field? field = some value ∧
        ∀ later ∈ after, later.field? field = none := by
  rw [field?_mergeAll, List.findSome?_eq_some_iff]
  constructor
  · rintro ⟨after, last, before, listed, given, silent⟩
    refine ⟨before.reverse, last, after.reverse, ?_, given, ?_⟩
    · rw [← List.reverse_reverse layers, listed]
      simp
    · intro later member
      exact silent later (List.mem_reverse.mp member)
  · rintro ⟨before, last, after, rfl, given, silent⟩
    refine ⟨after.reverse, last, before.reverse, by simp, given, ?_⟩
    intro later member
    exact silent later (List.mem_reverse.mp member)

theorem field?_mergeAll_eq_none_iff (layers : List Layer) (field : Field) :
    (mergeAll layers).field? field = none ↔ ∀ layer ∈ layers, layer.field? field = none := by
  rw [field?_mergeAll, List.findSome?_eq_none_iff]
  simp only [List.mem_reverse]

/-- **The laws of merging.**

Merging is associative, and a layer that specifies nothing changes nothing on either side. However many layers are
merged, and over whichever layer, every field is on its own that of the last layer that specifies it; it is unset
if none does. -/
theorem merge_laws :
    (∀ first second third : Layer, (first.merge second).merge third = first.merge (second.merge third)) ∧
    (∀ layer : Layer, empty.merge layer = layer ∧ layer.merge empty = layer) ∧
    (∀ (base : Layer) (layers : List Layer), layers.foldl merge base = base.merge (mergeAll layers)) ∧
    (∀ (layers : List Layer) (field : Field),
      (∀ value, (mergeAll layers).field? field = some value ↔
        ∃ before last after, layers = before ++ last :: after ∧ last.field? field = some value ∧
          ∀ later ∈ after, later.field? field = none) ∧
      ((mergeAll layers).field? field = none ↔ ∀ layer ∈ layers, layer.field? field = none)) := by
  refine ⟨merge_assoc, fun layer => ⟨empty_merge layer, merge_empty layer⟩, foldl_merge, ?_⟩
  intro layers field
  exact ⟨field?_mergeAll_eq_some_iff layers field, field?_mergeAll_eq_none_iff layers field⟩

end Layer

end CrashReporter
