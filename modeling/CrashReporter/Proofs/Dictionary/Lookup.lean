/-
**What is found in a dictionary.**

* `find?_insert`, `find?_erase`: setting or removing a key changes what is found under that key, and nothing
  else;
* `find?_eq_some_iff`: in a dictionary in order, an entry is found under its key;
* `eq_of_find?`: dictionaries in order in which the same is found are the same.
-/

import CrashReporter.Proofs.Dictionary.Ordered
import Mathlib.Tactic.Common

namespace CrashReporter.Dictionary

variable {α : Type} {dictionary : Dictionary α}

@[simp] theorem find?_nil (key : String) : find? key ([] : Dictionary α) = none := rfl

theorem find?_cons (key name : String) (value : α) (rest : Dictionary α) :
    find? key ((name, value) :: rest) = if name = key then some value else find? key rest := rfl

/-- **Setting a key changes what is found under it, and nothing else.** -/
theorem find?_insert (key other : String) (value : α) (dictionary : Dictionary α) :
    (dictionary.insert key value).find? other =
      if key = other then some value else dictionary.find? other := by
  induction dictionary with
  | nil => rfl
  | cons first rest ih =>
    obtain ⟨name, old⟩ := first
    rw [insert, find?_cons]
    by_cases same : key = name
    · rw [if_pos same, find?_cons, same]
      by_cases found : name = other
      · rw [if_pos found, if_pos found]
      · rw [if_neg found, if_neg found, if_neg found]
    · rw [if_neg same]
      by_cases before : key < name
      · rw [if_pos before, find?_cons, find?_cons]
      · rw [if_neg before, find?_cons, ih]
        by_cases found : name = other
        · have apart : key ≠ other := fun equal => same (equal.trans found.symm)
          rw [if_pos found, if_neg apart, if_pos found]
        · rw [if_neg found, if_neg found]

/-- Nothing is found under a key that stands before all others. -/
theorem find?_of_lt {key : String} (before : ∀ entry ∈ dictionary, key < entry.1) :
    dictionary.find? key = none := by
  induction dictionary with
  | nil => rfl
  | cons first rest ih =>
    obtain ⟨name, value⟩ := first
    have apart : name ≠ key := (before (name, value) List.mem_cons_self).ne'
    rw [find?_cons, if_neg apart]
    exact ih fun entry member => before entry (List.mem_cons_of_mem _ member)

/-- **Removing a key changes what is found under it, and nothing else.** -/
theorem find?_erase (ordered : dictionary.Ordered) (key other : String) :
    (dictionary.erase key).find? other =
      if key = other then none else dictionary.find? other := by
  induction dictionary with
  | nil => simp [erase]
  | cons first rest ih =>
    obtain ⟨name, value⟩ := first
    obtain ⟨least, later⟩ := ordered_cons.mp ordered
    rw [erase, find?_cons]
    by_cases same : name = key
    · rw [if_pos same]
      by_cases found : key = other
      · rw [if_pos found, ← found, ← same]
        exact find?_of_lt least
      · have apart : name ≠ other := fun equal => found (same.symm.trans equal)
        rw [if_neg found, if_neg apart]
    · rw [if_neg same, find?_cons, ih later]
      by_cases found : key = other
      · have apart : name ≠ other := fun equal => same (equal.trans found.symm)
        rw [if_neg apart, if_pos found, if_pos found]
      · rw [if_neg found, if_neg found]

/-- What is found in a dictionary in order is what is listed in it. -/
theorem find?_eq_some_iff (ordered : dictionary.Ordered) {key : String} {value : α} :
    dictionary.find? key = some value ↔ (key, value) ∈ dictionary := by
  refine ⟨mem_of_find?, fun member => ?_⟩
  induction dictionary with
  | nil => cases member
  | cons first rest ih =>
    obtain ⟨name, old⟩ := first
    obtain ⟨least, later⟩ := ordered_cons.mp ordered
    rw [find?_cons]
    rcases List.mem_cons.mp member with same | further
    · obtain ⟨rfl, rfl⟩ := Prod.mk.inj same
      exact if_pos rfl
    · have apart : name ≠ key := (least (key, value) further).ne
      rw [if_neg apart]
      exact ih later further

theorem mem_keys_iff {key : String} : key ∈ dictionary.keys ↔ (dictionary.find? key).isSome := by
  induction dictionary with
  | nil => simp [keys]
  | cons first rest ih =>
    obtain ⟨name, value⟩ := first
    have listed : key ∈ keys ((name, value) :: rest) ↔ key = name ∨ key ∈ keys rest := List.mem_cons
    rw [listed, ih, find?_cons]
    by_cases same : name = key
    · simp [same]
    · simp [same, Ne.symm same]

theorem eq_nil_iff : dictionary = [] ↔ ∀ key, dictionary.find? key = none := by
  cases dictionary with
  | nil => simp
  | cons first rest =>
    obtain ⟨name, value⟩ := first
    refine iff_of_false (List.cons_ne_nil _ _) fun nothing => ?_
    have found := nothing name
    rw [find?_cons, if_pos rfl] at found
    cases found

/-- **Dictionaries in order in which the same is found are the same.** -/
theorem eq_of_find? {other : Dictionary α} (ordered : dictionary.Ordered) (ordered' : other.Ordered)
    (same : ∀ key, dictionary.find? key = other.find? key) : dictionary = other := by
  have increasing {listing : Dictionary α} (ordered : listing.Ordered) :
      listing.Pairwise fun first second => first.1 < second.1 := List.pairwise_map.mp ordered
  have distinct {listing : Dictionary α} (ordered : listing.Ordered) : listing.Nodup :=
    (increasing ordered).imp fun before equal => before.ne (congrArg Prod.fst equal)
  refine List.Perm.eq_of_pairwise (fun first second _ _ before after => ?_) (increasing ordered)
    (increasing ordered') ((List.perm_ext_iff_of_nodup (distinct ordered) (distinct ordered')).mpr ?_)
  · exact absurd after before.not_gt
  · intro entry
    rw [← find?_eq_some_iff ordered, ← find?_eq_some_iff ordered', same]

end CrashReporter.Dictionary
