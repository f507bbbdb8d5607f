/-
**Dictionaries stay in order.**

* `insert_ordered`, `erase_ordered`, `ofList_ordered`: every operation keeps the keys strictly increasing;
* `mem_insert`, `mem_ofList`, `mem_of_find?`: an entry is one that was put there;
* `ofList_of_ordered`: a dictionary is the dictionary of its own entries.
-/

import CrashReporter.Dictionary
import Mathlib.Data.List.Induction
import Mathlib.Data.String.Basic

namespace CrashReporter.Dictionary

variable {α : Type}

/-- An entry of a dictionary was there before, or is the one that was set. -/
theorem mem_insert {key : String} {value : α} {dictionary : Dictionary α} {entry : String × α}
    (member : entry ∈ dictionary.insert key value) : entry = (key, value) ∨ entry ∈ dictionary := by
  induction dictionary with
  | nil => exact .inl (List.mem_singleton.mp member)
  | cons first rest ih =>
    obtain ⟨name, old⟩ := first
    rw [insert] at member
    split_ifs at member with same before
    · exact (List.mem_cons.mp member).imp_right (List.mem_cons_of_mem _)
    · exact List.mem_cons.mp member
    · rcases List.mem_cons.mp member with rfl | later
      · exact .inr List.mem_cons_self
      · exact (ih later).imp_right (List.mem_cons_of_mem _)

theorem ordered_cons {name : String} {value : α} {rest : Dictionary α} :
    Ordered ((name, value) :: rest) ↔ (∀ entry ∈ rest, name < entry.1) ∧ Ordered rest := by
  unfold Ordered keys
  rw [List.map_cons, List.pairwise_cons, List.forall_mem_map]

/-- Setting a value keeps the keys increasing. -/
theorem insert_ordered {key : String} {value : α} {dictionary : Dictionary α}
    (ordered : Ordered dictionary) : Ordered (dictionary.insert key value) := by
  induction dictionary with
  | nil => exact ordered_cons.mpr ⟨fun entry member => absurd member List.not_mem_nil, .nil⟩
  | cons first rest ih =>
    obtain ⟨name, old⟩ := first
    obtain ⟨least, later⟩ := ordered_cons.mp ordered
    rw [insert]
    split_ifs with same before
    · exact ordered_cons.mpr ⟨same ▸ least, later⟩
    · refine ordered_cons.mpr ⟨fun entry member => ?_, ordered⟩
      rcases List.mem_cons.mp member with rfl | member
      · exact before
      · exact before.trans (least entry member)
    · refine ordered_cons.mpr ⟨fun entry member => ?_, ih later⟩
      rcases mem_insert member with rfl | member
      · exact lt_of_le_of_ne (not_lt.mp before) (Ne.symm same)
      · exact least entry member

theorem erase_sublist (key : String) (dictionary : Dictionary α) :
    (dictionary.erase key).Sublist dictionary := by
  induction dictionary with
  | nil => exact .slnil
  | cons first rest ih =>
    obtain ⟨name, value⟩ := first
    rw [erase]
    split_ifs
    · exact List.sublist_cons_self _ _
    · exact ih.cons_cons _

/-- Removing a key keeps the keys increasing. -/
theorem erase_ordered (key : String) {dictionary : Dictionary α} (ordered : Ordered dictionary) :
    Ordered (dictionary.erase key) :=
  List.Pairwise.sublist ((erase_sublist key dictionary).map Prod.fst) ordered

/-- What is found under a key is an entry. -/
theorem mem_of_find? {key : String} {value : α} {dictionary : Dictionary α}
    (found : dictionary.find? key = some value) : (key, value) ∈ dictionary := by
  induction dictionary with
  | nil => cases found
  | cons first rest ih =>
    obtain ⟨name, old⟩ := first
    rw [find?] at found
    split_ifs at found with same
    · cases found
      rw [same]
      exact List.mem_cons_self
    · exact List.mem_cons_of_mem _ (ih found)

theorem ofList_append (entries : List (String × α)) (key : String) (value : α) :
    ofList (entries ++ [(key, value)]) = (ofList entries).insert key value := by
  unfold ofList
  rw [List.foldl_append]
  rfl

/-- **The dictionary of any entries is in order.** -/
theorem ofList_ordered (entries : List (String × α)) : Ordered (ofList entries) := by
  induction entries using List.reverseRecOn with
  | nil => exact List.Pairwise.nil
  | append_singleton entries entry ih =>
    rw [ofList_append]
    exact insert_ordered ih

/-- The entries of a dictionary are among those that it was made of. -/
theorem mem_ofList {entries : List (String × α)} {entry : String × α}
    (member : entry ∈ ofList entries) : entry ∈ entries := by
  induction entries using List.reverseRecOn with
  | nil => cases member
  | append_singleton entries last ih =>
    rw [ofList_append] at member
    rcases mem_insert member with rfl | before
    · exact List.mem_append_right _ List.mem_cons_self
    · exact List.mem_append_left _ (ih before)

/-- A key beyond all others is set at the end. -/
theorem insert_last {key : String} {value : α} {dictionary : Dictionary α}
    (beyond : ∀ entry ∈ dictionary, entry.1 < key) :
    dictionary.insert key value = dictionary ++ [(key, value)] := by
  induction dictionary with
  | nil => rfl
  | cons first rest ih =>
    obtain ⟨name, old⟩ := first
    have before : name < key := beyond (name, old) List.mem_cons_self
    rw [insert, if_neg before.ne', if_neg before.not_gt,
      ih fun entry member => beyond entry (List.mem_cons_of_mem _ member)]
    rfl

/-- **A dictionary is the dictionary of its own entries.** -/
theorem ofList_of_ordered {dictionary : Dictionary α} (ordered : Ordered dictionary) :
    ofList dictionary = dictionary := by
  induction dictionary using List.reverseRecOn with
  | nil => rfl
  | append_singleton entries last ih =>
    obtain ⟨key, value⟩ := last
    unfold Ordered keys at ordered
    rw [List.map_append, List.pairwise_append] at ordered
    obtain ⟨before, _, beyond⟩ := ordered
    rw [ofList_append, ih before]
    exact insert_last fun entry member =>
      beyond entry.1 (List.mem_map_of_mem member) key List.mem_cons_self

end CrashReporter.Dictionary
