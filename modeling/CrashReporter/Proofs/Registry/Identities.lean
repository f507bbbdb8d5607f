/-
**The identities that a registry issues.**

A `Deed` is one edit of a registry: the registry that it found, and what it did there. The deeds of a run are
its marks (`chronicle`), those of the owner and those that callbacks do in the middle of a run alike, and each
finds the registry as the one before it left it (`Linked`). What a registry is follows from the deeds so far
(`Counts`): identities are issued in their order, and the entries are those that were added and not removed.

`identities_of_run`: in whatever a run makes of an empty registry, as long as identities do not run out,
identities increase along the entries (`Orderly`), every one that is issued is new, and removing one takes
out its own entry or nothing (`Settled`).
-/

import CrashReporter.Proofs.Registry.Editing
import Mathlib.Data.List.Pairwise

namespace CrashReporter.Registry

open Program (Meaning Runs)

variable {κ ρ ν α : Type}

/-! ### Deeds -/

/-- An edit that was made, and the registry that it found. -/
structure Deed (κ : Type) where
  before : Registry κ
  change : Edit κ

namespace Deed

/-- The registry that an edit left. -/
def after (deed : Deed κ) : Registry κ := deed.before.edit deed.change

/-- The entry that was added, under the identity that was answered. -/
def enrolled? (deed : Deed κ) : Option (CallbackId × κ) :=
  match deed.change with
  | .add callback => some ((deed.before.add callback).1, callback)
  | .remove _ => none

/-- The identity that was removed, if it was answered that there was a callback. -/
def struck? (deed : Deed κ) : Option CallbackId :=
  match deed.change with
  | .add _ => none
  | .remove id => if (deed.before.remove id).1 then some id else none

end Deed

/-- The entries that were ever added, in the order of their registration. -/
def enrolled (deeds : List (Deed κ)) : List (CallbackId × κ) := deeds.filterMap Deed.enrolled?

/-- The identities that were ever removed. -/
def struck (deeds : List (Deed κ)) : List CallbackId := deeds.filterMap Deed.struck?

theorem enrolled_concat (deeds : List (Deed κ)) (deed : Deed κ) :
    enrolled (deeds ++ [deed]) = enrolled deeds ++ deed.enrolled?.toList := by
  unfold enrolled
  rw [List.filterMap_append]
  cases told : deed.enrolled? <;> simp [told]

theorem struck_concat (deeds : List (Deed κ)) (deed : Deed κ) :
    struck (deeds ++ [deed]) = struck deeds ++ deed.struck?.toList := by
  unfold struck
  rw [List.filterMap_append]
  cases told : deed.struck? <;> simp [told]

/-- Each deed found the registry as the one before it left it, from a first registry to a last one. -/
def Linked (first : Registry κ) (deeds : List (Deed κ)) (last : Registry κ) : Prop :=
  deeds.map Deed.before ++ [last] = first :: deeds.map Deed.after

section Linked

variable {first middle last : Registry κ} {deeds earlier later : List (Deed κ)} {deed : Deed κ}

theorem linked_nil (registry : Registry κ) : Linked registry [] registry := rfl

theorem linked_nil_iff : Linked first [] last ↔ last = first := by
  constructor
  · intro linked
    exact (List.cons.inj linked).1
  · rintro rfl
    exact linked_nil last

theorem linked_cons_iff :
    Linked first (deed :: deeds) last ↔ deed.before = first ∧ Linked deed.after deeds last :=
  List.cons_eq_cons

theorem linked_append_iff :
    Linked first (earlier ++ later) last ↔ ∃ middle, Linked first earlier middle ∧ Linked middle later last := by
  induction earlier generalizing first with
  | nil => simp [linked_nil_iff]
  | cons deed earlier ih =>
    rw [List.cons_append, linked_cons_iff, ih]
    constructor
    · rintro ⟨found, middle, here, there⟩
      exact ⟨middle, linked_cons_iff.mpr ⟨found, here⟩, there⟩
    · rintro ⟨middle, here, there⟩
      obtain ⟨found, here⟩ := linked_cons_iff.mp here
      exact ⟨found, middle, here, there⟩

theorem linked_singleton_iff : Linked first [deed] last ↔ deed.before = first ∧ last = deed.after := by
  rw [linked_cons_iff, linked_nil_iff]

end Linked

/-! ### Removing -/

theorem mem_of_contains {registry : Registry κ} {id : CallbackId} :
    registry.contains id = true ↔ ∃ entry ∈ registry.entries, entry.1 = id := by
  unfold contains
  rw [List.any_eq_true]
  simp only [decide_eq_true_eq]

/-- Where an identity is not listed, removing it changes nothing. -/
theorem remove_of_unlisted {registry : Registry κ} {id : CallbackId}
    (unlisted : ∀ entry ∈ registry.entries, entry.1 ≠ id) : registry.remove id = (false, registry) := by
  have absent : registry.contains id = false := by
    rw [Bool.eq_false_iff]
    intro listed
    obtain ⟨entry, member, same⟩ := mem_of_contains.mp listed
    exact unlisted entry member same
  have kept : registry.entries.filter (fun entry => entry.1 ≠ id) = registry.entries := by
    rw [List.filter_eq_self]
    exact fun entry member => decide_eq_true (unlisted entry member)
  unfold remove
  rw [absent, kept]

/-- Where it is listed once, removing it takes out its entry. -/
theorem remove_of_split {registry : Registry κ} {front back : List (CallbackId × κ)} {id : CallbackId}
    {callback : κ} (split : registry.entries = front ++ (id, callback) :: back)
    (before : ∀ entry ∈ front, entry.1 ≠ id) (behind : ∀ entry ∈ back, entry.1 ≠ id) :
    registry.remove id = (true, { registry with entries := front ++ back }) := by
  have listed : registry.contains id = true := by
    rw [mem_of_contains, split]
    exact ⟨(id, callback), by simp, rfl⟩
  have kept : registry.entries.filter (fun entry => entry.1 ≠ id) = front ++ back := by
    have front_kept : front.filter (fun entry => entry.1 ≠ id) = front := by
      rw [List.filter_eq_self]
      exact fun entry member => decide_eq_true (before entry member)
    have back_kept : back.filter (fun entry => entry.1 ≠ id) = back := by
      rw [List.filter_eq_self]
      exact fun entry member => decide_eq_true (behind entry member)
    rw [split, List.filter_append, List.filter_cons_of_neg (by simp), front_kept, back_kept]
  unfold remove
  rw [listed, kept]

/-! ### What the deeds so far tell -/

/-- What a registry is that was empty before some deeds. -/
structure Counts (deeds : List (Deed κ)) (registry : Registry κ) : Prop where
  /-- Identities are issued one after the other, from the first one on. -/
  numbered : (enrolled deeds).map (fun entry => entry.1.number.toNat) = List.range' 1 (enrolled deeds).length
  next : registry.next.toNat = (enrolled deeds).length + 1
  survivors : registry.entries = (enrolled deeds).filter fun entry => entry.1 ∉ struck deeds
  known : ∀ id ∈ struck deeds, ∃ entry ∈ enrolled deeds, entry.1 = id
  size : registry.size + (struck deeds).length = (enrolled deeds).length

namespace Counts

variable {deeds : List (Deed κ)} {registry : Registry κ}

theorem empty : Counts [] (.empty : Registry κ) where
  numbered := rfl
  next := rfl
  survivors := rfl
  known id member := by cases member
  size := rfl

theorem increasing_enrolled (counts : Counts deeds registry) :
    (enrolled deeds).Pairwise fun first second => first.1.number.toNat < second.1.number.toNat := by
  have increasing := List.pairwise_lt_range' (s := 1) (n := (enrolled deeds).length)
  rw [← counts.numbered, List.pairwise_map] at increasing
  exact increasing

theorem bounds (counts : Counts deeds registry) {entry : CallbackId × κ} (member : entry ∈ enrolled deeds) :
    1 ≤ entry.1.number.toNat ∧ entry.1.number.toNat ≤ (enrolled deeds).length := by
  have listed : entry.1.number.toNat ∈ (enrolled deeds).map fun entry => entry.1.number.toNat :=
    List.mem_map_of_mem member
  rw [counts.numbered, List.mem_range'_1] at listed
  omega

theorem mem_enrolled (counts : Counts deeds registry) {entry : CallbackId × κ}
    (member : entry ∈ registry.entries) : entry ∈ enrolled deeds := by
  rw [counts.survivors] at member
  exact (List.mem_filter.mp member).1

theorem increasing (counts : Counts deeds registry) :
    registry.entries.Pairwise fun first second => first.1.number.toNat < second.1.number.toNat := by
  rw [counts.survivors]
  exact counts.increasing_enrolled.filter _

/-- The next identity was never issued, unless identities have run out. -/
theorem next_fresh (counts : Counts deeds registry) {entry : CallbackId × κ} (member : entry ∈ enrolled deeds) :
    entry.1 ≠ ⟨registry.next⟩ := by
  intro same
  have bounds := counts.bounds member
  have next := counts.next
  rw [same] at bounds
  dsimp only at bounds
  omega

end Counts

/-- The second registry has the entries of the first one but for one, if there is one to lose. -/
def Loses (before after : Registry κ) (lost? : Option (CallbackId × κ)) : Prop :=
  after.entries.Sublist before.entries ∧ ∀ entry ∈ before.entries, entry ∈ after.entries ↔ lost? ≠ some entry

/-- The registration of a number, counted from one. -/
def registration? (deeds : List (Deed κ)) (number : UInt64) : Option (CallbackId × κ) :=
  if number = 0 then none else (enrolled deeds)[number.toNat - 1]?

namespace Counts

variable {deeds : List (Deed κ)} {registry : Registry κ}

theorem number_of_place (counts : Counts deeds registry) {place : Nat} {entry : CallbackId × κ}
    (found : (enrolled deeds)[place]? = some entry) : entry.1.number.toNat = place + 1 := by
  have bound := (List.getElem?_eq_some_iff.mp found).1
  have number : ((enrolled deeds).map fun entry => entry.1.number.toNat)[place]? = some entry.1.number.toNat := by
    rw [List.getElem?_map, found]
    rfl
  rw [counts.numbered, List.getElem?_range' bound] at number
  have same := Option.some_inj.mp number
  omega

/-- **An identity is the number of its registration.** -/
theorem registration?_eq_some_iff (counts : Counts deeds registry) {id : CallbackId} {entry : CallbackId × κ} :
    registration? deeds id.number = some entry ↔ entry ∈ enrolled deeds ∧ entry.1 = id := by
  unfold registration?
  constructor
  · intro counted
    split at counted
    · cases counted
    · rename_i positive
      refine ⟨List.mem_of_getElem? counted, ?_⟩
      have number := counts.number_of_place counted
      have counts_up : id.number.toNat ≠ 0 := fun zero => positive (UInt64.toNat_inj.mp zero)
      have same : entry.1.number = id.number := UInt64.toNat_inj.mp (by omega)
      exact congrArg CallbackId.mk same
  · rintro ⟨member, rfl⟩
    obtain ⟨place, found⟩ := List.getElem?_of_mem member
    have number := counts.number_of_place found
    rw [if_neg, number, Nat.add_sub_cancel, found]
    intro zero
    rw [zero] at number
    cases number

/-- **Removing an identity takes out the registration of its number**, if that is still there. -/
theorem loses (counts : Counts deeds registry) (id : CallbackId) :
    registry.Loses (registry.remove id).2 (registration? deeds id.number) := by
  refine ⟨List.filter_sublist, fun entry member => ?_⟩
  have known := counts.mem_enrolled member
  rw [Ne, counts.registration?_eq_some_iff]
  show entry ∈ registry.entries.filter _ ↔ _
  rw [List.mem_filter, decide_eq_true_eq]
  constructor
  · rintro ⟨-, apart⟩ ⟨-, same⟩
    exact apart same
  · intro other
    exact ⟨member, fun same => other ⟨known, same⟩⟩

end Counts

/-- What an edit did and answered, after the deeds that came before. -/
inductive Settled (earlier : List (Deed κ)) : Deed κ → Prop
  /-- An identity was issued that never was before, and the callback comes last. -/
  | added {registry : Registry κ} {callback : κ} {id : CallbackId}
      (answered : (registry.add callback).1 = id) (fresh : ∀ entry ∈ enrolled earlier, entry.1 ≠ id)
      (last : (registry.add callback).2.entries = registry.entries ++ [(id, callback)]) :
      Settled earlier ⟨registry, .add callback⟩
  /-- The identity was listed, and its entry is taken out. -/
  | removed {registry : Registry κ} {front back : List (CallbackId × κ)} {id : CallbackId} {callback : κ}
      (listed : registry.entries = front ++ (id, callback) :: back)
      (answered : registry.remove id = (true, { registry with entries := front ++ back })) :
      Settled earlier ⟨registry, .remove id⟩
  /-- The identity was not listed, and everything stays. -/
  | unlisted {registry : Registry κ} {id : CallbackId} (unlisted : ∀ entry ∈ registry.entries, entry.1 ≠ id)
      (answered : registry.remove id = (false, registry)) : Settled earlier ⟨registry, .remove id⟩

namespace Counts

variable {deeds : List (Deed κ)} {registry : Registry κ} {deed : Deed κ}

/-- **Every edit is settled** by the deeds that came before. -/
theorem settles (counts : Counts deeds deed.before) : Settled deeds deed := by
  obtain ⟨registry, change⟩ := deed
  cases change with
  | add callback => exact .added rfl (fun entry member => counts.next_fresh member) rfl
  | remove id =>
    by_cases listed : ∃ entry ∈ registry.entries, entry.1 = id
    · obtain ⟨⟨_, callback⟩, member, rfl⟩ := listed
      obtain ⟨front, back, split⟩ := List.append_of_mem member
      have increasing := counts.increasing
      dsimp only at increasing
      rw [split, List.pairwise_append, List.pairwise_cons] at increasing
      obtain ⟨-, ⟨behind, -⟩, before⟩ := increasing
      refine .removed split (remove_of_split split (fun entry member same => ?_) fun entry member same => ?_)
      · have less := before entry member _ List.mem_cons_self
        rw [same] at less
        exact Nat.lt_irrefl _ less
      · have less := behind entry member
        rw [same] at less
        exact Nat.lt_irrefl _ less
    · have unlisted : ∀ entry ∈ registry.entries, entry.1 ≠ id := fun entry member same =>
        listed ⟨entry, member, same⟩
      exact .unlisted unlisted (remove_of_unlisted unlisted)

theorem add (counts : Counts deeds registry) (enough : (enrolled deeds).length + 1 < UInt64.size - 1)
    (callback : κ) : Counts (deeds ++ [⟨registry, .add callback⟩]) (registry.add callback).2 := by
  have enrolls : enrolled (deeds ++ [⟨registry, .add callback⟩]) =
      enrolled deeds ++ [(⟨registry.next⟩, callback)] := enrolled_concat _ _
  have strikes : struck (deeds ++ [⟨registry, .add callback⟩]) = struck deeds :=
    (struck_concat _ _).trans (List.append_nil _)
  have next := counts.next
  have unstruck : (⟨registry.next⟩ : CallbackId) ∉ struck deeds := fun member =>
    have ⟨_, enrolled, same⟩ := counts.known _ member
    counts.next_fresh enrolled same
  constructor
  case numbered =>
    rw [enrolls, List.map_append, counts.numbered, List.length_append, List.length_singleton,
      List.range'_1_concat, Nat.add_comm 1, ← next]
    rfl
  case next =>
    have exact : (registry.next + 1).toNat = registry.next.toNat + 1 := by
      rw [UInt64.toNat_add]
      refine Nat.mod_eq_of_lt ?_
      rw [next]
      exact Nat.lt_of_lt_of_le (Nat.succ_lt_succ enough) (by decide)
    rw [enrolls, List.length_append, List.length_singleton, ← next]
    exact exact
  case survivors =>
    rw [enrolls, strikes, List.filter_append, ← counts.survivors,
      List.filter_cons_of_pos (by simpa using unstruck)]
    rfl
  case known =>
    intro id member
    rw [strikes] at member
    obtain ⟨entry, enrolled, same⟩ := counts.known id member
    rw [enrolls]
    exact ⟨entry, List.mem_append_left _ enrolled, same⟩
  case size =>
    have size := counts.size
    have grown : (registry.add callback).2.size = registry.size + 1 := List.length_append
    rw [enrolls, strikes, List.length_append, List.length_singleton, grown]
    omega

/-- Identities are not taken back: a removal is counted, and what it took out is told by its identity. -/
theorem remove (counts : Counts deeds registry) (id : CallbackId) :
    Counts (deeds ++ [⟨registry, .remove id⟩]) (registry.remove id).2 := by
  have enrolls : enrolled (deeds ++ [⟨registry, .remove id⟩]) = enrolled deeds :=
    (enrolled_concat _ _).trans (List.append_nil _)
  have strikes : struck (deeds ++ [⟨registry, .remove id⟩]) =
      struck deeds ++ (if (registry.remove id).1 then some id else none).toList := struck_concat _ _
  have settled : Settled deeds ⟨registry, .remove id⟩ := settles counts
  cases settled with
  | @removed _ front back _ callback listed answered =>
    have strikes : struck (deeds ++ [⟨registry, .remove id⟩]) = struck deeds ++ [id] := by
      rw [strikes, answered]
      rfl
    constructor
    case numbered =>
      rw [enrolls]
      exact counts.numbered
    case next =>
      rw [enrolls]
      exact counts.next
    case survivors =>
      rw [enrolls, strikes]
      show registry.entries.filter _ = _
      rw [counts.survivors, List.filter_filter]
      refine List.filter_congr fun entry _ => ?_
      simp [and_comm]
    case known =>
      intro name member
      rw [strikes, List.mem_append, List.mem_singleton] at member
      rw [enrolls]
      rcases member with member | rfl
      · exact counts.known name member
      · refine ⟨(name, callback), counts.mem_enrolled ?_, rfl⟩
        rw [listed]
        simp
    case size =>
      have size := counts.size
      have before : registry.size = front.length + (back.length + 1) := by
        unfold Registry.size
        rw [listed, List.length_append, List.length_cons]
      have after : (registry.remove id).2.size = front.length + back.length := by
        rw [answered]
        exact List.length_append
      rw [enrolls, strikes, after, List.length_append, List.length_singleton]
      omega
  | unlisted unlisted answered =>
    have strikes : struck (deeds ++ [⟨registry, .remove id⟩]) = struck deeds := by
      rw [strikes, answered]
      exact List.append_nil _
    rw [answered]
    constructor
    all_goals simp only [enrolls, strikes]
    exacts [counts.numbered, counts.next, counts.survivors, counts.known, counts.size]

/-- One more deed counts as well, unless identities run out. -/
theorem concat (counts : Counts deeds deed.before)
    (enough : (enrolled (deeds ++ [deed])).length < UInt64.size - 1) : Counts (deeds ++ [deed]) deed.after := by
  obtain ⟨registry, change⟩ := deed
  cases change with
  | add callback =>
    rw [enrolled_concat, List.length_append] at enough
    exact counts.add enough callback
  | remove id => exact counts.remove id

/-- What counts before some deeds counts after them, unless identities run out meanwhile. -/
theorem append {earlier : List (Deed κ)} {first last : Registry κ} (counts : Counts earlier first)
    (linked : Linked first deeds last) (enough : (enrolled (earlier ++ deeds)).length < UInt64.size - 1) :
    Counts (earlier ++ deeds) last := by
  induction deeds generalizing earlier first with
  | nil =>
    rw [linked_nil_iff.mp linked, List.append_nil]
    exact counts
  | cons deed deeds ih =>
    obtain ⟨rfl, rest⟩ := linked_cons_iff.mp linked
    rw [List.append_cons] at enough ⊢
    have fewer : (enrolled (earlier ++ [deed])).length ≤ (enrolled (earlier ++ [deed] ++ deeds)).length := by
      unfold enrolled
      rw [List.filterMap_append (l := earlier ++ [deed]), List.length_append]
      exact Nat.le_add_right _ _
    exact ih (counts.concat (Nat.lt_of_le_of_lt fewer enough)) rest enough

end Counts

/-! ### Runs -/

/-- The edit that a request makes, if it makes one. -/
def Request.edit? : Request κ ρ ν → Option (Edit κ)
  | .add callback => some (.add callback)
  | .remove id => some (.remove id)
  | _ => none

/-- The meaning of requests, with the deeds of a run as its marks. -/
def chronicle (behave : Behaviour κ ρ ν) :
    Meaning (Request κ ρ ν) Request.Answer (Scene κ ν) (Deed κ) :=
  (meaning behave).marked fun request scene => request.edit?.toList.map (Deed.mk scene.registry)

/-- Deeds that are linked from the registry of one scene to that of another. -/
def Spanned (scene : Scene κ ν) (deeds : List (Deed κ)) (final : Scene κ ν) : Prop :=
  Linked scene.registry deeds final.registry

/-- **The deeds of a run are linked** from the registry at its start to the one at its end. -/
theorem spanned_of_runs {behave : Behaviour κ ρ ν} {program : Program (Request κ ρ ν) Request.Answer α}
    {scene final : Scene κ ν} {deeds : List (Deed κ)} {result : α}
    (runs : Runs (chronicle behave) program scene deeds result final) : Spanned scene deeds final := by
  refine runs.preserves ?_ ?_ ?_
  · intro scene
    exact linked_nil scene.registry
  · intro scene middle final deeds rest first second
    exact linked_append_iff.mpr ⟨middle.registry, first, second⟩
  · intro request scene
    cases request <;> rfl

/-- A registry after some deeds. -/
structure Orderly (deeds : List (Deed κ)) (registry : Registry κ) : Prop where
  increasing : registry.entries.Pairwise fun first second => first.1.number < second.1.number
  positive : ∀ entry ∈ registry.entries, entry.1.number ≠ 0
  below_next : ∀ entry ∈ registry.entries, entry.1.number < registry.next
  /-- What was added and not removed, in the order of its registration. -/
  survivors : registry.entries = (enrolled deeds).filter fun entry => entry.1 ∉ struck deeds
  gone : ∀ id ∈ struck deeds, registry.contains id = false
  size : registry.size = (enrolled deeds).length - (struck deeds).length

theorem Counts.orderly {deeds : List (Deed κ)} {registry : Registry κ} (counts : Counts deeds registry) :
    Orderly deeds registry where
  increasing := counts.increasing.imp UInt64.lt_iff_toNat_lt.mpr
  positive entry member zero := by
    have positive := (counts.bounds (counts.mem_enrolled member)).1
    rw [zero] at positive
    exact absurd positive (by decide)
  below_next entry member := by
    have bounds := counts.bounds (counts.mem_enrolled member)
    have next := counts.next
    rw [UInt64.lt_iff_toNat_lt]
    omega
  survivors := counts.survivors
  gone id member := by
    rw [Bool.eq_false_iff]
    intro listed
    obtain ⟨entry, alive, rfl⟩ := mem_of_contains.mp listed
    rw [counts.survivors, List.mem_filter] at alive
    exact of_decide_eq_true alive.2 member
  size := by
    have size := counts.size
    omega

/-- **Identities of a registry over its lifetime.**

Whatever is done with a registry that starts empty, by its owner and by its callbacks in the middle of runs, is a
list of deeds. At every moment, as long as identities have not run out, identities increase along the entries, none is
zero, and the next one to be issued is above them all; the entries are those that were added and not removed, in
the order of their registration, and what was removed never comes back. The next deed at that moment adds
a callback last, under an identity that was never issued before, or takes out exactly the entry that it names and
answers yes, or changes nothing and answers no. If no callback starts a run of its own, all of it comes to
an end. -/
theorem identities_of_run (behave : Behaviour κ ρ ν) (program : Program (Request κ ρ ν) Request.Answer α)
    (notes : ν) :
    (∀ depth result final, (program.run (perform behave depth)).run ⟨.empty, notes⟩ = some (result, final) →
      ∃ deeds, Runs (chronicle behave) program ⟨.empty, notes⟩ deeds result final) ∧
    (∀ deeds result final, Runs (chronicle behave) program ⟨.empty, notes⟩ deeds result final →
      ∀ earlier later, deeds = earlier ++ later → (enrolled earlier).length < UInt64.size - 1 →
        ∃ registry, Linked .empty earlier registry ∧ Linked registry later final.registry ∧
          Orderly earlier registry ∧ ∀ deed ∈ later.head?, Settled earlier deed) ∧
    ((∀ callback record, (behave callback record).Asks Request.IsSingle) →
      ∀ depth, ((program.run (perform behave (depth + 2))).run ⟨.empty, notes⟩).isSome) := by
  refine ⟨?_, ?_, ?_⟩
  · intro depth result final ran
    obtain ⟨_, runs⟩ := Runs.of_run (perform_runs behave depth) ran
    exact runs.marked _
  · rintro _ result final runs earlier later rfl enough
    obtain ⟨registry, before, behind⟩ := linked_append_iff.mp (spanned_of_runs runs)
    have counts : Counts earlier registry := Counts.empty.append before enough
    refine ⟨registry, before, behind, counts.orderly, ?_⟩
    intro deed head
    obtain ⟨later, rfl⟩ := List.head?_eq_some_iff.mp head
    obtain ⟨rfl, -⟩ := linked_cons_iff.mp behind
    exact counts.settles
  · intro single depth
    refine Program.run_isSome ?_ (Program.Asks.free program) _
    intro request _ scene
    by_cases alone : request.IsSingle
    · exact perform_isSome behave (depth + 1) request alone scene
    · cases request with
      | run record =>
        exact walk_isSome (fun entry _ record scene =>
          Program.run_isSome (perform_isSome behave depth) (single entry.2 record) scene) record scene
      | _ => exact absurd trivial alone

/-- An owner registers three callbacks, runs a record past them, and removes the second one twice. -/
def errand : Program (Request Nat (List Nat) Unit) Request.Answer (Bool × Bool) := do
  let _ ← Program.request (.add 1)
  let second ← Program.request (.add 2)
  let _ ← Program.request (.add 3)
  let _ ← Program.request (.run [])
  let removed ← Program.request (.remove second)
  let again ← Program.request (.remove second)
  pure (removed, again)

/-- The registry after all: the third callback went in the middle of the run, the second one afterwards. -/
def aftermath : Registry Nat := ⟨[(⟨1⟩, 1), (⟨4⟩, 4)], 5⟩

/-- Of the four callbacks that were added, two are left. -/
theorem identities_of_run_meddling :
    (∃ deeds, Runs (chronicle meddling) errand ⟨.empty, ()⟩ deeds (true, false) ⟨aftermath, ()⟩) ∧
    (∃ deeds, Runs (chronicle meddling) errand ⟨.empty, ()⟩ deeds (true, false) ⟨aftermath, ()⟩ ∧
      (enrolled deeds).length = 4 ∧ struck deeds = [⟨3⟩, ⟨2⟩] ∧ Orderly deeds aftermath) ∧
    ((errand.run (perform meddling 2)).run ⟨.empty, ()⟩).isSome := by
  have single : ∀ callback record, (meddling callback record).Asks Request.IsSingle := by
    intro callback record
    unfold meddling
    split
    · exact ⟨trivial, fun _ => ⟨trivial, fun _ => trivial⟩⟩
    · exact trivial
    · exact trivial
  refine ⟨(identities_of_run meddling errand ()).1 2 _ _ rfl, ?_,
    (identities_of_run meddling errand ()).2.2 single 0⟩
  have runs : Runs (chronicle meddling) errand ⟨.empty, ()⟩ _ (true, false) ⟨aftermath, ()⟩ :=
    .ask (.done _ _) (.ask (.done _ _) (.ask (.done _ _)
      (.ask (.ask (.done _ _) (.ask (.done _ _) (.done _ _)))
        (.ask (.done _ _) (.ask (.done _ _) (.done _ _))))))
  obtain ⟨registry, -, behind, orderly, -⟩ :=
    (identities_of_run meddling errand ()).2.1 _ _ _ runs _ [] (List.append_nil _).symm (by decide)
  rw [← linked_nil_iff.mp behind] at orderly
  exact ⟨_, runs, by decide, by decide, orderly⟩

end CrashReporter.Registry
