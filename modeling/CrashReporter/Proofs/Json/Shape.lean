/-
**Induction over values, and what holds everywhere inside one.**

* `Json.induct`: what holds of an array or object whenever it holds of its contents holds of every value;
* `Json.Everywhere`: something is told of a value and of all values inside it; `Whole` and `Ordered` are
  cases of it;
* `Json.depth`: how deep arrays and objects are nested.
-/

import CrashReporter.Json.Basic
import Mathlib.Tactic.Common

namespace CrashReporter.Json

/-- What holds of a value whenever it holds of everything inside it holds of all values. -/
@[elab_as_elim]
theorem induct {motive : Json → Prop} (null : motive .null) (bool : ∀ value, motive (.bool value))
    (number : ∀ value, motive (.number value)) (string : ∀ value, motive (.string value))
    (array : ∀ items, (∀ item ∈ items, motive item) → motive (.array items))
    (object : ∀ members, (∀ member ∈ members, motive member.2) → motive (.object members))
    (value : Json) : motive value := by
  refine @Json.rec motive (fun items => ∀ item ∈ items, motive item)
    (fun members => ∀ member ∈ members, motive member.2) (fun member => motive member.2)
    null bool number string array object ?_ ?_ ?_ ?_ ?_ value
  · exact fun item member => absurd member List.not_mem_nil
  · exact fun item items first others other member => (List.mem_cons.mp member).elim
      (fun same => same ▸ first) (others other)
  · exact fun member held => absurd held List.not_mem_nil
  · exact fun member members first others other held => (List.mem_cons.mp held).elim
      (fun same => same ▸ first) (others other)
  · exact fun name value held => held

/-! ### Everywhere inside a value -/

mutual

/-- It is told of a value and of all values inside it. -/
def Everywhere (told : Json → Prop) : Json → Prop
  | .array items => told (.array items) ∧ EverywhereItems told items
  | .object members => told (.object members) ∧ EverywhereMembers told members
  | value => told value

/-- It is told of all values inside some items. -/
def EverywhereItems (told : Json → Prop) : List Json → Prop
  | [] => True
  | item :: items => Everywhere told item ∧ EverywhereItems told items

/-- It is told of all values inside some members. -/
def EverywhereMembers (told : Json → Prop) : List (String × Json) → Prop
  | [] => True
  | (_, value) :: members => Everywhere told value ∧ EverywhereMembers told members

end

section Everywhere

variable {told : Json → Prop}

theorem everywhereItems_iff (items : List Json) :
    EverywhereItems told items ↔ ∀ item ∈ items, Everywhere told item := by
  induction items with
  | nil => simp [EverywhereItems]
  | cons item items ih => rw [EverywhereItems, ih, List.forall_mem_cons]

theorem everywhereMembers_iff (members : List (String × Json)) :
    EverywhereMembers told members ↔ ∀ member ∈ members, Everywhere told member.2 := by
  induction members with
  | nil => simp [EverywhereMembers]
  | cons member members ih => rw [EverywhereMembers, ih, List.forall_mem_cons]

theorem everywhere_array (items : List Json) : Everywhere told (.array items) ↔
    told (.array items) ∧ ∀ item ∈ items, Everywhere told item := by
  rw [Everywhere, everywhereItems_iff]

theorem everywhere_object (members : List (String × Json)) : Everywhere told (.object members) ↔
    told (.object members) ∧ ∀ member ∈ members, Everywhere told member.2 := by
  rw [Everywhere, everywhereMembers_iff]

end Everywhere

/-- A value is no double. -/
def IsWhole : Json → Prop
  | .number (.double _) => False
  | _ => True

/-- There is no double in a value. -/
def Whole (value : Json) : Prop := value.Everywhere IsWhole

/-- The members of a value, if it is an object, are a dictionary. -/
def HasOrderedMembers : Json → Prop
  | .object members => Dictionary.Ordered members
  | _ => True

/-- All objects in a value are dictionaries, as which they are kept. -/
def Ordered (value : Json) : Prop := value.Everywhere HasOrderedMembers

/-! ### Depth -/

mutual

/-- How deep arrays and objects are nested. -/
def depth : Json → Nat
  | .array items => depthOfItems items + 1
  | .object members => depthOfMembers members + 1
  | _ => 0

/-- The greatest depth of some items. -/
def depthOfItems : List Json → Nat
  | [] => 0
  | item :: items => max item.depth (depthOfItems items)

/-- The greatest depth of some members. -/
def depthOfMembers : List (String × Json) → Nat
  | [] => 0
  | (_, value) :: members => max value.depth (depthOfMembers members)

end

theorem depthOfItems_le_iff (items : List Json) (levels : Nat) :
    depthOfItems items ≤ levels ↔ ∀ item ∈ items, item.depth ≤ levels := by
  induction items with
  | nil => simp [depthOfItems]
  | cons item items ih => rw [depthOfItems, Nat.max_le, ih, List.forall_mem_cons]

theorem depthOfMembers_le_iff (members : List (String × Json)) (levels : Nat) :
    depthOfMembers members ≤ levels ↔ ∀ member ∈ members, member.2.depth ≤ levels := by
  induction members with
  | nil => simp [depthOfMembers]
  | cons member members ih => rw [depthOfMembers, Nat.max_le, ih, List.forall_mem_cons]

theorem depth_array_le_iff (items : List Json) (levels : Nat) :
    (Json.array items).depth ≤ levels + 1 ↔ ∀ item ∈ items, item.depth ≤ levels := by
  rw [depth, Nat.succ_le_succ_iff, depthOfItems_le_iff]

theorem depth_object_le_iff (members : List (String × Json)) (levels : Nat) :
    (Json.object members).depth ≤ levels + 1 ↔ ∀ member ∈ members, member.2.depth ≤ levels := by
  rw [depth, Nat.succ_le_succ_iff, depthOfMembers_le_iff]

end CrashReporter.Json
