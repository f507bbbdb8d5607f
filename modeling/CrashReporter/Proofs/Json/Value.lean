/-
**Reading a tree as a value, in both directions.**

* `ofNode?_toNode`: the tree of a value is read as the value, if it is not nested too deep;
* `ofNode?_sound`: whatever tree is read, the value is kept as dictionaries, is nested no deeper than
  allowed, and holds a double only if a numeral of the tree means one.
-/

import CrashReporter.Proofs.Decode.Field
import CrashReporter.Proofs.Dictionary.Ordered
import CrashReporter.Proofs.Json.Tree

namespace CrashReporter.Json

/-! ### Items and members, one by one -/

/-- The member of a written form. -/
def memberOfNode? (levels : Nat) (node : List Piece × Node) : Option (String × Json) := do
  let name ← pieces? node.1
  let value ← ofNode? levels node.2
  pure (name, value)

theorem itemsOfNodes?_eq (levels : Nat) (nodes : List Node) :
    itemsOfNodes? levels nodes = nodes.mapM (ofNode? levels) := by
  induction nodes with
  | nil => rfl
  | cons node nodes ih =>
    rw [itemsOfNodes?, ih, List.mapM_cons]

theorem membersOfNodes?_eq (levels : Nat) (nodes : List (List Piece × Node)) :
    membersOfNodes? levels nodes = nodes.mapM (memberOfNode? levels) := by
  induction nodes with
  | nil => rfl
  | cons node nodes ih =>
    obtain ⟨pieces, node⟩ := node
    rw [membersOfNodes?, ih, List.mapM_cons, memberOfNode?]
    simp only [bind_assoc, pure_bind]

/-! ### Values that were written -/

/-- **The tree of a value is read as the value**, if it holds no double and is not nested too deep. -/
theorem ofNode?_toNode {value : Json} (whole : value.Whole) (ordered : value.Ordered) {levels : Nat}
    (shallow : value.depth ≤ levels) : ofNode? levels value.toNode = some value := by
  induction value using induct generalizing levels with
  | null => rw [toNode, ofNode?]
  | bool value => rw [toNode, ofNode?]
  | number value =>
    cases value with
    | integer value fits =>
      rw [toNode, ofNode?, Number.numeral, value?_integerNumeral fits, Option.map_some]
    | double value => exact whole.elim
  | string value => rw [toNode, ofNode?, pieces?_readPieces, Option.map_some]
  | array items ih =>
    have inner := ((everywhere_array items).mp whole).2
    have sorted := ((everywhere_array items).mp ordered).2
    cases levels with
    | zero => exact absurd shallow (by simp [depth])
    | succ levels =>
      have below := (depth_array_le_iff items levels).mp shallow
      rw [toNode, ofNode?, itemNodes_eq, itemsOfNodes?_eq, mapM_map_self, Option.map_some]
      exact fun item member =>
        ih item member (inner item member) (sorted item member) (below item member)
  | object members ih =>
    have inner := ((everywhere_object members).mp whole).2
    obtain ⟨keys, sorted⟩ := (everywhere_object members).mp ordered
    cases levels with
    | zero => exact absurd shallow (by simp [depth])
    | succ levels =>
      have below := (depth_object_le_iff members levels).mp shallow
      have read : (members.map pairNode).mapM (memberOfNode? levels) = some members := by
        refine mapM_map_self fun member held => ?_
        have value := ih member held (inner member held) (sorted member held) (below member held)
        rw [memberOfNode?, pairNode, pieces?_readPieces, value]
        rfl
      rw [toNode, ofNode?, memberNodes_eq, membersOfNodes?_eq, read, Option.map_some,
        Dictionary.ofList_of_ordered keys]

/-! ### Trees that are read -/

/-- What holds of a tree whenever it holds of everything inside it holds of all trees. -/
@[elab_as_elim]
theorem Node.induct {motive : Node → Prop} (null : motive .null)
    (bool : ∀ value, motive (.bool value)) (numeral : ∀ figure, motive (.numeral figure))
    (text : ∀ pieces, motive (.text pieces))
    (array : ∀ items, (∀ item ∈ items, motive item) → motive (.array items))
    (object : ∀ members, (∀ member ∈ members, motive member.2) → motive (.object members))
    (node : Node) : motive node := by
  refine @Node.rec motive (fun items => ∀ item ∈ items, motive item)
    (fun members => ∀ member ∈ members, motive member.2) (fun member => motive member.2)
    null bool numeral text array object ?_ ?_ ?_ ?_ ?_ node
  · exact fun item member => absurd member List.not_mem_nil
  · exact fun item items first others other member => (List.mem_cons.mp member).elim
      (fun same => same ▸ first) (others other)
  · exact fun member held => absurd held List.not_mem_nil
  · exact fun member members first others other held => (List.mem_cons.mp held).elim
      (fun same => same ▸ first) (others other)
  · exact fun name value held => held

mutual

/-- No numeral of a tree means a double. -/
def Node.Whole : Node → Prop
  | .numeral figure => ∀ value, figure.value? ≠ some (.double value)
  | .array items => Node.WholeItems items
  | .object members => Node.WholeMembers members
  | _ => True

/-- No numeral of some trees means a double. -/
def Node.WholeItems : List Node → Prop
  | [] => True
  | item :: items => item.Whole ∧ Node.WholeItems items

/-- No numeral of some members means a double. -/
def Node.WholeMembers : List (List Piece × Node) → Prop
  | [] => True
  | (_, node) :: members => node.Whole ∧ Node.WholeMembers members

end

theorem Node.wholeItems_iff (items : List Node) :
    Node.WholeItems items ↔ ∀ item ∈ items, item.Whole := by
  induction items with
  | nil => simp [Node.WholeItems]
  | cons item items ih => rw [Node.WholeItems, ih, List.forall_mem_cons]

theorem Node.wholeMembers_iff (members : List (List Piece × Node)) :
    Node.WholeMembers members ↔ ∀ member ∈ members, member.2.Whole := by
  induction members with
  | nil => simp [Node.WholeMembers]
  | cons member members ih => rw [Node.WholeMembers, ih, List.forall_mem_cons]

/-- What a value that was read satisfies. -/
structure Sound (levels : Nat) (node : Node) (value : Json) : Prop where
  ordered : value.Ordered
  shallow : value.depth ≤ levels
  whole : node.Whole → value.Whole

theorem sound_leaf {levels : Nat} {node : Node} {value : Json} (ordered : value.Ordered)
    (flat : value.depth = 0) (whole : node.Whole → value.Whole) : Sound levels node value :=
  ⟨ordered, flat ▸ Nat.zero_le levels, whole⟩

/-- An array is sound, if its items are read one level below. -/
theorem sound_array {levels : Nat} {node : Node} {items : List Json}
    (inner : ∀ item ∈ items, ∃ origin, Sound levels origin item ∧ (node.Whole → origin.Whole)) :
    Sound (levels + 1) node (.array items) := by
  refine ⟨(everywhere_array items).mpr ⟨trivial, fun item member => ?_⟩,
    (depth_array_le_iff items levels).mpr fun item member => ?_,
    fun whole => (everywhere_array items).mpr ⟨trivial, fun item member => ?_⟩⟩
  · obtain ⟨origin, sound, _⟩ := inner item member
    exact sound.ordered
  · obtain ⟨origin, sound, _⟩ := inner item member
    exact sound.shallow
  · obtain ⟨origin, sound, inherited⟩ := inner item member
    exact sound.whole (inherited whole)

/-- An object is sound, if its members are read one level below. -/
theorem sound_object {levels : Nat} {node : Node} {members : List (String × Json)}
    (ordered : Dictionary.Ordered members)
    (inner : ∀ member ∈ members, ∃ origin, Sound levels origin member.2 ∧ (node.Whole → origin.Whole)) :
    Sound (levels + 1) node (.object members) := by
  refine ⟨(everywhere_object _).mpr ⟨ordered, fun member held => ?_⟩,
    (depth_object_le_iff _ levels).mpr fun member held => ?_,
    fun whole => (everywhere_object _).mpr ⟨trivial, fun member held => ?_⟩⟩
  · obtain ⟨origin, sound, _⟩ := inner member held
    exact sound.ordered
  · obtain ⟨origin, sound, _⟩ := inner member held
    exact sound.shallow
  · obtain ⟨origin, sound, inherited⟩ := inner member held
    exact sound.whole (inherited whole)

/-- **Whatever is read of a tree is sound.** -/
theorem ofNode?_sound {levels : Nat} {node : Node} {value : Json}
    (read : ofNode? levels node = some value) : Sound levels node value := by
  induction node using Node.induct generalizing levels value with
  | null =>
    cases read
    exact sound_leaf trivial rfl fun _ => trivial
  | bool truth =>
    cases read
    exact sound_leaf trivial rfl fun _ => trivial
  | numeral figure =>
    obtain ⟨number, meant, rfl⟩ := Option.map_eq_some_iff.mp read
    refine sound_leaf trivial rfl fun whole => ?_
    cases number with
    | integer value fits => trivial
    | double value => exact absurd meant (whole value)
  | text pieces =>
    obtain ⟨content, _, rfl⟩ := Option.map_eq_some_iff.mp read
    exact sound_leaf trivial rfl fun _ => trivial
  | array nodes ih =>
    cases levels with
    | zero => cases read
    | succ levels =>
      obtain ⟨items, listed, rfl⟩ := Option.map_eq_some_iff.mp read
      rw [itemsOfNodes?_eq] at listed
      refine sound_array fun item member => ?_
      obtain ⟨node, held, decoded⟩ := mem_of_mapM listed item member
      exact ⟨node, ih node held decoded, fun whole => (Node.wholeItems_iff nodes).mp whole node held⟩
  | object nodes ih =>
    cases levels with
    | zero => cases read
    | succ levels =>
      obtain ⟨entries, listed, rfl⟩ := Option.map_eq_some_iff.mp read
      rw [membersOfNodes?_eq] at listed
      refine sound_object (Dictionary.ofList_ordered entries) fun member held => ?_
      obtain ⟨node, there, decoded⟩ := mem_of_mapM listed member (Dictionary.mem_ofList held)
      obtain ⟨name, _, read⟩ := Option.bind_eq_some_iff.mp decoded
      obtain ⟨value, gotten, built⟩ := Option.bind_eq_some_iff.mp read
      cases built
      exact ⟨node.2, ih node there gotten, fun whole => (Node.wholeMembers_iff nodes).mp whole node there⟩

end CrashReporter.Json
