/-
**Ways of writing a record that make no difference.**

`Alike` relates two trees of a record with declared fields if one becomes the other by moving members, by adding
and leaving out members with other names, by writing all values by position, and by writing the value of a
member in another way that makes no difference to it.

* `ofMembers?_perm`, `ofMembers?_cons_of_notMem`, `fields?_positional`: the first three do not change the fields;
* `fields?_member`: the last one changes one field to one that is alike;
* `bind_fields?_eq_of_alike`: a decoder that respects alike fields reads the same of alike trees.
-/

import CrashReporter.Proofs.Decode.Members
import CrashReporter.Proofs.Event.Members

namespace CrashReporter

open CrashReporter.Json (Node Piece)

namespace Field

variable {α β : Type} {names : List String} {members others : List (String × α)}

/-! ### Members that are moved or added -/

theorem Once.perm (once : Once names members) (moved : members.Perm others) : Once names others := by
  intro name declared
  rw [← (moved.map Prod.fst).count_eq]
  exact once name declared

theorem among_perm (moved : members.Perm others) {name : String}
    (once : (members.map Prod.fst).count name ≤ 1) : among members name = among others name := by
  have onceMoved : (others.map Prod.fst).count name ≤ 1 := by
    rwa [← (moved.map Prod.fst).count_eq]
  rcases among_cases others name with missing | ⟨value, given⟩
  · rcases among_cases members name with missingToo | ⟨value, given⟩
    · rw [missing, missingToo]
    · have member := moved.subset ((among_eq_present_iff once).mp given)
      rw [(among_eq_present_iff onceMoved).mpr member] at missing
      cases missing
  · have member := moved.symm.subset ((among_eq_present_iff onceMoved).mp given)
    rw [given, (among_eq_present_iff once).mpr member]

/-- **The order of members does not matter.** -/
theorem ofMembers?_perm (moved : members.Perm others) :
    ofMembers? names members = ofMembers? names others := by
  refine Option.ext fun fields => ?_
  rw [ofMembers?_eq_some_iff, ofMembers?_eq_some_iff]
  constructor
  · rintro ⟨once, rfl⟩
    exact ⟨once.perm moved, List.map_congr_left fun name declared => among_perm moved (once name declared)⟩
  · rintro ⟨once, rfl⟩
    exact ⟨once.perm moved.symm,
      List.map_congr_left fun name declared => among_perm moved.symm (once name declared)⟩

/-- **Members with other names do not matter.** -/
theorem ofMembers?_cons_of_notMem {name : String} (other : name ∉ names) (value : α)
    (members : List (String × α)) : ofMembers? names ((name, value) :: members) = ofMembers? names members := by
  have differs {declared : String} (listed : declared ∈ names) : name ≠ declared := by
    rintro rfl
    exact other listed
  have once : Once names ((name, value) :: members) ↔ Once names members := by
    refine forall₂_congr fun declared listed => ?_
    rw [List.map_cons, List.count_cons_of_ne (differs listed)]
  have same : names.map (among ((name, value) :: members)) = names.map (among members) := by
    refine List.map_congr_left fun declared listed => ?_
    unfold among
    rw [List.find?_cons_of_neg (by simpa using differs listed)]
  refine Option.ext fun fields => ?_
  rw [ofMembers?_eq_some_iff, ofMembers?_eq_some_iff, once, same]

/-! ### Fields that are alike -/

/-- Two fields are the same, or have values that are alike. -/
def Alike (inner : α → α → Prop) (first second : Field α) : Prop :=
  first = second ∨ ∃ value other, first = .present value ∧ second = .present other ∧ inner value other

variable {inner : α → α → Prop} {first second : Field α}

/-- A way of reading fields makes no difference between alike ones, if it makes none between their values. -/
theorem Alike.congr (alike : Alike inner first second) (read : Field α → β)
    (respects : ∀ value other, inner value other → read (.present value) = read (.present other)) :
    read first = read second := by
  rcases alike with rfl | ⟨value, other, rfl, rfl, related⟩
  · rfl
  · exact respects value other related

/-- Where the value of a member is written in another way, the fields are alike. -/
theorem among_member {inner : String → α → α → Prop} {name : String} {value other : α}
    (related : inner name value other) (before after : List (String × α)) (declared : String) :
    (among (before ++ (name, value) :: after) declared).Alike (inner declared)
      (among (before ++ (name, other) :: after) declared) := by
  unfold among
  rw [List.find?_append, List.find?_append]
  cases before.find? fun member => member.1 = declared with
  | some member => exact .inl rfl
  | none =>
    by_cases same : name = declared
    · subst same
      rw [List.find?_cons_of_pos (by simp), List.find?_cons_of_pos (by simp)]
      exact .inr ⟨value, other, rfl, rfl, related⟩
    · rw [List.find?_cons_of_neg (by simpa using same), List.find?_cons_of_neg (by simpa using same)]
      exact .inl rfl

theorem once_member {name : String} {value other : α} {before after : List (String × α)} :
    Once names (before ++ (name, value) :: after) ↔ Once names (before ++ (name, other) :: after) := by
  unfold Once
  rw [List.map_append, List.map_append, List.map_cons, List.map_cons]

end Field

namespace Decode

variable {names : List String} {inner : String → Node → Node → Prop}

/-! ### Trees that are alike -/

/-- Two trees of a record that differ in ways that make no difference. -/
inductive Alike (names : List String) (inner : String → Node → Node → Prop) : Node → Node → Prop
  | refl (node : Node) : Alike names inner node node
  | symm {node other : Node} : Alike names inner node other → Alike names inner other node
  | trans {node middle other : Node} :
      Alike names inner node middle → Alike names inner middle other → Alike names inner node other
  /-- Members are moved. -/
  | order {members others : List (List Piece × Node)} (moved : members.Perm others) :
      Alike names inner (.object members) (.object others)
  /-- A member with another name is left out. -/
  | unknown {pieces : List Piece} {name : String} (read : Json.pieces? pieces = some name)
      (other : name ∉ names) (node : Node) (members : List (List Piece × Node)) :
      Alike names inner (.object ((pieces, node) :: members)) (.object members)
  /-- All values in declared order are written under their names. -/
  | positional {items : List Node} {members : List (List Piece × Node)}
      (full : items.length = names.length) (written : members? members = some (names.zip items)) :
      Alike names inner (.array items) (.object members)
  /-- The value of a member is written in another way. -/
  | member {pieces : List Piece} {name : String} {node other : Node}
      (before after : List (List Piece × Node)) (read : Json.pieces? pieces = some name)
      (alike : inner name node other) :
      Alike names inner (.object (before ++ (pieces, node) :: after))
        (.object (before ++ (pieces, other) :: after))

theorem members?_eq_some_iff {members : List (List Piece × Node)} {named : List (String × Node)} :
    members? members = some named ↔
      (∀ member ∈ members, (Json.pieces? member.1).isSome = true) ∧
        named = members.filterMap fun member => (Json.pieces? member.1).map (·, member.2) := by
  rw [members?_eq, mapM_eq_some_iff]
  simp only [Option.isSome_map]

theorem members?_perm {members others : List (List Piece × Node)} (moved : members.Perm others)
    {named : List (String × Node)} (read : members? members = some named) :
    ∃ others', members? others = some others' ∧ named.Perm others' := by
  obtain ⟨each, rfl⟩ := members?_eq_some_iff.mp read
  exact ⟨_, members?_eq_some_iff.mpr ⟨fun member listed => each member (moved.symm.subset listed), rfl⟩,
    moved.filterMap _⟩

theorem fields?_order {members others : List (List Piece × Node)} (moved : members.Perm others) :
    fields? names (.object members) = fields? names (.object others) := by
  have onward {members others : List (List Piece × Node)} (moved : members.Perm others)
      {fields : List (Field Node)} (read : fields? names (.object members) = some fields) :
      fields? names (.object others) = some fields := by
    obtain ⟨named, listed, looked⟩ := Option.bind_eq_some_iff.mp read
    obtain ⟨named', listed', movedToo⟩ := members?_perm moved listed
    rw [fields?, listed', Option.bind_some, ← Field.ofMembers?_perm movedToo, looked]
  exact Option.ext fun fields => ⟨onward moved, onward moved.symm⟩

theorem fields?_unknown {pieces : List Piece} {name : String} (read : Json.pieces? pieces = some name)
    (other : name ∉ names) (node : Node) (members : List (List Piece × Node)) :
    fields? names (.object ((pieces, node) :: members)) = fields? names (.object members) := by
  rw [fields?, fields?, members?, read]
  show (members? members >>= fun named => some ((name, node) :: named)).bind _ = _
  cases members? members with
  | none => rfl
  | some named => exact Field.ofMembers?_cons_of_notMem other node named

theorem fields?_positional (nodup : names.Nodup) {items : List Node} {members : List (List Piece × Node)}
    (full : items.length = names.length) (written : members? members = some (names.zip items)) :
    fields? names (.array items) = fields? names (.object members) := by
  rw [fields?, fields?, written, Option.bind_some, Field.ofMembers?_zip nodup (Nat.le_of_eq full),
    if_pos (Nat.le_of_eq full)]
  unfold Field.ofItems
  rw [full, Nat.sub_self, ← full, List.take_length]
  rfl

theorem members?_append {pieces : List Piece} {name : String} (read : Json.pieces? pieces = some name)
    (before after : List (List Piece × Node)) (node : Node) {named : List (String × Node)} :
    members? (before ++ (pieces, node) :: after) = some named ↔
      ∃ earlier later, members? before = some earlier ∧ members? after = some later ∧
        named = earlier ++ (name, node) :: later := by
  simp only [members?_eq_some_iff, List.filterMap_append, List.filterMap_cons, read, Option.map_some,
    List.forall_mem_append, List.forall_mem_cons, Option.isSome_some, true_and]
  constructor
  · rintro ⟨⟨first, second⟩, rfl⟩
    exact ⟨_, _, ⟨first, rfl⟩, ⟨second, rfl⟩, rfl⟩
  · rintro ⟨_, _, ⟨first, rfl⟩, ⟨second, rfl⟩, rfl⟩
    exact ⟨⟨first, second⟩, rfl⟩

/-- Where the value of a member is written in another way, each field is the same or alike. -/
theorem fields?_member {pieces : List Piece} {name : String} {node other : Node}
    (before after : List (List Piece × Node)) (read : Json.pieces? pieces = some name)
    (alike : inner name node other) {fields : List (Field Node)}
    (given : fields? names (.object (before ++ (pieces, node) :: after)) = some fields) :
    ∃ first second : String → Field Node, fields = names.map first ∧
      fields? names (.object (before ++ (pieces, other) :: after)) = some (names.map second) ∧
      ∀ declared, (first declared).Alike (inner declared) (second declared) := by
  obtain ⟨named, listed, looked⟩ := Option.bind_eq_some_iff.mp given
  obtain ⟨earlier, later, readBefore, readAfter, rfl⟩ := (members?_append read before after node).mp listed
  obtain ⟨once, rfl⟩ := Field.ofMembers?_eq_some_iff.mp looked
  refine ⟨_, Field.among (earlier ++ (name, other) :: later), rfl, ?_,
    Field.among_member alike earlier later⟩
  have rewritten : members? (before ++ (pieces, other) :: after) =
      some (earlier ++ (name, other) :: later) :=
    (members?_append read before after other).mpr ⟨earlier, later, readBefore, readAfter, rfl⟩
  rw [fields?, rewritten, Option.bind_some]
  exact Field.ofMembers?_eq_some_iff.mpr ⟨Field.once_member.mp once, rfl⟩

/-! ### Decoders that read the same of them -/

/-- What is made of the fields is the same for fields that are alike. -/
def Respects {α : Type} (names : List String) (inner : String → Node → Node → Prop)
    (combine : List (Field Node) → Option α) : Prop :=
  ∀ first second : String → Field Node,
    (∀ declared, (first declared).Alike (inner declared) (second declared)) →
      combine (names.map first) = combine (names.map second)

theorem Respects.member {α : Type} {combine : List (Field Node) → Option α}
    (respects : Respects names inner combine) {pieces : List Piece} {name : String} {node other : Node}
    (before after : List (List Piece × Node)) (read : Json.pieces? pieces = some name)
    (alike : inner name node other) :
    (fields? names (.object (before ++ (pieces, node) :: after))).bind combine =
      (fields? names (.object (before ++ (pieces, other) :: after))).bind combine := by
  cases given : fields? names (.object (before ++ (pieces, node) :: after)) with
  | some fields =>
    obtain ⟨first, second, rfl, givenOther, fieldsAlike⟩ := fields?_member before after read alike given
    rw [givenOther]
    exact respects first second fieldsAlike
  | none =>
    cases givenOther : fields? names (.object (before ++ (pieces, other) :: after)) with
    | none => rfl
    | some fields =>
      -- Whether there are fields at all does not depend on the value that was written in another way.
      obtain ⟨first, second, -, back, -⟩ := @fields?_member names (fun _ _ _ => True) pieces name other
        node before after read trivial fields givenOther
      rw [given] at back
      cases back

/-- **A decoder that respects fields that are alike reads the same of trees that are alike.** -/
theorem bind_fields?_eq_of_alike {α : Type} {combine : List (Field Node) → Option α} (nodup : names.Nodup)
    (respects : Respects names inner combine) {node other : Node} (alike : Alike names inner node other) :
    (fields? names node).bind combine = (fields? names other).bind combine := by
  induction alike with
  | refl node => rfl
  | symm _ ih => exact ih.symm
  | trans _ _ first second => exact first.trans second
  | order moved => rw [fields?_order moved]
  | unknown read other node members => rw [fields?_unknown read other node members]
  | positional full written => rw [fields?_positional nodup full written]
  | member before after read alike => exact respects.member before after read alike

/-- Alike trees are both null or both not. -/
theorem Alike.eq_null_iff {node other : Node} (alike : Alike names inner node other) :
    node = .null ↔ other = .null := by
  induction alike with
  | refl node => exact Iff.rfl
  | symm _ ih => exact ih.symm
  | trans _ _ first second => exact first.trans second
  | order moved => exact iff_of_false nofun nofun
  | unknown read other node members => exact iff_of_false nofun nofun
  | positional full written => exact iff_of_false nofun nofun
  | member before after read alike => exact iff_of_false nofun nofun

end Decode

end CrashReporter
