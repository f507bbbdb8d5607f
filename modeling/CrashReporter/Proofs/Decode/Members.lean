/-
**What the members of an object say about declared fields.**

* `mapM_eq_some_iff`: a list is read item by item exactly if each item is;
* `ofMembers?_eq_some_iff`: the fields of an object are looked up among its members, no declared name of which
  may occur twice (`Once`);
* `isSome_required`, `isSome_permitted`: a field that is demanded has to be there with a value that is read
  (`Demands`), and a field that is permitted may be missing (`Permits`).
-/

import CrashReporter.Proofs.Decode.Field

namespace CrashReporter

/-! ### Reading in steps -/

/-- What is read in two steps of which the second does not depend on the first is read if both are. -/
theorem isSome_bind_iff {α β : Type} {read : Option α} {next : α → Option β} {told : Prop}
    (later : ∀ value, (next value).isSome = true ↔ told) :
    (read >>= next).isSome = true ↔ read.isSome = true ∧ told := by
  cases read with
  | none => exact iff_of_false nofun nofun
  | some value => exact (later value).trans (iff_and_self.mpr fun _ => rfl)

theorem isSome_bind_some {α β : Type} (read : Option α) (make : α → β) :
    (read >>= fun value => some (make value)).isSome = true ↔ read.isSome = true := by
  cases read <;> rfl

/-- **A list is read exactly if each of its items is.** -/
theorem mapM_eq_some_iff {α β : Type} {decode : α → Option β} {values : List α} {results : List β} :
    values.mapM decode = some results ↔
      (∀ value ∈ values, (decode value).isSome = true) ∧ results = values.filterMap decode := by
  induction values generalizing results with
  | nil =>
    rw [List.mapM_nil, List.filterMap_nil, and_iff_right (by simp)]
    exact Option.some_inj.trans eq_comm
  | cons value values ih =>
    rw [List.mapM_cons, List.forall_mem_cons, List.filterMap_cons]
    cases read : decode value with
    | none => exact iff_of_false nofun fun both => by simp at both
    | some first =>
      simp only [Option.isSome_some, true_and]
      show (values.mapM decode >>= fun rest => some (first :: rest)) = some results ↔ _
      rw [Option.bind_eq_bind, Option.bind_eq_some_iff]
      constructor
      · rintro ⟨rest, others, built⟩
        obtain ⟨each, rfl⟩ := ih.mp others
        exact ⟨each, (Option.some.inj built).symm⟩
      · rintro ⟨each, rfl⟩
        exact ⟨_, ih.mpr ⟨each, rfl⟩, rfl⟩

theorem isSome_mapM_iff {α β : Type} {decode : α → Option β} {values : List α} :
    (values.mapM decode).isSome = true ↔ ∀ value ∈ values, (decode value).isSome = true := by
  rw [Option.isSome_iff_exists]
  constructor
  · rintro ⟨results, read⟩
    exact (mapM_eq_some_iff.mp read).1
  · intro each
    exact ⟨_, mapM_eq_some_iff.mpr ⟨each, rfl⟩⟩

namespace Field

variable {α β : Type} {names : List String} {members : List (String × α)} {name : String}

/-! ### Fields of an object -/

/-- No declared name occurs twice. -/
def Once (names : List String) (members : List (String × α)) : Prop :=
  ∀ name ∈ names, (members.map Prod.fst).count name ≤ 1

/-- What members say about a declared field. -/
def among (members : List (String × α)) (name : String) : Field α :=
  ofFound (members.find? fun member => member.1 = name)

theorem count_eq_length_filter (members : List (String × α)) (name : String) :
    (members.map Prod.fst).count name = (members.filter fun member => member.1 = name).length := by
  rw [List.count_eq_countP, List.countP_map, List.countP_eq_length_filter]
  rfl

/-- **The fields of an object are looked up among its members.** -/
theorem ofMembers?_eq_some_iff {fields : List (Field α)} :
    ofMembers? names members = some fields ↔ Once names members ∧ fields = names.map (among members) := by
  have once : names.all (fun name =>
      (members.filter fun member => member.1 = name).length ≤ 1) = true ↔ Once names members := by
    rw [List.all_eq_true]
    refine forall₂_congr fun name _ => ?_
    rw [decide_eq_true_iff, count_eq_length_filter]
  unfold ofMembers?
  by_cases single : Once names members
  · rw [if_pos (once.mpr single), Option.some_inj, eq_comm, and_iff_right single]
    rfl
  · rw [if_neg (mt once.mp single)]
    exact iff_of_false nofun fun both => single both.1

/-- A name that occurs once is found with its value. -/
theorem among_eq_present_iff (once : (members.map Prod.fst).count name ≤ 1) {value : α} :
    among members name = .present value ↔ (name, value) ∈ members := by
  have found : among members name = .present value ↔
      members.find? (fun member => member.1 = name) = some (name, value) := by
    unfold among
    cases look : members.find? fun member => member.1 = name with
    | none => exact iff_of_false nofun nofun
    | some member =>
      obtain ⟨key, other⟩ := member
      have same : key = name := by simpa using List.find?_some look
      subst same
      simp [ofFound]
  rw [found]
  constructor
  · exact List.mem_of_find?_eq_some
  · intro member
    have kept : (name, value) ∈ members.filter fun member => member.1 = name := by simp [member]
    rw [count_eq_length_filter] at once
    rw [← List.head?_filter]
    obtain ⟨first, rest, split⟩ := List.exists_cons_of_ne_nil (List.ne_nil_of_mem kept)
    rw [split, List.length_cons] at once
    obtain rfl : rest = [] := List.length_eq_zero_iff.mp (by omega)
    rw [split] at kept ⊢
    rw [List.mem_singleton.mp kept, List.head?_cons]

theorem among_cases (members : List (String × α)) (name : String) :
    among members name = .absent ∨ ∃ value, among members name = .present value := by
  unfold among
  cases members.find? fun member => member.1 = name with
  | none => exact .inl rfl
  | some member => exact .inr ⟨member.2, rfl⟩

/-! ### Rules -/

/-- A member of the name is there, and its value is as told. -/
def Demands (members : List (String × α)) (name : String) (told : α → Prop) : Prop :=
  ∃ value, (name, value) ∈ members ∧ told value

/-- A member of the name may be missing; if one is there, its value is as told. -/
def Permits (members : List (String × α)) (name : String) (told : α → Prop) : Prop :=
  ∀ value, (name, value) ∈ members → told value

variable {decode : α → Option β} (once : (members.map Prod.fst).count name ≤ 1)

include once

theorem demands_iff {told : α → Prop} :
    Demands members name told ↔ ∃ value, among members name = .present value ∧ told value := by
  simp only [Demands, among_eq_present_iff once]

theorem permits_iff {told : α → Prop} :
    Permits members name told ↔ ∀ value, among members name = .present value → told value := by
  simp only [Permits, among_eq_present_iff once]

theorem isSome_required : ((among members name).required decode).isSome = true ↔
    Demands members name fun value => (decode value).isSome = true := by
  rw [demands_iff once]
  rcases among_cases members name with missing | ⟨value, given⟩
  · rw [missing]
    exact iff_of_false nofun nofun
  · rw [given]
    simp [required]

theorem isSome_permitted {read : Field α → Option β} (reads : ∀ value, read (.present value) = decode value)
    (default : (read .absent).isSome = true) : (read (among members name)).isSome = true ↔
      Permits members name fun value => (decode value).isSome = true := by
  rw [permits_iff once]
  rcases among_cases members name with missing | ⟨value, given⟩
  · rw [missing]
    exact iff_of_true default nofun
  · rw [given, reads]
    simp

end Field

end CrashReporter
