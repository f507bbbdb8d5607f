/-
**Fields of records, and reading one thing after another.**

* `ofMembers?_zip`: the declared fields of an object that was written, of which the last ones may be left
  out;
* `mem_of_ofMembers?`, `mem_of_ofItems`: the value of a field is the value of a member or of an item;
* `mapM_map`, `mem_of_mapM`: lists that are read item by item.
-/

import CrashReporter.Decode.Field
import Mathlib.Data.List.Nodup

namespace CrashReporter

/-! ### Steps -/

/-- Reading goes on with what has been read. -/
theorem bind_of_some {α β : Type} {read : Option α} {result : α} {next : α → Option β}
    (done : read = some result) : (read >>= next) = next result := by
  rw [done]
  rfl

/-- What was written of some values is read, if each of them is. -/
theorem mapM_map {α β γ : Type} {decode : α → Option γ} {write : β → α} {meant : β → γ}
    {values : List β} (reads : ∀ value ∈ values, decode (write value) = some (meant value)) :
    (values.map write).mapM decode = some (values.map meant) := by
  induction values with
  | nil => rfl
  | cons value values ih =>
    rw [List.map_cons, List.mapM_cons, reads value List.mem_cons_self,
      ih fun other member => reads other (List.mem_cons_of_mem _ member)]
    rfl

/-- What was written of some values is read back, if each of them is. -/
theorem mapM_map_self {α β : Type} {decode : α → Option β} {write : β → α} {values : List β}
    (reads : ∀ value ∈ values, decode (write value) = some value) :
    (values.map write).mapM decode = some values := by
  have read : (values.map write).mapM decode = some (values.map id) := mapM_map reads
  rwa [List.map_id] at read

/-- Whatever was read of some values was read of one of them. -/
theorem mem_of_mapM {α β : Type} {decode : α → Option β} {values : List α} {results : List β}
    (read : values.mapM decode = some results) :
    ∀ result ∈ results, ∃ value ∈ values, decode value = some result := by
  induction values generalizing results with
  | nil =>
    cases read
    exact fun result member => absurd member List.not_mem_nil
  | cons value values ih =>
    rw [List.mapM_cons] at read
    obtain ⟨first, one, others⟩ := Option.bind_eq_some_iff.mp read
    obtain ⟨rest, more, built⟩ := Option.bind_eq_some_iff.mp others
    cases built
    intro result member
    rcases List.mem_cons.mp member with rfl | later
    · exact ⟨value, List.mem_cons_self, one⟩
    · obtain ⟨origin, listed, good⟩ := ih more result later
      exact ⟨origin, List.mem_cons_of_mem _ listed, good⟩

/-! ### Fields -/

namespace Field

variable {α : Type}

/-- A declared field is looked up among the members. -/
def ofFound : Option (String × α) → Field α
  | some (_, value) => .present value
  | none => .absent

theorem map_zip {names : List String} {values : List α} (nodup : names.Nodup)
    (fits : values.length ≤ names.length) :
    names.map (fun name => ofFound ((names.zip values).find? fun member => member.1 = name)) =
      values.map .present ++ List.replicate (names.length - values.length) .absent := by
  induction names generalizing values with
  | nil =>
    rw [List.eq_nil_of_length_eq_zero (Nat.le_zero.mp fits)]
    rfl
  | cons name names ih =>
    cases values with
    | nil => exact List.map_const
    | cons value values =>
      obtain ⟨fresh, others⟩ := List.nodup_cons.mp nodup
      have rest : names.map (fun other =>
          ofFound (((name, value) :: names.zip values).find? fun member => member.1 = other)) =
            names.map fun other => ofFound ((names.zip values).find? fun member => member.1 = other) := by
        refine List.map_congr_left fun other member => ?_
        rw [List.find?_cons_of_neg (by simpa using fun same : name = other => fresh (same ▸ member))]
      rw [List.zip_cons_cons, List.map_cons, List.find?_cons_of_pos (by simp), rest,
        ih others (Nat.le_of_succ_le_succ fits), List.length_cons, List.length_cons,
        Nat.add_sub_add_right]
      rfl

/-- **The fields of an object that was written**: the values of the first declared names, and none for
those that were left out. -/
theorem ofMembers?_zip {names : List String} {values : List α} (nodup : names.Nodup)
    (fits : values.length ≤ names.length) :
    ofMembers? names (names.zip values) =
      some (values.map .present ++ List.replicate (names.length - values.length) .absent) := by
  have written : ((names.zip values).map Prod.fst).Nodup := by
    rw [List.zip_eq_zip_take_min, List.map_fst_zip (by simp)]
    exact nodup.sublist (List.take_sublist _ _)
  have once : names.all (fun name =>
      ((names.zip values).filter fun member => member.1 = name).length ≤ 1) = true := by
    rw [List.all_eq_true]
    intro name _
    have count := List.nodup_iff_count_le_one.mp written name
    rw [List.count_eq_countP, List.countP_map, List.countP_eq_length_filter] at count
    exact decide_eq_true count
  rw [ofMembers?, if_pos once]
  exact congrArg some (map_zip nodup fits)

/-- The value of a field of an object is the value of a member. -/
theorem mem_of_ofMembers? {names : List String} {members : List (String × α)}
    {fields : List (Field α)} (read : ofMembers? names members = some fields) {value : α}
    (listed : .present value ∈ fields) : ∃ name, (name, value) ∈ members := by
  unfold ofMembers? at read
  split_ifs at read
  cases read
  obtain ⟨name, _, same⟩ := List.mem_map.mp listed
  split at same
  · next key found looked =>
    cases same
    exact ⟨key, List.mem_of_find?_eq_some looked⟩
  · cases same

/-- The value of a field of an array is an item. -/
theorem mem_of_ofItems {names : List String} {items : List α} {value : α}
    (listed : .present value ∈ ofItems names items) : value ∈ items := by
  rcases List.mem_append.mp listed with given | left
  · obtain ⟨item, member, same⟩ := List.mem_map.mp given
    cases same
    exact List.mem_of_mem_take member
  · cases List.eq_of_mem_replicate left

/-- A required field was present. -/
theorem present_of_required {β : Type} {decode : α → Option β} {field : Field α} {value : β}
    (read : field.required decode = some value) :
    ∃ data, field = .present data ∧ decode data = some value := by
  cases field with
  | present data => exact ⟨data, rfl, read⟩
  | absent => cases read
  | beyond => cases read

/-- A field with a default was present, or the default was taken. -/
theorem present_of_defaulted {β : Type} {default : β} {decode : α → Option β} {field : Field α}
    {value : β} (read : field.defaulted default decode = some value) :
    value = default ∨ ∃ data, field = .present data ∧ decode data = some value := by
  cases field with
  | present data => exact .inr ⟨data, rfl, read⟩
  | absent => exact .inl (Option.some.inj read).symm
  | beyond => exact .inl (Option.some.inj read).symm

end Field

end CrashReporter
