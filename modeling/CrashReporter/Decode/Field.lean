/-
**Records read from data, by name or by position.**

A record with declared fields is written as an object, in which a field may be absent, or as an array of
its first fields in declared order, beyond which nothing is said. `Field` keeps these cases apart,
because they mean different things:

* a required field has to be present;
* an optional field may be absent from an object or null, but not beyond the end of an array;
* a field with a default takes it in both cases.
-/

namespace CrashReporter

/-- What data says about one declared field of a record. -/
inductive Field (α : Type) where
  /-- The field has a value. -/
  | present (value : α)
  /-- An object without the field. -/
  | absent
  /-- An array that ends before the field. -/
  | beyond

namespace Field

variable {α β : Type}

/-- The fields of a record written as an object with the given members, of which unknown ones do
not matter. A declared name that occurs twice is refused. -/
def ofMembers? (names : List String) (members : List (String × α)) : Option (List (Field α)) :=
  if names.all fun name => (members.filter fun member => member.1 = name).length ≤ 1 then
    some (names.map fun name =>
      match members.find? fun member => member.1 = name with
      | some (_, value) => .present value
      | none => .absent)
  else none

/-- The fields of a record written as an array with the given items. Items beyond the declared
fields do not matter. -/
def ofItems (names : List String) (items : List α) : List (Field α) :=
  (items.take names.length).map .present ++ List.replicate (names.length - items.length) .beyond

/-- A field that has to be present. -/
def required (decode : α → Option β) : Field α → Option β
  | .present value => decode value
  | _ => none

/-- A field that may be absent; `decode` reads null as absent, too. -/
def optional (decode : α → Option (Option β)) : Field α → Option (Option β)
  | .present value => decode value
  | .absent => some none
  | .beyond => none

/-- A field with a default. -/
def defaulted (value : β) (decode : α → Option β) : Field α → Option β
  | .present data => decode data
  | _ => some value

end Field

end CrashReporter
