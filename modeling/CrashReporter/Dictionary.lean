/-
**Dictionaries: finite maps from strings, kept in the order of their keys.**

Strings are ordered by code points, which is also the order of their UTF-8 octets. Every operation
keeps the keys strictly increasing, so that equal maps are equal lists and a listing needs no sort.
-/

namespace CrashReporter

/-- Keys with their values, keys strictly increasing. -/
abbrev Dictionary (α : Type) := List (String × α)

namespace Dictionary

variable {α : Type}

/-- The value of a key. -/
def find? (key : String) : Dictionary α → Option α
  | [] => none
  | (name, value) :: rest => if name = key then some value else find? key rest

/-- Sets the value of a key. -/
def insert (key : String) (value : α) : Dictionary α → Dictionary α
  | [] => [(key, value)]
  | (name, old) :: rest =>
    if key = name then (key, value) :: rest
    else if key < name then (key, value) :: (name, old) :: rest
    else (name, old) :: insert key value rest

/-- Removes a key. -/
def erase (key : String) : Dictionary α → Dictionary α
  | [] => []
  | (name, value) :: rest => if name = key then rest else (name, value) :: erase key rest

/-- The dictionary of some entries, of which the last one counts for each key. -/
def ofList (entries : List (String × α)) : Dictionary α :=
  entries.foldl (fun dictionary (key, value) => insert key value dictionary) []

/-- The keys in order. -/
def keys (dictionary : Dictionary α) : List String :=
  dictionary.map Prod.fst

/-- The keys are strictly increasing. -/
def Ordered (dictionary : Dictionary α) : Prop :=
  dictionary.keys.Pairwise (· < ·)

end Dictionary

end CrashReporter
