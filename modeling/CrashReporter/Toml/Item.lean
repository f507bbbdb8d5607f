/-
**TOML tables, and how statements build them.**

A table remembers how it came to be, because that decides which later statements may add to it:

* `insert?` adds a value under a dotted key. It goes on through tables that dotted keys made, and
  never into one that has a header of its own;
* `openTable?` opens the table of a header `[a.b]`, which may exist only as the parent of another one;
* `openElement?` appends a table to the array of a header `[[a.b]]`.

A key is never given a second value.
-/

namespace CrashReporter.Toml

/-- How a table came to be. -/
inductive Origin where
  /-- By its own header, or it is the root. -/
  | explicit
  /-- By the header of a table inside it. -/
  | implied
  /-- By a dotted key. -/
  | dotted
  /-- By braces. -/
  | inline
  deriving DecidableEq, Repr

/-- A TOML value. No setting is a float or a moment, so these are kept by their kind only. -/
inductive Item where
  | string (value : String)
  | integer (value : Int)
  | float
  | boolean (value : Bool)
  /-- A date, a time of day or both. -/
  | moment
  | array (items : List Item)
  | table (origin : Origin) (entries : List (String × Item))
  /-- An array of tables made by headers, one per element. -/
  | tables (elements : List (List (String × Item)))
  deriving Repr

/-- The entries of a table in the order of their first statements. -/
abbrev Entries := List (String × Item)

namespace Entries

/-- Replaces the value of a key by what `edit` makes of it; none if it refuses. -/
def alter? (key : String) (edit : Option Item → Option Item) : Entries → Option Entries
  | [] => (edit none).map fun item => [(key, item)]
  | (name, item) :: rest =>
    if name = key then (edit (some item)).map fun item => (name, item) :: rest
    else (alter? key edit rest).map ((name, item) :: ·)

/-- Replaces the last element of an array of tables. -/
def alterLast? (edit : Entries → Option Entries) : List Entries → Option (List Entries)
  | [] => none
  | [last] => (edit last).map ([·])
  | first :: next :: rest => (alterLast? edit (next :: rest)).map (first :: ·)

/-- Adds a value under a key that has none. -/
def add? (key : String) (item : Item) (entries : Entries) : Option Entries :=
  alter? key (fun present => if present.isNone then some item else none) entries

/-- Adds a value under a dotted key, given by its leading parts and its last one. The last part goes
into a table that dotted keys made. -/
def insert? (key : String) (item : Item) : List String → Entries → Option Entries
  | [], entries => add? key item entries
  | part :: path, entries =>
    alter? part
      (fun
        | none => (insert? key item path []).map (.table .dotted)
        | some (.table .dotted inner) => (insert? key item path inner).map (.table .dotted)
        | some (.table .implied inner) =>
          if path = [] then none else (insert? key item path inner).map (.table .implied)
        | some (.tables elements) =>
          if path = [] then none else (alterLast? (insert? key item path) elements).map .tables
        | some _ => none)
      entries

/-- Edits the table at the end of a path of headers. Missing tables on the way are made, and an
array of tables stands for its last element. -/
def within? (edit : Entries → Option Entries) : List String → Entries → Option Entries
  | [], entries => edit entries
  | part :: path, entries =>
    alter? part
      (fun
        | none => (within? edit path []).map (.table .implied)
        | some (.table .inline _) => none
        | some (.table origin inner) => (within? edit path inner).map (.table origin)
        | some (.tables elements) => (alterLast? (within? edit path) elements).map .tables
        | some _ => none)
      entries

/-- Opens the table of a header. -/
def openTable? (path : List String) (key : String) (root : Entries) : Option Entries :=
  within?
    (alter? key fun
      | none => some (.table .explicit [])
      | some (.table .implied inner) => some (.table .explicit inner)
      | some _ => none)
    path root

/-- Opens another element of the array of tables of a header. -/
def openElement? (path : List String) (key : String) (root : Entries) : Option Entries :=
  within?
    (alter? key fun
      | none => some (.tables [[]])
      | some (.tables elements) => some (.tables (elements ++ [[]]))
      | some _ => none)
    path root

end Entries

end CrashReporter.Toml
