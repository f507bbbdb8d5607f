/-
**TOML documents.**

* `value?` reads a value; arrays and inline tables may be nested `nestingLimit` levels deep;
* `statements?` reads a document line by line and keeps the path of the latest header;
* `parse?` gives the root table of a document.
-/

import CrashReporter.Toml.Scalar

namespace CrashReporter.Toml

mutual

/-- Reads a value. -/
def value? : Nat → Nat → Reader Item
  | 0, _, _ => none
  | steps + 1, levels, characters =>
    match characters with
    | '[' :: rest =>
      match levels with
      | 0 => none
      | levels + 1 => (items? steps levels rest).map fun (items, rest) => (.array items, rest)
    | '\x7b' :: rest =>
      match levels with
      | 0 => none
      | levels + 1 =>
        match skipBlanks rest with
        | '\x7d' :: rest => some (.table .inline [], rest)
        | rest =>
          (pairs? steps levels [] rest).map fun (entries, rest) => (.table .inline entries, rest)
    | 't' :: 'r' :: 'u' :: 'e' :: rest => some (.boolean true, rest)
    | 'f' :: 'a' :: 'l' :: 's' :: 'e' :: rest => some (.boolean false, rest)
    | '"' :: _ => (string? characters).map fun (value, rest) => (.string value, rest)
    | '\'' :: _ => (string? characters).map fun (value, rest) => (.string value, rest)
    | characters => figure? characters

/-- Reads the items of an array and its end. A comma may follow the last item. -/
def items? : Nat → Nat → Reader (List Item)
  | 0, _, _ => none
  | steps + 1, levels, characters =>
    match skipGap characters with
    | ']' :: rest => some ([], rest)
    | characters => do
      let (item, rest) ← value? steps levels characters
      match skipGap rest with
      | ',' :: rest =>
        let (items, rest) ← items? steps levels rest
        pure (item :: items, rest)
      | ']' :: rest => pure ([item], rest)
      | _ => none

/-- Reads the pairs of an inline table and its end onto the entries read so far. -/
def pairs? : Nat → Nat → Entries → Reader Entries
  | 0, _, _, _ => none
  | steps + 1, levels, entries, characters => do
    let ((path, key), rest) ← key? characters
    let rest ← mark? '=' rest
    let (item, rest) ← value? steps levels (skipBlanks rest)
    let entries ← entries.insert? key item path
    match skipBlanks rest with
    | ',' :: rest => pairs? steps levels entries rest
    | '\x7d' :: rest => pure (entries, rest)
    | _ => none

end

/-- Reads a pair of key and value and the end of its line into the table at the cursor. -/
def entry? (cursor : List String) (root : Entries) (characters : List Char) :
    Option (Entries × List Char) := do
  let ((path, key), rest) ← key? characters
  let rest ← mark? '=' rest
  let (item, rest) ← value? (2 * rest.length + 2) nestingLimit (skipBlanks rest)
  let rest ← lineEnd? rest
  let root ← Entries.within? (Entries.insert? key item path) cursor root
  pure (root, rest)

/-- Reads the remaining lines of a document. -/
def statements? : Nat → List String → Entries → List Char → Option Entries
  | 0, _, root, characters => if characters = [] then some root else none
  | steps + 1, cursor, root, characters =>
    match skipGap characters with
    | [] => some root
    | '[' :: '[' :: rest => do
      let ((path, key), rest) ← key? rest
      let rest ← mark? ']' rest
      let rest ← mark? ']' rest
      let rest ← lineEnd? rest
      let root ← root.openElement? path key
      statements? steps (path ++ [key]) root rest
    | '[' :: rest => do
      let ((path, key), rest) ← key? rest
      let rest ← mark? ']' rest
      let rest ← lineEnd? rest
      let root ← root.openTable? path key
      statements? steps (path ++ [key]) root rest
    | characters => do
      let (root, rest) ← entry? cursor root characters
      statements? steps cursor root rest

/-- Skips a byte order mark. -/
def skipMark : List Char → List Char
  | character :: rest => if character = Char.ofNat 0xFEFF then rest else character :: rest
  | [] => []

/-- The root table of a document. -/
def parse? (text : String) : Option Entries :=
  let characters := skipMark text.toList
  statements? characters.length [] [] characters

end CrashReporter.Toml
