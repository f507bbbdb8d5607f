/-
**JSON values.**

* `Json.tokens` and `Json.render` write a value compactly, members in the order they have;
* `Node.value?` reads a written form as a value: members are put in the order of their names, of
  which the last repetition counts, numerals become numbers, and arrays and objects may be nested
  only as deep as the given number of levels allows;
* `Json.same` is the equality of values.
-/

import CrashReporter.Dictionary
import CrashReporter.Json.Node

namespace CrashReporter

open Json (Number Piece Token)

/-- A JSON value. -/
inductive Json where
  | null
  | bool (value : Bool)
  | number (value : Json.Number)
  | string (value : String)
  | array (items : List Json)
  | object (members : List (String × Json))

namespace Json

instance : Inhabited Json := ⟨.null⟩

/-! ### Writing -/

/-- The string token of a string. -/
def textToken (value : String) : Token :=
  .text (value.toList.map .character)

mutual

/-- The tokens of a value. -/
def tokens : Json → List Token
  | .null => [.null]
  | .bool value => [.bool value]
  | .number value => [.numeral value.numeral]
  | .string value => [textToken value]
  | .array items => .openArray :: (itemTokens items ++ [.closeArray])
  | .object members => .openObject :: (memberTokens members ++ [.closeObject])

/-- The tokens of the items of an array. -/
def itemTokens : List Json → List Token
  | [] => []
  | [item] => item.tokens
  | item :: next :: rest => item.tokens ++ .comma :: itemTokens (next :: rest)

/-- The tokens of the members of an object. -/
def memberTokens : List (String × Json) → List Token
  | [] => []
  | [(name, value)] => textToken name :: .colon :: value.tokens
  | (name, value) :: next :: rest =>
    textToken name :: .colon :: (value.tokens ++ .comma :: memberTokens (next :: rest))

end

/-- The compact text of a value. -/
def render (value : Json) : String :=
  String.ofList (value.tokens.flatMap Token.write)

/-! ### Equality -/

mutual

/-- Equality of values. -/
def same : Json → Json → Bool
  | .null, .null => true
  | .bool first, .bool second => first = second
  | .number first, .number second => first.same second
  | .string first, .string second => first = second
  | .array first, .array second => sameItems first second
  | .object first, .object second => sameMembers first second
  | _, _ => false

/-- Equality of items, one by one. -/
def sameItems : List Json → List Json → Bool
  | [], [] => true
  | first :: firsts, second :: seconds => first.same second && sameItems firsts seconds
  | _, _ => false

/-- Equality of members, one by one. -/
def sameMembers : List (String × Json) → List (String × Json) → Bool
  | [], [] => true
  | (firstName, first) :: firsts, (secondName, second) :: seconds =>
    firstName = secondName && first.same second && sameMembers firsts seconds
  | _, _ => false

end

instance : BEq Json := ⟨same⟩

/-! ### Reading -/

/-- The levels of nesting that a text may have. -/
def nestingLimit : Nat := 127

/-- The string of a string token, if no surrogate stands alone. -/
def pieces? (pieces : List Piece) : Option String :=
  (Piece.characters? pieces).map String.ofList

mutual

/-- The value of a written form nested at most `levels` deep. -/
def ofNode? (levels : Nat) : Node → Option Json
  | .null => some .null
  | .bool value => some (.bool value)
  | .numeral numeral => numeral.value?.map .number
  | .text pieces => (pieces? pieces).map .string
  | .array items =>
    match levels with
    | 0 => none
    | levels + 1 => (itemsOfNodes? levels items).map .array
  | .object members =>
    match levels with
    | 0 => none
    | levels + 1 => (membersOfNodes? levels members).map fun entries =>
        .object (Dictionary.ofList entries)

/-- The values of the items of an array. -/
def itemsOfNodes? (levels : Nat) : List Node → Option (List Json)
  | [] => some []
  | item :: rest => do
    let value ← ofNode? levels item
    let values ← itemsOfNodes? levels rest
    pure (value :: values)

/-- The members of an object in their order. -/
def membersOfNodes? (levels : Nat) : List (List Piece × Node) → Option (List (String × Json))
  | [] => some []
  | (name, item) :: rest => do
    let name ← pieces? name
    let value ← ofNode? levels item
    let values ← membersOfNodes? levels rest
    pure ((name, value) :: values)

end

/-- The value of a JSON text. -/
def parse? (text : String) : Option Json :=
  (Node.parse? text).bind (ofNode? nestingLimit)

/-- The value of a member. -/
def member? (name : String) : Json → Option Json
  | .object members => Dictionary.find? name members
  | _ => none

end Json

end CrashReporter
