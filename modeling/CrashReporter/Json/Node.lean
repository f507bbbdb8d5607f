/-
**The written form of a JSON value as a tree.**

A `Node` keeps what the text says before anyone asks for it: members in their order with repetitions,
numerals by their digits, strings by their pieces. What the text is asked for then decides what is
an error: a member that nobody asks for may hold any number and any escapes.

`Node.ofTokens?` builds the tree with a stack of the arrays and objects that are still open, one token
at a time, so nesting is bounded by nothing but the text.
-/

import CrashReporter.Json.Token

namespace CrashReporter.Json

/-- The written form of a JSON value. -/
inductive Node where
  | null
  | bool (value : Bool)
  | numeral (numeral : Numeral)
  | text (pieces : List Piece)
  | array (items : List Node)
  | object (members : List (List Piece × Node))
  deriving Repr

namespace Node

/-- An array or object that is still open, its contents newest first. -/
inductive Frame where
  | array (items : List Node)
  | object (members : List (List Piece × Node))
  /-- An object whose latest member, under `name`, awaits its value. -/
  | member (members : List (List Piece × Node)) (name : List Piece)

/-- What the next token has to be. -/
inductive Awaiting where
  /-- A value. -/
  | value
  /-- A value, or the end of an array that holds none yet. -/
  | firstItem
  /-- A comma or the end of the array. -/
  | nextItem
  /-- A name, or the end of an object that holds no member yet. -/
  | firstName
  /-- A name. -/
  | name
  /-- The colon after a name. -/
  | colon
  /-- A comma or the end of the object. -/
  | nextMember
  /-- Nothing: the value is complete. -/
  | nothing (root : Node)

/-- Puts a finished value where it belongs. -/
def place (node : Node) : List Frame → Awaiting × List Frame
  | .array items :: frames => (.nextItem, .array (node :: items) :: frames)
  | .member members name :: frames => (.nextMember, .object ((name, node) :: members) :: frames)
  | frames => (.nothing node, frames)

/-- Reads a token where a value may start. -/
def beginValue? (token : Token) (frames : List Frame) : Option (Awaiting × List Frame) :=
  match token with
  | .null => some (place .null frames)
  | .bool value => some (place (.bool value) frames)
  | .numeral figure => some (place (.numeral figure) frames)
  | .text pieces => some (place (.text pieces) frames)
  | .openArray => some (.firstItem, .array [] :: frames)
  | .openObject => some (.firstName, .object [] :: frames)
  | _ => none

/-- Ends the innermost array. -/
def closeArray? : List Frame → Option (Awaiting × List Frame)
  | .array items :: frames => some (place (.array items.reverse) frames)
  | _ => none

/-- Ends the innermost object. -/
def closeObject? : List Frame → Option (Awaiting × List Frame)
  | .object members :: frames => some (place (.object members.reverse) frames)
  | _ => none

/-- Begins a member of the innermost object. -/
def beginMember? (name : List Piece) : List Frame → Option (Awaiting × List Frame)
  | .object members :: frames => some (.colon, .member members name :: frames)
  | _ => none

/-- Reads a token. -/
def advance? (awaiting : Awaiting) (frames : List Frame) (token : Token) :
    Option (Awaiting × List Frame) :=
  match awaiting, token with
  | .value, token => beginValue? token frames
  | .firstItem, .closeArray => closeArray? frames
  | .firstItem, token => beginValue? token frames
  | .nextItem, .comma => some (.value, frames)
  | .nextItem, .closeArray => closeArray? frames
  | .firstName, .closeObject => closeObject? frames
  | .firstName, .text name => beginMember? name frames
  | .name, .text name => beginMember? name frames
  | .colon, .colon => some (.value, frames)
  | .nextMember, .comma => some (.name, frames)
  | .nextMember, .closeObject => closeObject? frames
  | _, _ => none

/-- Reads the remaining tokens. -/
def build? (awaiting : Awaiting) (frames : List Frame) : List Token → Option Node
  | [] =>
    match awaiting with
    | .nothing root => some root
    | _ => none
  | token :: rest =>
    match advance? awaiting frames token with
    | some (awaiting, frames) => build? awaiting frames rest
    | none => none

/-- The tree of a sequence of tokens that is one value. -/
def ofTokens? (tokens : List Token) : Option Node :=
  build? .value [] tokens

/-- The tree of a text that is one value, with blanks around its tokens. -/
def parse? (text : String) : Option Node :=
  (Token.scan? text.toList).bind ofTokens?

end Node

end CrashReporter.Json
