/-
**A value that is written is read back as the tree of what was written.**

* `toNode`: the tree of a value;
* `isChain_tokens`, `readable_tokens`: the tokens of a value can be read back;
* `build?_tokens`: they make up the tree, wherever a value may stand;
* `parse?_render`: the text of a value without doubles has the tree of the value.
-/

import CrashReporter.Proofs.Json.Scan
import CrashReporter.Proofs.Json.Shape

namespace CrashReporter.Json

/-! ### Tokens -/

theorem itemTokens_cons (item : Json) (items : List Json) :
    itemTokens (item :: items) = item.tokens ++ items.flatMap fun item => .comma :: item.tokens := by
  induction items generalizing item with
  | nil =>
    rw [itemTokens, List.flatMap_nil, List.append_nil]
  | cons next items ih =>
    rw [itemTokens, ih, List.flatMap_cons]
    rfl

/-- The tokens of a member. -/
def pairTokens (member : String × Json) : List Token :=
  textToken member.1 :: .colon :: member.2.tokens

theorem memberTokens_cons (member : String × Json) (members : List (String × Json)) :
    memberTokens (member :: members) =
      pairTokens member ++ members.flatMap fun member => .comma :: pairTokens member := by
  induction members generalizing member with
  | nil =>
    rw [memberTokens, List.flatMap_nil, List.append_nil]
    rfl
  | cons next members ih =>
    rw [memberTokens, ih, List.flatMap_cons]
    rfl

/-- The tokens of a container are those of its contents, with commas between them. -/
theorem mem_itemTokens {items : List Json} {token : Token} (member : token ∈ itemTokens items) :
    token = .comma ∨ ∃ item ∈ items, token ∈ item.tokens := by
  cases items with
  | nil => cases member
  | cons item items =>
    rw [itemTokens_cons] at member
    simp only [List.mem_append, List.mem_flatMap, List.mem_cons] at member ⊢
    rcases member with first | ⟨other, listed, rfl | inner⟩
    · exact .inr ⟨item, .inl rfl, first⟩
    · exact .inl rfl
    · exact .inr ⟨other, .inr listed, inner⟩

theorem mem_memberTokens {members : List (String × Json)} {token : Token}
    (member : token ∈ memberTokens members) :
    token = .comma ∨ ∃ pair ∈ members, token ∈ pairTokens pair := by
  cases members with
  | nil => cases member
  | cons pair members =>
    rw [memberTokens_cons] at member
    simp only [List.mem_append, List.mem_flatMap, List.mem_cons] at member ⊢
    rcases member with first | ⟨other, listed, rfl | inner⟩
    · exact .inr ⟨pair, .inl rfl, first⟩
    · exact .inl rfl
    · exact .inr ⟨other, .inr listed, inner⟩

theorem readable_textToken (value : String) : (textToken value).Readable := by
  intro unit member
  simp at member

/-- The tokens of a value without doubles can be read back one by one. -/
theorem readable_tokens {value : Json} (whole : value.Whole) :
    ∀ token ∈ value.tokens, token.Readable := by
  induction value using induct with
  | null => simp [tokens, Token.Readable]
  | bool value => simp [tokens, Token.Readable]
  | number value =>
    cases value with
    | integer value fits => simp [tokens, Token.Readable, Number.numeral]
    | double value => exact whole.elim
  | string value => simpa [tokens] using readable_textToken value
  | array items ih =>
    have inner := ((everywhere_array items).mp whole).2
    intro token member
    simp only [tokens, List.mem_cons, List.mem_append, List.not_mem_nil, or_false] at member
    rcases member with rfl | listed | rfl
    · trivial
    · rcases mem_itemTokens listed with rfl | ⟨item, listed, member⟩
      · trivial
      · exact ih item listed (inner item listed) token member
    · trivial
  | object members ih =>
    have inner := ((everywhere_object members).mp whole).2
    intro token member
    simp only [tokens, List.mem_cons, List.mem_append, List.not_mem_nil, or_false] at member
    rcases member with rfl | listed | rfl
    · trivial
    · rcases mem_memberTokens listed with rfl | ⟨pair, listed, member⟩
      · trivial
      · simp only [pairTokens, List.mem_cons] at member
        rcases member with rfl | rfl | member
        · exact readable_textToken pair.1
        · trivial
        · exact ih pair listed (inner pair listed) token member
    · trivial

theorem isChain_cons {token : Token} (closed : token.isBare = false) {tokens : List Token}
    (chain : tokens.IsChain Token.Apart) : (token :: tokens).IsChain Token.Apart := by
  refine List.isChain_cons.mpr ⟨fun next first bare => ?_, chain⟩
  rw [closed] at bare
  cases bare

/-- What ends before a mark does not run together with what begins with it. -/
theorem isChain_append {mark : Token} (closed : mark.isBare = false) {before after : List Token}
    (first : before.IsChain Token.Apart) (second : after.IsChain Token.Apart) :
    (before ++ mark :: after).IsChain Token.Apart := by
  refine List.isChain_append.mpr ⟨first, isChain_cons closed second, ?_⟩
  intro last _ next begins _
  cases begins
  exact closed

/-- Sequences with a mark before each of them do not run together. -/
theorem isChain_flatMap {α : Type} {mark : Token} (closed : mark.isBare = false)
    {write : α → List Token} {parts : List α} (each : ∀ part ∈ parts, (write part).IsChain Token.Apart)
    {before : List Token} (first : before.IsChain Token.Apart) :
    (before ++ parts.flatMap fun part => mark :: write part).IsChain Token.Apart := by
  induction parts generalizing before with
  | nil => simpa using first
  | cons part parts ih =>
    rw [List.flatMap_cons, ← List.append_assoc]
    exact ih (fun other member => each other (List.mem_cons_of_mem _ member))
      (isChain_append closed first (each part List.mem_cons_self))

/-- No two neighbours among the tokens of a value run together. -/
theorem isChain_tokens (value : Json) : value.tokens.IsChain Token.Apart := by
  induction value using induct with
  | null => exact List.isChain_singleton _
  | bool value => exact List.isChain_singleton _
  | number value => exact List.isChain_singleton _
  | string value => exact List.isChain_singleton _
  | array items ih =>
    rw [tokens]
    refine isChain_cons rfl (isChain_append rfl ?_ .nil)
    cases items with
    | nil => exact .nil
    | cons item items =>
      rw [itemTokens_cons]
      exact isChain_flatMap rfl (fun other member => ih other (List.mem_cons_of_mem _ member))
        (ih item List.mem_cons_self)
  | object members ih =>
    have pairs (pair : String × Json) (member : pair ∈ members) :
        (pairTokens pair).IsChain Token.Apart :=
      isChain_cons rfl (isChain_cons rfl (ih pair member))
    rw [tokens]
    refine isChain_cons rfl (isChain_append rfl ?_ .nil)
    cases members with
    | nil => exact .nil
    | cons pair members =>
      rw [memberTokens_cons]
      exact isChain_flatMap rfl (fun other member => pairs other (List.mem_cons_of_mem _ member))
        (pairs pair List.mem_cons_self)

/-! ### Trees -/

/-- The pieces as which a string that was written is read. -/
def readPieces (value : String) : List Piece :=
  (value.toList.map Piece.character).map Piece.readBack

/-- The pieces of a string give it back. -/
theorem pieces?_readPieces (value : String) : pieces? (readPieces value) = some value := by
  rw [pieces?, readPieces, Piece.characters?_readBack, Option.map_some, String.ofList_toList]

mutual

/-- The tree of a value. -/
def toNode : Json → Node
  | .null => .null
  | .bool value => .bool value
  | .number value => .numeral value.numeral
  | .string value => .text (readPieces value)
  | .array items => .array (itemNodes items)
  | .object members => .object (memberNodes members)

/-- The trees of the items of an array. -/
def itemNodes : List Json → List Node
  | [] => []
  | item :: items => item.toNode :: itemNodes items

/-- The trees of the members of an object. -/
def memberNodes : List (String × Json) → List (List Piece × Node)
  | [] => []
  | (name, value) :: members => (readPieces name, value.toNode) :: memberNodes members

end

/-- The tree of a member. -/
def pairNode (member : String × Json) : List Piece × Node := (readPieces member.1, member.2.toNode)

theorem itemNodes_eq (items : List Json) : itemNodes items = items.map toNode := by
  induction items with
  | nil => rfl
  | cons item items ih => rw [itemNodes, ih, List.map_cons]

theorem memberNodes_eq (members : List (String × Json)) :
    memberNodes members = members.map pairNode := by
  induction members with
  | nil => rfl
  | cons member members ih =>
    rw [memberNodes, ih, List.map_cons]
    rfl

section Build

open Node (build? place Awaiting Frame)

/-- A value may begin. -/
def AwaitsValue (awaiting : Awaiting) : Prop := awaiting = .value ∨ awaiting = .firstItem

/-- The tokens of a value build its tree and put it in its place. -/
def Builds (value : Json) : Prop :=
  ∀ awaiting frames rest, AwaitsValue awaiting →
    build? awaiting frames (value.tokens.map Token.readBack ++ rest) =
      build? (place value.toNode frames).1 (place value.toNode frames).2 rest

theorem build?_items {items : List Json} (builds : ∀ item ∈ items, Builds item)
    (collected : List Node) (frames : List Frame) (rest : List Token) :
    build? .nextItem (.array collected :: frames)
        ((items.flatMap fun item => .comma :: item.tokens).map Token.readBack ++ .closeArray :: rest) =
      build? (place (.array (collected.reverse ++ itemNodes items)) frames).1
        (place (.array (collected.reverse ++ itemNodes items)) frames).2 rest := by
  -- What was collected stays general: each item puts its tree in front of it.
  induction items generalizing collected with
  | nil =>
    rw [itemNodes, List.append_nil]
    rfl
  | cons item items ih =>
    have first := builds item List.mem_cons_self .value (.array collected :: frames)
      ((items.flatMap fun item => .comma :: item.tokens).map Token.readBack ++ .closeArray :: rest)
      (.inl rfl)
    have others := ih (fun other member => builds other (List.mem_cons_of_mem _ member))
      (item.toNode :: collected)
    rw [List.flatMap_cons, List.map_append, List.append_assoc, List.map_cons]
    show build? .value (.array collected :: frames) (item.tokens.map Token.readBack ++ _) = _
    rw [first]
    show build? .nextItem (.array (item.toNode :: collected) :: frames) _ = _
    rw [others, itemNodes, List.reverse_cons, List.append_assoc]
    rfl

theorem build?_array {items : List Json} (builds : ∀ item ∈ items, Builds item) :
    Builds (.array items) := by
  intro awaiting frames rest awaits
  have begun : build? awaiting frames ((Json.array items).tokens.map Token.readBack ++ rest) =
      build? .firstItem (.array [] :: frames)
        ((itemTokens items).map Token.readBack ++ .closeArray :: rest) := by
    rw [tokens, List.map_cons, List.map_append, List.cons_append, List.append_assoc]
    rcases awaits with rfl | rfl <;> rfl
  rw [begun, toNode]
  cases items with
  | nil => rfl
  | cons item items =>
    have first := builds item List.mem_cons_self .firstItem (.array [] :: frames)
      ((items.flatMap fun item => .comma :: item.tokens).map Token.readBack ++ .closeArray :: rest)
      (.inr rfl)
    have others := build?_items (fun other member => builds other (List.mem_cons_of_mem _ member))
      [item.toNode] frames rest
    rw [itemTokens_cons, List.map_append, List.append_assoc, first]
    exact others

theorem build?_pair {pair : String × Json} (builds : Builds pair.2) {awaiting : Awaiting}
    (awaits : awaiting = .name ∨ awaiting = .firstName) (collected : List (List Piece × Node))
    (frames : List Frame) (rest : List Token) :
    build? awaiting (.object collected :: frames) ((pairTokens pair).map Token.readBack ++ rest) =
      build? .nextMember (.object (pairNode pair :: collected) :: frames) rest := by
  have named : build? awaiting (.object collected :: frames)
      ((pairTokens pair).map Token.readBack ++ rest) =
        build? .value (.member collected (readPieces pair.1) :: frames)
          (pair.2.tokens.map Token.readBack ++ rest) := by
    rcases awaits with rfl | rfl <;> rfl
  rw [named, builds _ _ _ (.inl rfl)]
  rfl

theorem build?_members {members : List (String × Json)} (builds : ∀ member ∈ members, Builds member.2)
    (collected : List (List Piece × Node)) (frames : List Frame) (rest : List Token) :
    build? .nextMember (.object collected :: frames)
        ((members.flatMap fun member => .comma :: pairTokens member).map Token.readBack ++
          .closeObject :: rest) =
      build? (place (.object (collected.reverse ++ memberNodes members)) frames).1
        (place (.object (collected.reverse ++ memberNodes members)) frames).2 rest := by
  induction members generalizing collected with
  | nil =>
    rw [memberNodes, List.append_nil]
    rfl
  | cons member members ih =>
    have others := ih (fun other held => builds other (List.mem_cons_of_mem _ held))
      (pairNode member :: collected)
    rw [List.flatMap_cons, List.map_append, List.append_assoc, List.map_cons]
    show build? .name (.object collected :: frames) ((pairTokens member).map Token.readBack ++ _) = _
    rw [build?_pair (builds member List.mem_cons_self) (.inl rfl), others, memberNodes,
      List.reverse_cons, List.append_assoc]
    rfl

theorem build?_object {members : List (String × Json)} (builds : ∀ member ∈ members, Builds member.2) :
    Builds (.object members) := by
  intro awaiting frames rest awaits
  have begun : build? awaiting frames ((Json.object members).tokens.map Token.readBack ++ rest) =
      build? .firstName (.object [] :: frames)
        ((memberTokens members).map Token.readBack ++ .closeObject :: rest) := by
    rw [tokens, List.map_cons, List.map_append, List.cons_append, List.append_assoc]
    rcases awaits with rfl | rfl <;> rfl
  rw [begun, toNode]
  cases members with
  | nil => rfl
  | cons member members =>
    have others := build?_members (fun other held => builds other (List.mem_cons_of_mem _ held))
      [pairNode member] frames rest
    rw [memberTokens_cons, List.map_append, List.append_assoc,
      build?_pair (builds member List.mem_cons_self) (.inr rfl)]
    exact others

/-- **The tokens of a value build its tree**, wherever a value may stand. -/
theorem build?_tokens (value : Json) : Builds value := by
  induction value using induct with
  | null => rintro awaiting frames rest (rfl | rfl) <;> rfl
  | bool value => rintro awaiting frames rest (rfl | rfl) <;> rfl
  | number value => rintro awaiting frames rest (rfl | rfl) <;> rfl
  | string value => rintro awaiting frames rest (rfl | rfl) <;> rfl
  | array items ih => exact build?_array ih
  | object members ih => exact build?_object ih

end Build

/-- **The text of a value without doubles has the tree of the value.** -/
theorem parse?_render {value : Json} (whole : value.Whole) :
    Node.parse? value.render = some value.toNode := by
  have scanned := Token.scan?_write (readable_tokens whole) (isChain_tokens value)
  have built := build?_tokens value .value [] [] (.inl rfl)
  rw [List.append_nil] at built
  rw [Node.parse?, render, String.toList_ofList, scanned, Option.bind_some, Node.ofTokens?, built]
  rfl

end CrashReporter.Json
