/-
**Decoders read what encoders wrote.**

* `nullable?_ofOption`, `dictionary?_toNode`, `list?_toNode`: optional values, dictionaries and lists,
  from how their contents are read;
* one lemma for each leaf, one for each record: `app?_toNode` with its durations in whole seconds,
  `breadcrumb?_toNode`, `event?_toNode`.
-/

import CrashReporter.Proofs.Decode.Field
import CrashReporter.Proofs.Event.Members
import CrashReporter.Proofs.Instant.Text
import CrashReporter.Proofs.Json.Value
import CrashReporter.Proofs.Text.Content

namespace CrashReporter

open CrashReporter.Json (Node Piece)

namespace Decode

theorem members?_memberNodes (members : List (String × Json)) :
    members? (Json.memberNodes members) = some (members.map fun member => (member.1, member.2.toNode)) := by
  rw [Json.memberNodes_eq, members?_eq]
  refine mapM_map fun member _ => ?_
  rw [Json.pairNode, Json.pieces?_readPieces]
  rfl

/-- The fields of an object whose members were written under the first of the declared names. -/
theorem fields?_toNode (names : List String) (values : List Json) (missing : Nat)
    (nodup : names.Nodup) (fits : values.length + missing = names.length) :
    fields? names (Json.object (names.zip values)).toNode =
      some (values.map (fun value => .present value.toNode) ++ List.replicate missing .absent) := by
  have pairs : (names.zip values).map (fun member => (member.1, member.2.toNode)) =
      names.zip (values.map Json.toNode) := by
    rw [List.zip_map_right]
    rfl
  have left : names.length - (values.map Json.toNode).length = missing := by
    rw [List.length_map]
    omega
  rw [Json.toNode, fields?, members?_memberNodes, Option.bind_some, pairs,
    Field.ofMembers?_zip nodup (by rw [List.length_map]; omega), left, List.map_map]
  rfl

/-- The fields of an object of which the last one is written only if there is something to say. -/
theorem fields?_toNode_omitting (names : List String) (values : List Json) (bare : Bool) (last : Json)
    (nodup : names.Nodup) (fits : values.length + 1 = names.length) :
    fields? names (Json.object (names.zip (values ++ if bare then [] else [last]))).toNode =
      some (values.map (fun value => .present value.toNode) ++
        [if bare then .absent else .present last.toNode]) := by
  cases bare with
  | true =>
    rw [if_pos rfl, List.append_nil]
    exact fields?_toNode names values 1 nodup fits
  | false =>
    rw [if_neg Bool.false_ne_true, if_neg Bool.false_ne_true,
      fields?_toNode names (values ++ [last]) 0 nodup (by rw [List.length_append]; exact fits),
      List.map_append, List.append_assoc]
    rfl

/-- A field that was left out has its default value. -/
theorem defaulted_omitting {α : Type} {decode : Node → Option α} {value default : α} {bare : Bool}
    {node : Node} (left : bare = true → value = default) (read : bare = false → decode node = some value) :
    (if bare then Field.absent else Field.present node).defaulted default decode = some value := by
  cases bare with
  | true => exact congrArg some (left rfl).symm
  | false => exact read rfl

/-! ### Leaves -/

theorem string?_toNode (value : String) : string? (Json.string value).toNode = some value :=
  Json.pieces?_readPieces value

theorem text?_toNode (text : Text) : text? (Json.ofText text).toNode = some text := by
  rw [text?, Json.ofText, string?_toNode, Option.bind_some, Text.ofString?_content]

theorem instant?_toNode (instant : Instant) :
    instant? (Json.string instant.write).toNode = some instant := by
  rw [instant?, string?_toNode, Option.bind_some, Instant.parse?_write]

/-- An integer that fits is a number. -/
theorem ofInt_eq {value : Int}
    (fits : -0x8000000000000000 ≤ value ∧ value < 0x10000000000000000) :
    Json.ofInt value = .number (.integer value fits) := by
  rw [Json.ofInt, Json.Number.ofInt?, dif_pos fits]
  rfl

theorem integer?_toNode {value : Int}
    (fits : -0x8000000000000000 ≤ value ∧ value < 0x10000000000000000) :
    integer? (Json.ofInt value).toNode = some value := by
  rw [ofInt_eq fits, Json.toNode, integer?, Json.Number.numeral, Json.value?_integerNumeral fits]

theorem int32?_toNode (code : Int32) : int32? (Json.ofInt code.toInt).toNode = some code := by
  have least := code.le_toInt
  have most := code.toInt_lt
  rw [int32?, integer?_toNode ⟨by omega, by omega⟩, Option.bind_eq_bind, Option.bind_some,
    if_pos ⟨by omega, by omega⟩, Int32.ofInt_toInt]

theorem seconds?_toNode (seconds : UInt64) :
    seconds? (Json.ofInt seconds.toNat).toNode = some (.ofSeconds seconds) := by
  have bound : seconds.toNat < 0x10000000000000000 := seconds.toNat_lt
  rw [seconds?, word?, integer?_toNode ⟨by omega, by omega⟩, Option.bind_eq_bind, Option.bind_some,
    if_pos ⟨by omega, by omega⟩, Int.toNat_natCast, UInt64.ofNat_toNat, Option.map_some]

/-- An optional value is read back, absent as null. -/
theorem nullable?_ofOption {α β : Type} {encode : α → Json} {decode : Node → Option β} {meant : α → β}
    {value : Option α}
    (reads : ∀ content, value = some content → decode (encode content).toNode = some (meant content))
    (given : ∀ content, value = some content → encode content ≠ .null) :
    nullable? decode (Json.ofOption encode value).toNode = some (value.map meant) := by
  cases value with
  | none => rfl
  | some content =>
    have read := reads content rfl
    have solid := given content rfl
    show nullable? decode (encode content).toNode = _
    cases json : encode content with
    | null => exact absurd json solid
    | _ =>
      rw [json] at read
      show (decode _).map some = _
      rw [read]
      rfl

theorem nullable?_text (value : Option Text) :
    nullable? text? (Json.ofOption .ofText value).toNode = some value := by
  have read : nullable? text? (Json.ofOption .ofText value).toNode = some (value.map id) :=
    nullable?_ofOption (fun text _ => text?_toNode text) fun text _ same => nomatch same
  rwa [Option.map_id] at read

/-! ### Containers -/

/-- A list is read back, if its items are. -/
theorem list?_toNode {α : Type} {levels : Nat} {decode : Nat → Node → Option α} {encode : α → Json}
    {values : List α} (reads : ∀ value ∈ values, decode levels (encode value).toNode = some value) :
    list? (levels + 1) decode (Json.array (values.map encode)).toNode = some values := by
  rw [Json.toNode, list?, Json.itemNodes_eq, List.map_map]
  exact mapM_map_self reads

/-- A dictionary is read back, if its values are. -/
theorem dictionary?_toNode {α : Type} {levels : Nat} {decode : Nat → Node → Option α}
    {encode : α → Json} {dictionary : Dictionary α} (ordered : dictionary.Ordered)
    (reads : ∀ entry ∈ dictionary, decode levels (encode entry.2).toNode = some entry.2) :
    dictionary? (levels + 1) decode
      (Json.object (dictionary.map fun entry => (entry.1, encode entry.2))).toNode =
        some dictionary := by
  rw [Json.toNode, dictionary?, members?_memberNodes, List.map_map]
  have decoded : (dictionary.map fun entry => (entry.1, (encode entry.2).toNode)).mapM
      (fun member => (decode levels member.2).map (member.1, ·)) = some dictionary := by
    refine mapM_map_self fun entry member => ?_
    show (decode levels (encode entry.2).toNode).map _ = _
    rw [reads entry member]
    rfl
  refine (bind_of_some rfl).trans ?_
  refine (bind_of_some decoded).trans ?_
  rw [Dictionary.ofList_of_ordered ordered]
  rfl

/-- Free-form values are read back. -/
theorem values?_toNode {values : Dictionary Json} (whole : (Json.object values).Whole)
    (ordered : (Json.object values).Ordered) {levels : Nat}
    (shallow : (Json.object values).depth ≤ levels) :
    values? levels (Json.object values).toNode = some values := by
  obtain ⟨keys, inner⟩ := (Json.everywhere_object values).mp ordered
  have solid := ((Json.everywhere_object values).mp whole).2
  cases levels with
  | zero => exact absurd shallow (by simp [Json.depth])
  | succ levels =>
    have below := (Json.depth_object_le_iff values levels).mp shallow
    have read : dictionary? (levels + 1) Json.ofNode?
        (Json.object (values.map fun entry => (entry.1, id entry.2))).toNode = some values :=
      dictionary?_toNode keys fun entry member =>
        Json.ofNode?_toNode (solid entry member) (inner entry member) (below entry member)
    have same : values.map (fun entry => (entry.1, id entry.2)) = values := List.map_id values
    rw [same] at read
    exact read

/-! ### Records -/

theorem nullable?_seconds (value : Option Duration) :
    nullable? seconds? (Json.ofOption (fun span => .ofInt span.seconds.toNat) value).toNode =
      some (value.map Duration.inWholeSeconds) :=
  nullable?_ofOption (fun span _ => seconds?_toNode span.seconds) fun span _ => by
    have bound : span.seconds.toNat < 0x10000000000000000 := span.seconds.toNat_lt
    rw [ofInt_eq ⟨by omega, by omega⟩]
    exact fun same => nomatch same

theorem nullable?_int32 (value : Option Int32) :
    nullable? int32? (Json.ofOption (fun code => .ofInt code.toInt) value).toNode = some value := by
  have read : nullable? int32? (Json.ofOption (fun code => .ofInt code.toInt) value).toNode =
      some (value.map id) :=
    nullable?_ofOption (fun code _ => int32?_toNode code) fun code _ => by
      have least := code.le_toInt
      have most := code.toInt_lt
      rw [ofInt_eq ⟨by omega, by omega⟩]
      exact fun same => nomatch same
  rwa [Option.map_id] at read

theorem nullable?_bool (value : Option Bool) :
    nullable? bool? (Json.ofOption .bool value).toNode = some value := by
  cases value <;> rfl

/-- An app is read back, its durations in whole seconds. -/
theorem app?_toNode (levels : Nat) (app : AppInfo) :
    app? (levels + 1) app.toJson.toNode = some app.inWholeSeconds := by
  have fields := fields?_toNode appNames app.values 0 (by decide) rfl
  rw [← AppInfo.toJson_eq] at fields
  simp only [AppInfo.values, List.map_cons, List.map_nil, List.replicate_zero,
    List.append_nil] at fields
  simp only [app?, fields, Option.bind_eq_bind, Option.bind_some, Field.optional, Field.defaulted,
    nullable?_text, nullable?_int32, nullable?_seconds, nullable?_bool, Option.pure_def]
  rfl

theorem user?_toNode (levels : Nat) (user : UserInfo) :
    user? (levels + 1) user.toJson.toNode = some user := by
  have fields := fields?_toNode userNames user.values 0 (by decide) rfl
  rw [← UserInfo.toJson_eq] at fields
  simp only [UserInfo.values, List.map_cons, List.map_nil, List.replicate_zero,
    List.append_nil] at fields
  simp only [user?, fields, Option.bind_eq_bind, Option.bind_some, Field.optional, nullable?_text,
    Option.pure_def]

theorem error?_toNode (levels : Nat) (error : ErrorInfo) :
    error? (levels + 1) error.toJson.toNode = some error := by
  have fields := fields?_toNode errorNames error.values 0 (by decide) rfl
  rw [← ErrorInfo.toJson_eq] at fields
  simp only [ErrorInfo.values, List.map_cons, List.map_nil, List.replicate_zero,
    List.append_nil] at fields
  simp only [error?, fields, Option.bind_eq_bind, Option.bind_some, Field.required, Field.optional,
    text?_toNode, nullable?_text, Option.pure_def]

theorem severity?_toNode (levels : Nat) (severity : Severity) :
    severity? levels (Json.string severity.name).toNode = some severity := by
  show (string? (Json.string severity.name).toNode).bind _ = _
  rw [string?_toNode, Option.bind_some]
  cases severity <;> rfl

theorem breadcrumbKind?_toNode (levels : Nat) (kind : BreadcrumbKind) :
    breadcrumbKind? levels (Json.string kind.name).toNode = some kind := by
  show (string? (Json.string kind.name).toNode).bind _ = _
  rw [string?_toNode, Option.bind_some]
  cases kind <;> rfl

/-- A breadcrumb is read back, with or without metadata. -/
theorem breadcrumb?_toNode {breadcrumb : Breadcrumb} (whole : (Json.object breadcrumb.metadata).Whole)
    (ordered : (Json.object breadcrumb.metadata).Ordered) {levels : Nat}
    (shallow : breadcrumb.toJson.depth ≤ levels) :
    breadcrumb? levels breadcrumb.toJson.toNode = some breadcrumb := by
  cases levels with
  | zero => exact absurd shallow (by simp [Breadcrumb.toJson, Json.depth])
  | succ levels =>
    have deep := (breadcrumb.toJson_depth_le_iff levels).mp shallow
    have fields := fields?_toNode_omitting breadcrumbNames
      [.string breadcrumb.timestamp.write, .ofText breadcrumb.message, .string breadcrumb.kind.name]
      breadcrumb.metadata.isEmpty (.object breadcrumb.metadata) (by decide) rfl
    rw [← Breadcrumb.values, ← Breadcrumb.toJson_eq] at fields
    have metadata : (if breadcrumb.metadata.isEmpty then Field.absent
        else .present (Json.object breadcrumb.metadata).toNode).defaulted [] (values? levels) =
          some breadcrumb.metadata :=
      defaulted_omitting List.isEmpty_iff.mp fun full =>
        values?_toNode whole ordered (deep.resolve_left (List.isEmpty_eq_false_iff.mp full))
    simp only [List.map_cons, List.map_nil, List.cons_append, List.nil_append] at fields
    simp only [breadcrumb?, fields, Option.bind_eq_bind, Option.bind_some, Field.required,
      instant?_toNode, text?_toNode, breadcrumbKind?_toNode, metadata, Option.pure_def]

/-- Metadata is read back. -/
theorem metadata?_toNode {metadata : Metadata} (whole : metadata.toJson.Whole)
    (ordered : metadata.toJson.Ordered) {levels : Nat} (shallow : metadata.toJson.depth ≤ levels) :
    metadata? levels metadata.toJson.toNode = some metadata := by
  cases levels with
  | zero => exact absurd shallow (by simp [Metadata.toJson, Json.depth])
  | succ levels =>
    obtain ⟨sorted, inner⟩ := metadata.toJson_ordered_iff.mp ordered
    rw [Metadata.toJson_eq] at whole shallow
    have solid := List.forall_mem_map.mp ((Json.everywhere_object _).mp whole).2
    have below := List.forall_mem_map.mp ((Json.depth_object_le_iff _ levels).mp shallow)
    have read : dictionary? (levels + 1) values? metadata.toJson.toNode = some metadata.sections :=
      dictionary?_toNode sorted fun entry member =>
        values?_toNode (solid entry member) (inner entry member) (below entry member)
    rw [metadata?, read]
    rfl

theorem nullable?_error (levels : Nat) (error : Option ErrorInfo) :
    nullable? (error? (levels + 1)) (Json.ofOption ErrorInfo.toJson error).toNode = some error := by
  have read : nullable? (error? (levels + 1)) (Json.ofOption ErrorInfo.toJson error).toNode =
      some (error.map id) :=
    nullable?_ofOption (fun error _ => error?_toNode levels error) fun _ _ same => nomatch same
  rwa [Option.map_id] at read

/-- **An event is read back, its durations in whole seconds**, if its metadata holds no double and is not
nested too deep. -/
theorem event?_toNode {event : EventRecord} (whole : event.Whole) (ordered : event.Ordered)
    {levels : Nat} (shallow : event.toJson.depth ≤ levels) :
    event? levels event.toJson.toNode = some event.inWholeSeconds := by
  -- An event holds an app, so that there is a level for the containers below it.
  have two := event.two_le_toJson_depth
  obtain ⟨levels, rfl⟩ : ∃ less, levels = less + 2 := ⟨levels - 2, by omega⟩
  obtain ⟨trail, own⟩ := (event.toJson_depth_le_iff levels).mp shallow
  have breadcrumbs : list? (levels + 1) breadcrumb?
      (Json.array (event.breadcrumbs.map Breadcrumb.toJson)).toNode = some event.breadcrumbs :=
    list?_toNode fun breadcrumb member =>
      breadcrumb?_toNode (whole.trail breadcrumb member) (ordered.trail breadcrumb member)
        (trail breadcrumb member)
  have metadata : (if event.metadata.isEmpty then Field.absent
      else .present event.metadata.toJson.toNode).defaulted .empty (metadata? (levels + 1)) =
        some event.metadata :=
    defaulted_omitting (fun bare => congrArg Metadata.mk (List.isEmpty_iff.mp bare)) fun _ =>
      metadata?_toNode whole.own ordered.own own
  have fields := fields?_toNode_omitting eventNames
    [.string event.timestamp.write, .ofOption .ofText event.context, event.app.toJson,
      event.user.toJson, .ofOption ErrorInfo.toJson event.error, .string event.severity.name,
      .bool event.unhandled, .array (event.breadcrumbs.map Breadcrumb.toJson)]
    event.metadata.isEmpty event.metadata.toJson (by decide) rfl
  rw [← EventRecord.values, ← EventRecord.toJson_eq] at fields
  have unhandled : bool? (Json.bool event.unhandled).toNode = some event.unhandled := rfl
  simp only [List.map_cons, List.map_nil, List.cons_append, List.nil_append] at fields
  simp only [event?, fields, Option.bind_eq_bind, Option.bind_some, Field.required, Field.optional,
    instant?_toNode, nullable?_text, app?_toNode, user?_toNode, nullable?_error, severity?_toNode,
    unhandled, breadcrumbs, metadata, Option.pure_def]
  rfl

end Decode

end CrashReporter
