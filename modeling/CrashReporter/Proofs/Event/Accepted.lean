/-
**What is accepted as an event.**

Rules say which members an object may have to be read as a record: `EventRules`, and `AppRules`, `UserRules`,
`ErrorRules`, `BreadcrumbRules` for the records inside it. `IsText`, `IsSeconds`, `IsMetadata` say which values
are read.

* `isSome_bind_fields?`: an object is read exactly if its members keep the rules of its fields;
* `event?_eq_of_alike`: trees of an event that are alike, at any level of its records, are read as the same
  event or not at all.

`event?_accepts` is both.
-/

import CrashReporter.Proofs.Decode.Alike
import CrashReporter.Proofs.Text.Content

namespace CrashReporter.Decode

open CrashReporter.Field (Demands Once Permits among)
open CrashReporter.Json (Node Piece)

/-! ### Values -/

/-- A string with something before its first NUL. -/
def IsText (node : Node) : Prop :=
  ∃ content, string? node = some content ∧ Text.beforeNul content.toList ≠ []

/-- A whole number between two bounds, the second of which it does not reach. -/
def IsInteger (least bound : Int) (node : Node) : Prop :=
  ∃ value, integer? node = some value ∧ least ≤ value ∧ value < bound

/-- A number of seconds: an unsigned integer of sixty-four bits. -/
abbrev IsSeconds : Node → Prop := IsInteger 0 0x10000000000000000

/-- Null, or as told. -/
def Nullable (told : Node → Prop) (node : Node) : Prop :=
  node = .null ∨ told node

/-- An array of items as told. -/
def IsList (levels : Nat) (told : Nat → Node → Prop) (node : Node) : Prop :=
  ∃ less items, levels = less + 1 ∧ node = .array items ∧ ∀ item ∈ items, told less item

/-- An object of values as told, under any names. -/
def IsDictionary (levels : Nat) (told : Nat → Node → Prop) (node : Node) : Prop :=
  ∃ less members named, levels = less + 1 ∧ node = .object members ∧ members? members = some named ∧
    ∀ member ∈ named, told less member.2

/-- An object of values of any kind. -/
def IsValues (levels : Nat) : Node → Prop :=
  IsDictionary levels fun less value => (Json.ofNode? less value).isSome = true

/-- An object of such objects. -/
def IsMetadata (levels : Nat) : Node → Prop :=
  IsDictionary levels IsValues

theorem isSome_text? (node : Node) : (text? node).isSome = true ↔ IsText node := by
  unfold text? IsText
  cases string? node with
  | none => exact iff_of_false nofun nofun
  | some content =>
    rw [Option.bind_some, ← Option.ne_none_iff_isSome, Ne, Text.ofString?_eq_none_iff]
    simp

/-- An integer within bounds is read, and nothing else. -/
theorem isSome_integer? {α : Type} (least bound : Int) (make : Int → α) (node : Node) :
    (integer? node >>= fun value =>
      if least ≤ value ∧ value < bound then some (make value) else none).isSome = true ↔
        IsInteger least bound node := by
  unfold IsInteger
  cases integer? node with
  | none => exact iff_of_false nofun nofun
  | some value =>
    simp only [Option.bind_eq_bind, Option.bind_some]
    by_cases fits : least ≤ value ∧ value < bound
    · simp [fits]
    · rw [if_neg fits]
      exact iff_of_false nofun fun ⟨other, same, bounds⟩ => fits (Option.some.inj same ▸ bounds)

theorem isSome_seconds? (node : Node) : (seconds? node).isSome = true ↔ IsSeconds node := by
  unfold seconds?
  rw [Option.isSome_map]
  exact isSome_integer? _ _ _ node

theorem isSome_int32? (node : Node) :
    (int32? node).isSome = true ↔ IsInteger (-0x80000000) 0x80000000 node :=
  isSome_integer? _ _ _ node

theorem isSome_bool? (node : Node) : (bool? node).isSome = true ↔ ∃ flag, node = .bool flag := by
  cases node <;> simp [bool?]

theorem isSome_nullable? {α : Type} {decode : Node → Option α} {told : Node → Prop}
    (reads : ∀ node, (decode node).isSome = true ↔ told node) (node : Node) :
    (nullable? decode node).isSome = true ↔ Nullable told node := by
  unfold nullable? Nullable
  split
  · simp
  · next solid =>
    rw [Option.isSome_map, reads]
    exact (or_iff_right solid).symm

theorem isSome_list? {α : Type} {levels : Nat} {decode : Nat → Node → Option α} {told : Nat → Node → Prop}
    (reads : ∀ levels node, (decode levels node).isSome = true ↔ told levels node) (node : Node) :
    (list? levels decode node).isSome = true ↔ IsList levels told node := by
  unfold IsList
  cases node with
  | array items =>
    cases levels with
    | zero => exact iff_of_false nofun fun ⟨_, _, same, _⟩ => nomatch same
    | succ levels =>
      show (items.mapM (decode levels)).isSome = true ↔ _
      rw [isSome_mapM_iff]
      simp [reads]
  | _ => exact iff_of_false nofun fun ⟨_, _, _, same, _⟩ => nomatch same

theorem isSome_dictionary? {α : Type} {levels : Nat} {decode : Nat → Node → Option α}
    {told : Nat → Node → Prop}
    (reads : ∀ levels node, (decode levels node).isSome = true ↔ told levels node) (node : Node) :
    (dictionary? levels decode node).isSome = true ↔ IsDictionary levels told node := by
  unfold IsDictionary
  cases node with
  | object members =>
    cases levels with
    | zero => exact iff_of_false nofun fun ⟨_, _, _, same, _⟩ => nomatch same
    | succ levels =>
      have entries (named : List (String × Node)) :
          (named.mapM fun member => (decode levels member.2).map (member.1, ·)).isSome = true ↔
            ∀ member ∈ named, told levels member.2 := by
        rw [isSome_mapM_iff]
        simp [reads]
      have listed : (dictionary? (levels + 1) decode (.object members)).isSome = true ↔
          ∃ named, members? members = some named ∧ ∀ member ∈ named, told levels member.2 := by
        show (members? members >>= fun named =>
          (named.mapM fun member => (decode levels member.2).map (member.1, ·)) >>= fun entries =>
            some (Dictionary.ofList entries)).isSome = true ↔ _
        cases members? members with
        | none => exact iff_of_false nofun fun ⟨_, same, _⟩ => nomatch same
        | some named =>
          rw [Option.bind_eq_bind, Option.bind_some, isSome_bind_some, entries]
          simp
      rw [listed]
      constructor
      · rintro ⟨named, same, each⟩
        exact ⟨levels, members, named, rfl, rfl, same, each⟩
      · rintro ⟨less, members, named, ⟨⟩, ⟨⟩, same, each⟩
        exact ⟨named, same, each⟩
  | _ => exact iff_of_false nofun fun ⟨_, _, _, _, same, _⟩ => nomatch same

theorem isSome_metadata? (levels : Nat) (node : Node) :
    (metadata? levels node).isSome = true ↔ IsMetadata levels node := by
  unfold metadata?
  rw [Option.isSome_map]
  exact isSome_dictionary? (fun levels node => isSome_dictionary? (fun _ _ => Iff.rfl) node) node

/-! ### Rules -/

/-- What the members of an app have to be: any of them may be missing or null. -/
structure AppRules (named : List (String × Node)) : Prop where
  once : Once appNames named
  text : ∀ name ∈ ["binary_arch", "build_uuid", "id", "release_stage", "type", "version"],
    Permits named name (Nullable IsText)
  versionCode : Permits named "version_code" (Nullable (IsInteger (-0x80000000) 0x80000000))
  duration : Permits named "duration" (Nullable IsSeconds)
  durationInForeground : Permits named "duration_in_foreground" (Nullable IsSeconds)
  inForeground : Permits named "in_foreground" (Nullable fun node => ∃ flag, node = .bool flag)

/-- What the members of a user have to be: any of them may be missing or null. -/
structure UserRules (named : List (String × Node)) : Prop where
  once : Once userNames named
  id : Permits named "id" (Nullable IsText)
  email : Permits named "email" (Nullable IsText)
  name : Permits named "name" (Nullable IsText)

/-- What the members of an error have to be. -/
structure ErrorRules (named : List (String × Node)) : Prop where
  once : Once errorNames named
  errorClass : Demands named "error_class" IsText
  message : Permits named "message" (Nullable IsText)

/-- What the members of a breadcrumb have to be. -/
structure BreadcrumbRules (levels : Nat) (named : List (String × Node)) : Prop where
  once : Once breadcrumbNames named
  timestamp : Demands named "timestamp" fun node => (instant? node).isSome = true
  message : Demands named "message" IsText
  kind : Demands named "type" fun node => (breadcrumbKind? levels node).isSome = true
  metadata : Permits named "metadata" (IsValues levels)

/-- What the members of an event have to be. -/
structure EventRules (levels : Nat) (named : List (String × Node)) : Prop where
  once : Once eventNames named
  timestamp : Demands named "timestamp" fun node => (instant? node).isSome = true
  context : Permits named "context" (Nullable IsText)
  app : Demands named "app" fun node => (app? levels node).isSome = true
  user : Demands named "user" fun node => (user? levels node).isSome = true
  error : Permits named "error" (Nullable fun node => (error? levels node).isSome = true)
  severity : Demands named "severity" fun node => (severity? levels node).isSome = true
  unhandled : Demands named "unhandled" fun node => ∃ flag, node = .bool flag
  breadcrumbs : Demands named "breadcrumbs"
    (IsList levels fun less item => (breadcrumb? less item).isSome = true)
  metadata : Permits named "metadata" (IsMetadata levels)

/-! ### Records -/

/-- An object is read exactly if its members keep the rules of its fields. -/
theorem isSome_bind_fields? {α : Type} {names : List String} {combine : List (Field Node) → Option α}
    {rules : List (String × Node) → Prop} (single : ∀ named, rules named → Once names named)
    (each : ∀ named, Once names named →
      ((combine (names.map (among named))).isSome = true ↔ rules named))
    (members : List (List Piece × Node)) :
    ((fields? names (.object members)).bind combine).isSome = true ↔
      ∃ named, members? members = some named ∧ rules named := by
  rw [fields?]
  cases members? members with
  | none => simp
  | some named =>
    have only : (∃ other, some named = some other ∧ rules other) ↔ rules named := by simp
    rw [Option.bind_some, only]
    cases looked : Field.ofMembers? names named with
    | none =>
      refine iff_of_false Bool.false_ne_true fun kept => ?_
      rw [Field.ofMembers?_eq_some_iff.mpr ⟨single named kept, rfl⟩] at looked
      cases looked
    | some fields =>
      obtain ⟨once, rfl⟩ := Field.ofMembers?_eq_some_iff.mp looked
      exact each named once

section Fields

variable {α : Type} {named : List (String × Node)} {name : String} {names : List String}
  {decode : Node → Option α} {told : Node → Prop}
  (reads : ∀ node, (decode node).isSome = true ↔ told node)
  (once : Once names named) (declared : name ∈ names)

include reads once declared

theorem isSome_required : ((among named name).required decode).isSome = true ↔ Demands named name told := by
  rw [Field.isSome_required (once name declared)]
  exact exists_congr fun node => and_congr_right fun _ => reads node

theorem isSome_optional : ((among named name).optional (nullable? decode)).isSome = true ↔
    Permits named name (Nullable told) := by
  rw [Field.isSome_permitted (once name declared) (fun _ => rfl) rfl]
  exact forall₂_congr fun node _ => isSome_nullable? reads node

theorem isSome_defaulted (default : α) : ((among named name).defaulted default decode).isSome = true ↔
    Permits named name told := by
  rw [Field.isSome_permitted (once name declared) (fun _ => rfl) rfl]
  exact forall₂_congr fun node _ => reads node

end Fields

theorem isSome_app? (levels : Nat) (members : List (List Piece × Node)) :
    (app? (levels + 1) (.object members)).isSome = true ↔
      ∃ named, members? members = some named ∧ AppRules named := by
  refine isSome_bind_fields? (fun _ => AppRules.once) (fun named once => ?_) members
  have text {name : String} (declared : name ∈ appNames) := isSome_optional isSome_text? once declared
  have seconds {name : String} (declared : name ∈ appNames) :
      ((among named name).defaulted none (nullable? seconds?)).isSome = true ↔
        Permits named name (Nullable IsSeconds) :=
    isSome_defaulted (isSome_nullable? isSome_seconds?) once declared none
  refine (isSome_bind_iff fun _ => isSome_bind_iff fun _ => isSome_bind_iff fun _ => isSome_bind_iff fun _ =>
    isSome_bind_iff fun _ => isSome_bind_iff fun _ => isSome_bind_iff fun _ => isSome_bind_iff fun _ =>
    isSome_bind_iff fun _ => isSome_bind_some _ _).trans ?_
  rw [text (by decide), text (by decide), text (by decide), text (by decide), text (by decide),
    text (by decide), isSome_optional isSome_int32? once (by decide), seconds (by decide),
    seconds (by decide), isSome_optional isSome_bool? once (by decide)]
  constructor
  · rintro ⟨binaryArch, buildUuid, id, releaseStage, type, version, versionCode, duration, inForegroundFor,
      inForeground⟩
    exact ⟨once, by simp [binaryArch, buildUuid, id, releaseStage, type, version], versionCode, duration,
      inForegroundFor, inForeground⟩
  · intro rules
    have texts := rules.text
    simp only [List.forall_mem_cons] at texts
    obtain ⟨binaryArch, buildUuid, id, releaseStage, type, version, -⟩ := texts
    exact ⟨binaryArch, buildUuid, id, releaseStage, type, version, rules.versionCode, rules.duration,
      rules.durationInForeground, rules.inForeground⟩

theorem isSome_user? (levels : Nat) (members : List (List Piece × Node)) :
    (user? (levels + 1) (.object members)).isSome = true ↔
      ∃ named, members? members = some named ∧ UserRules named := by
  refine isSome_bind_fields? (fun _ => UserRules.once) (fun named once => ?_) members
  refine (isSome_bind_iff fun _ => isSome_bind_iff fun _ => isSome_bind_some _ _).trans ?_
  rw [isSome_optional isSome_text? once (by decide), isSome_optional isSome_text? once (by decide),
    isSome_optional isSome_text? once (by decide)]
  exact ⟨fun ⟨id, email, name⟩ => ⟨once, id, email, name⟩,
    fun rules => ⟨rules.id, rules.email, rules.name⟩⟩

theorem isSome_error? (levels : Nat) (members : List (List Piece × Node)) :
    (error? (levels + 1) (.object members)).isSome = true ↔
      ∃ named, members? members = some named ∧ ErrorRules named := by
  refine isSome_bind_fields? (fun _ => ErrorRules.once) (fun named once => ?_) members
  refine (isSome_bind_iff fun _ => isSome_bind_some _ _).trans ?_
  rw [isSome_required isSome_text? once (by decide), isSome_optional isSome_text? once (by decide)]
  exact ⟨fun ⟨errorClass, message⟩ => ⟨once, errorClass, message⟩,
    fun rules => ⟨rules.errorClass, rules.message⟩⟩

theorem isSome_breadcrumb? (levels : Nat) (members : List (List Piece × Node)) :
    (breadcrumb? (levels + 1) (.object members)).isSome = true ↔
      ∃ named, members? members = some named ∧ BreadcrumbRules levels named := by
  refine isSome_bind_fields? (fun _ => BreadcrumbRules.once) (fun named once => ?_) members
  refine (isSome_bind_iff fun _ => isSome_bind_iff fun _ => isSome_bind_iff fun _ =>
    isSome_bind_some _ _).trans ?_
  have values : ∀ node, (values? levels node).isSome = true ↔ IsValues levels node :=
    isSome_dictionary? fun _ _ => Iff.rfl
  rw [isSome_required (fun _ => Iff.rfl) once (by decide), isSome_required isSome_text? once (by decide),
    isSome_required (fun _ => Iff.rfl) once (by decide), isSome_defaulted values once (by decide)]
  exact ⟨fun ⟨timestamp, message, kind, metadata⟩ => ⟨once, timestamp, message, kind, metadata⟩,
    fun rules => ⟨rules.timestamp, rules.message, rules.kind, rules.metadata⟩⟩

/-- **An event is read exactly if its members keep the rules.** -/
theorem isSome_event? (levels : Nat) (members : List (List Piece × Node)) :
    (event? (levels + 1) (.object members)).isSome = true ↔
      ∃ named, members? members = some named ∧ EventRules levels named := by
  refine isSome_bind_fields? (fun _ => EventRules.once) (fun named once => ?_) members
  refine (isSome_bind_iff fun _ => isSome_bind_iff fun _ => isSome_bind_iff fun _ => isSome_bind_iff fun _ =>
    isSome_bind_iff fun _ => isSome_bind_iff fun _ => isSome_bind_iff fun _ => isSome_bind_iff fun _ =>
    isSome_bind_some _ _).trans ?_
  have breadcrumbs : ∀ node, (list? levels breadcrumb? node).isSome = true ↔
      IsList levels (fun less item => (breadcrumb? less item).isSome = true) node :=
    isSome_list? fun _ _ => Iff.rfl
  rw [isSome_required (fun _ => Iff.rfl) once (by decide), isSome_optional isSome_text? once (by decide),
    isSome_required (fun _ => Iff.rfl) once (by decide), isSome_required (fun _ => Iff.rfl) once (by decide),
    isSome_optional (fun _ => Iff.rfl) once (by decide), isSome_required (fun _ => Iff.rfl) once (by decide),
    isSome_required isSome_bool? once (by decide), isSome_required breadcrumbs once (by decide),
    isSome_defaulted (isSome_metadata? levels) once (by decide)]
  exact ⟨fun ⟨timestamp, context, app, user, error, severity, unhandled, breadcrumbs, metadata⟩ =>
      ⟨once, timestamp, context, app, user, error, severity, unhandled, breadcrumbs, metadata⟩,
    fun rules => ⟨rules.timestamp, rules.context, rules.app, rules.user, rules.error, rules.severity,
      rules.unhandled, rules.breadcrumbs, rules.metadata⟩⟩

/-! ### Trees that are alike -/

/-- No two values of a record without records inside are alike. -/
def unrelated (_ : String) (_ _ : Node) : Prop := False

/-- Two lists of items that are alike, one by one. -/
def ListAlike (inner : Node → Node → Prop) (node other : Node) : Prop :=
  ∃ items others, node = .array items ∧ other = .array others ∧ List.Forall₂ inner items others

/-- Values of an event that are alike: those of the records inside it. -/
def eventInner (name : String) : Node → Node → Prop :=
  if name = "app" then Alike appNames unrelated
  else if name = "user" then Alike userNames unrelated
  else if name = "error" then Alike errorNames unrelated
  else if name = "breadcrumbs" then ListAlike (Alike breadcrumbNames unrelated)
  else unrelated name

/-- Two trees of an event that differ in ways that make no difference, at any level of its records. -/
abbrev EventAlike : Node → Node → Prop := Alike eventNames eventInner

theorem respects_unrelated {α : Type} (names : List String) (combine : List (Field Node) → Option α) :
    Respects names unrelated combine := by
  intro first second alike
  have same : first = second := funext fun name => (alike name).congr id fun _ _ related => related.elim
  rw [same]

/-- A record without records inside is read the same of trees that are alike. -/
theorem leaf_eq_of_alike {α : Type} {names : List String} (nodup : names.Nodup)
    {decode : Nat → Node → Option α} {combine : Nat → List (Field Node) → Option α}
    (nothing : ∀ node, decode 0 node = none)
    (reads : ∀ levels node, decode (levels + 1) node = (fields? names node).bind (combine levels))
    (levels : Nat) {node other : Node} (alike : Alike names unrelated node other) :
    decode levels node = decode levels other := by
  cases levels with
  | zero => rw [nothing, nothing]
  | succ levels =>
    rw [reads, reads]
    exact bind_fields?_eq_of_alike nodup (respects_unrelated names (combine levels)) alike

theorem app?_eq_of_alike (levels : Nat) {node other : Node} (alike : Alike appNames unrelated node other) :
    app? levels node = app? levels other :=
  leaf_eq_of_alike (by decide) (fun _ => rfl) (fun _ _ => rfl) levels alike

theorem user?_eq_of_alike (levels : Nat) {node other : Node}
    (alike : Alike userNames unrelated node other) : user? levels node = user? levels other :=
  leaf_eq_of_alike (by decide) (fun _ => rfl) (fun _ _ => rfl) levels alike

theorem error?_eq_of_alike (levels : Nat) {node other : Node}
    (alike : Alike errorNames unrelated node other) : error? levels node = error? levels other :=
  leaf_eq_of_alike (by decide) (fun _ => rfl) (fun _ _ => rfl) levels alike

theorem breadcrumb?_eq_of_alike (levels : Nat) {node other : Node}
    (alike : Alike breadcrumbNames unrelated node other) :
    breadcrumb? levels node = breadcrumb? levels other :=
  leaf_eq_of_alike (by decide) (fun _ => rfl) (fun _ _ => rfl) levels alike

theorem nullable?_eq_of_alike {α : Type} {names : List String} {inner : String → Node → Node → Prop}
    {decode : Node → Option α} {node other : Node} (alike : Alike names inner node other)
    (same : decode node = decode other) : nullable? decode node = nullable? decode other := by
  by_cases empty : node = .null
  · rw [empty, alike.eq_null_iff.mp empty]
  · have solid : other ≠ .null := fun null => empty (alike.eq_null_iff.mpr null)
    unfold nullable?
    split
    · contradiction
    · rw [same]

theorem list?_eq_of_alike {α : Type} (levels : Nat) {decode : Nat → Node → Option α}
    {inner : Node → Node → Prop}
    (same : ∀ levels {node other}, inner node other → decode levels node = decode levels other)
    {node other : Node} (alike : ListAlike inner node other) :
    list? levels decode node = list? levels decode other := by
  obtain ⟨items, others, rfl, rfl, each⟩ := alike
  cases levels with
  | zero => rfl
  | succ levels =>
    show items.mapM (decode levels) = others.mapM (decode levels)
    induction each with
    | nil => rfl
    | cons alike _ ih => rw [List.mapM_cons, List.mapM_cons, same levels alike, ih]

/-- **Trees of an event that are alike are read as the same event.** -/
theorem event?_eq_of_alike (levels : Nat) {node other : Node} (alike : EventAlike node other) :
    event? levels node = event? levels other := by
  cases levels with
  | zero => rfl
  | succ levels =>
    refine bind_fields?_eq_of_alike (by decide) (fun first second alike => ?_) alike
    have plain (name : String) (leaf : eventInner name = unrelated name) : first name = second name :=
      (alike name).congr id fun _ _ related => by
        rw [leaf] at related
        exact related.elim
    have app : (first "app").required (app? levels) = (second "app").required (app? levels) :=
      (alike "app").congr _ fun _ _ => app?_eq_of_alike levels
    have user : (first "user").required (user? levels) = (second "user").required (user? levels) :=
      (alike "user").congr _ fun _ _ => user?_eq_of_alike levels
    have error : (first "error").optional (nullable? (error? levels)) =
        (second "error").optional (nullable? (error? levels)) :=
      (alike "error").congr _ fun _ _ related =>
        nullable?_eq_of_alike related (error?_eq_of_alike levels related)
    have breadcrumbs : (first "breadcrumbs").required (list? levels breadcrumb?) =
        (second "breadcrumbs").required (list? levels breadcrumb?) :=
      (alike "breadcrumbs").congr _ fun _ _ => list?_eq_of_alike levels breadcrumb?_eq_of_alike
    simp only [eventNames, List.map_cons, List.map_nil]
    rw [app, user, error, breadcrumbs, plain "timestamp" rfl, plain "context" rfl, plain "severity" rfl,
      plain "unhandled" rfl, plain "metadata" rfl]

/-- **What is accepted as an event, and what makes no difference to it.**

An object is read as an event, an app, a user, an error or a breadcrumb exactly if its members keep the rules
of that record. Whether an event is read, and which, depends neither on the order of members nor on
members with other names, in any of these records, and all values of a record by position are read as the
same values by name. -/
theorem event?_accepts :
    (∀ levels members, (event? (levels + 1) (.object members)).isSome = true ↔
      ∃ named, members? members = some named ∧ EventRules levels named) ∧
    (∀ levels members, (app? (levels + 1) (.object members)).isSome = true ↔
      ∃ named, members? members = some named ∧ AppRules named) ∧
    (∀ levels members, (user? (levels + 1) (.object members)).isSome = true ↔
      ∃ named, members? members = some named ∧ UserRules named) ∧
    (∀ levels members, (error? (levels + 1) (.object members)).isSome = true ↔
      ∃ named, members? members = some named ∧ ErrorRules named) ∧
    (∀ levels members, (breadcrumb? (levels + 1) (.object members)).isSome = true ↔
      ∃ named, members? members = some named ∧ BreadcrumbRules levels named) ∧
    ∀ levels node other, EventAlike node other → event? levels node = event? levels other :=
  ⟨isSome_event?, isSome_app?, isSome_user?, isSome_error?, isSome_breadcrumb?,
    fun levels _ _ => event?_eq_of_alike levels⟩

/-- The spelling of a string without escapes. -/
def spell (content : String) : List Piece :=
  content.toList.map .character

/-- Members under names without escapes. -/
def spellAll (named : List (String × Node)) : List (List Piece × Node) :=
  named.map fun member => (spell member.1, member.2)

/-- The members of an event that have to be there but for its user, of whom nothing is known. -/
def unattended : List (String × Node) :=
  [("timestamp", .text (spell "2024-02-29T12:30:60Z")), ("app", .object []), ("severity", .text (spell "info")),
    ("unhandled", .bool true), ("breadcrumbs", .array [])]

/-- The same as they are written. -/
def fewMembers : List (List Piece × Node) := spellAll unattended

/-- The members of a user of whom nothing is known. -/
def nobody : List (List Piece × Node) :=
  [(spell "id", .null), (spell "email", .null), (spell "name", .null)]

theorem pieces?_spell (content : String) : Json.pieces? (spell content) = some content := by
  have read (characters : List Char) : Piece.characters? (characters.map .character) = some characters := by
    induction characters with
    | nil => rfl
    | cons first rest ih =>
      rw [List.map_cons, Piece.characters?, ih]
      rfl
  unfold Json.pieces? spell
  rw [read, Option.map_some, String.ofList_toList]

theorem members?_spellAll (named : List (String × Node)) : members? (spellAll named) = some named := by
  induction named with
  | nil => rfl
  | cons member named ih =>
    show (Json.pieces? (spell member.1)).bind _ = _
    rw [pieces?_spell]
    show (members? (spellAll named)).bind _ = _
    rw [ih]
    rfl

/-- What breaks the rules is not read. -/
theorem eq_none_of_breaks {α : Type} {read : Option α} {rules : List (String × Node) → Prop}
    {named : List (String × Node)}
    (accepts : read.isSome = true ↔ ∃ other, members? (spellAll named) = some other ∧ rules other)
    (breaks : ¬ rules named) : read = none := by
  refine Option.not_isSome_iff_eq_none.mp fun held => ?_
  obtain ⟨other, same, kept⟩ := accepts.mp held
  rw [members?_spellAll] at same
  cases same
  exact breaks kept

/-- An error with a class and no message. -/
def bareError : List (String × Node) :=
  [("message", .null), ("error_class", .text (spell "panic"))]

/-- A breadcrumb without a message. -/
def mute : List (String × Node) :=
  [("timestamp", .text (spell "2024-02-29T12:30:60Z")), ("type", .text (spell "log"))]

/-- An event with a member of another name, and with its user by position and in another place; an error of a class,
whose message may be null; and records that break a rule: an event without a user, an error of an empty class, an app
that ran for less than no time, a user with two names and a breadcrumb without a message. -/
theorem event?_accepts_shuffled :
    EventAlike (.object ((spell "extra", .text [.codeUnit 0xD800]) ::
        (fewMembers ++ [(spell "user", .array [.null, .null, .null])])))
      (.object ((spell "user", .object nobody) :: fewMembers)) ∧
    event? 3 (.object ((spell "extra", .text [.codeUnit 0xD800]) ::
        (fewMembers ++ [(spell "user", .array [.null, .null, .null])]))) =
      event? 3 (.object ((spell "user", .object nobody) :: fewMembers)) ∧
    (event? 3 (.object ((spell "user", .object nobody) :: fewMembers))).isSome = true ∧
    (∃ named, members? ((spell "user", .object nobody) :: fewMembers) = some named ∧ EventRules 2 named) ∧
    event? 3 (.object fewMembers) = none ∧
    (error? 3 (.object (spellAll bareError))).isSome = true ∧
    error? 3 (.object (spellAll [("error_class", .text [])])) = none ∧
    app? 3 (.object (spellAll [("duration", .numeral ⟨true, [1], [], none⟩)])) = none ∧
    user? 3 (.object (spellAll [("name", .null), ("name", .null)])) = none ∧
    breadcrumb? 3 (.object (spellAll mute)) = none := by
  have alike : EventAlike (.object ((spell "extra", .text [.codeUnit 0xD800]) ::
        (fewMembers ++ [(spell "user", .array [.null, .null, .null])])))
      (.object ((spell "user", .object nobody) :: fewMembers)) := by
    have user : Alike userNames unrelated (.array [.null, .null, .null]) (.object nobody) :=
      .positional rfl rfl
    refine .trans (.unknown rfl (by decide) _ _) ?_
    refine .trans (.member fewMembers [] rfl user) ?_
    exact .order List.perm_append_comm
  obtain ⟨event, app, user, error, breadcrumb, same⟩ := event?_accepts
  have read : (event? 3 (.object ((spell "user", .object nobody) :: fewMembers))).isSome = true := rfl
  refine ⟨alike, same 3 _ _ alike, read, (event 2 _).mp read, ?unattended, ?bare, ?classless, ?rash, ?doubled, ?mute⟩
  case unattended =>
    refine eq_none_of_breaks (event 2 _) fun rules => ?_
    obtain ⟨_, member, _⟩ := rules.user
    simp [unattended] at member
  case bare =>
    refine (error 2 _).mpr ⟨bareError, members?_spellAll bareError, ?_, ?_, ?_⟩
    · unfold Once
      decide
    · exact ⟨_, .tail _ (.head _), "panic", rfl, by decide⟩
    · intro value member
      obtain rfl : value = .null := by simpa [bareError] using member
      exact .inl rfl
  case classless =>
    refine eq_none_of_breaks (error 2 _) fun rules => ?_
    obtain ⟨_, member, content, spelled, filled⟩ := rules.errorClass
    obtain rfl : _ = Node.text [] := by simpa using member
    cases spelled
    exact filled rfl
  case rash =>
    refine eq_none_of_breaks (app 2 _) fun rules => ?_
    rcases rules.duration _ (.head _) with empty | ⟨seconds, spelled, least, _⟩
    · cases empty
    · cases spelled
      exact absurd least (by decide)
  case doubled =>
    refine eq_none_of_breaks (user 2 _) fun rules => ?_
    exact absurd (rules.once "name" (by decide)) (by decide)
  case mute =>
    refine eq_none_of_breaks (breadcrumb 2 _) fun rules => ?_
    obtain ⟨_, member, _⟩ := rules.message
    simp [mute] at member

end CrashReporter.Decode
