/-
**Breadcrumbs: what happened on the way to a failure.**
-/

import CrashReporter.Event.Error
import CrashReporter.Instant.Text
import CrashReporter.Json.Basic
import CrashReporter.Text.Basic

namespace CrashReporter

/-- What a breadcrumb is about. -/
inductive BreadcrumbKind where
  | error
  | log
  | manual
  | navigation
  | process
  | request
  | state
  | user
  deriving DecidableEq, Repr

namespace BreadcrumbKind

/-- All kinds in the order of their codes. -/
def all : List BreadcrumbKind :=
  [.error, .log, .manual, .navigation, .process, .request, .state, .user]

/-- The name of a kind. -/
def name : BreadcrumbKind → String
  | .error => "error"
  | .log => "log"
  | .manual => "manual"
  | .navigation => "navigation"
  | .process => "process"
  | .request => "request"
  | .state => "state"
  | .user => "user"

/-- The code of a kind. -/
def code : BreadcrumbKind → Int32
  | .error => 0
  | .log => 1
  | .manual => 2
  | .navigation => 3
  | .process => 4
  | .request => 5
  | .state => 6
  | .user => 7

/-- The kind of a name. -/
def ofName (name : String) : Except EventError BreadcrumbKind :=
  match all.find? fun kind => kind.name = name with
  | some kind => .ok kind
  | none => .error (.invalidBreadcrumbKind name)

/-- The kind of a code. -/
def ofCode (code : Int32) : Except EventError BreadcrumbKind :=
  match all.find? fun kind => kind.code = code with
  | some kind => .ok kind
  | none => .error (.unknownBreadcrumbCode code)

end BreadcrumbKind

/-- Something that happened before a report. -/
structure Breadcrumb where
  timestamp : Instant
  message : Text
  kind : BreadcrumbKind
  metadata : Dictionary Json

namespace Breadcrumb

/-- A breadcrumb without metadata, made at the moment `now`. -/
def make (now : Instant) (message : String) (kind : BreadcrumbKind) :
    Except EventError Breadcrumb :=
  match Text.ofString? message with
  | some message => .ok ⟨now, message, kind, []⟩
  | none => .error .emptyBreadcrumbMessage

/-- Sets a value in the metadata; a null is a value like any other here. -/
def withMetadata (breadcrumb : Breadcrumb) (key : String) (value : Json) : Breadcrumb :=
  { breadcrumb with metadata := breadcrumb.metadata.insert key value }

/-- A breadcrumb as a JSON object; empty metadata is left out. -/
def toJson (breadcrumb : Breadcrumb) : Json :=
  .object
    ([("timestamp", .string breadcrumb.timestamp.write),
      ("message", .string breadcrumb.message.content),
      ("type", .string breadcrumb.kind.name)] ++
      if breadcrumb.metadata.isEmpty then [] else [("metadata", .object breadcrumb.metadata)])

/-- Equality of breadcrumbs. -/
def same (first second : Breadcrumb) : Bool :=
  first.timestamp = second.timestamp && first.message = second.message &&
    first.kind = second.kind && (Json.object first.metadata).same (.object second.metadata)

instance : BEq Breadcrumb := ⟨same⟩

end Breadcrumb

end CrashReporter
