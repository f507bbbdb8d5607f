/-
**Why event data is refused.**

Every refusal is a cause; `EventError.name` is the one place that names them, and `EventError.message` the
one place that words them.
-/

namespace CrashReporter

/-- A cause for refusing event data. -/
inductive EventError where
  /-- No severity has this name. -/
  | invalidSeverity (name : String)
  /-- No severity has this code. -/
  | unknownSeverityCode (code : Int32)
  /-- No kind of breadcrumb has this name. -/
  | invalidBreadcrumbKind (name : String)
  /-- No kind of breadcrumb has this code. -/
  | unknownBreadcrumbCode (code : Int32)
  /-- The message of a breadcrumb is no text. -/
  | emptyBreadcrumbMessage
  /-- The class of an error is no text. -/
  | emptyErrorClass
  deriving DecidableEq, Repr

/-- The name of a refusal. -/
def EventError.name : EventError → String
  | .invalidSeverity _ => "InvalidSeverity"
  | .unknownSeverityCode _ => "UnknownSeverityCode"
  | .invalidBreadcrumbKind _ => "InvalidBreadcrumbType"
  | .unknownBreadcrumbCode _ => "UnknownBreadcrumbTypeCode"
  | .emptyBreadcrumbMessage => "EmptyBreadcrumbMessage"
  | .emptyErrorClass => "EmptyErrorClass"

/-- The wording of a refusal. -/
def EventError.message : EventError → String
  | .invalidSeverity name => "invalid severity: " ++ name
  | .unknownSeverityCode code => "unknown severity code: " ++ toString code.toInt
  | .invalidBreadcrumbKind name => "invalid breadcrumb type: " ++ name
  | .unknownBreadcrumbCode code => "unknown breadcrumb type code: " ++ toString code.toInt
  | .emptyBreadcrumbMessage => "breadcrumb message must not be empty"
  | .emptyErrorClass => "error class must not be empty"

end CrashReporter
