/-
**How bad an event is.**

Each severity has a name, used in text, and a code, used by native callers.
-/

import CrashReporter.Event.Error

namespace CrashReporter

/-- How bad an event is. -/
inductive Severity where
  | error
  | warning
  | info
  deriving DecidableEq, Repr

namespace Severity

/-- The severity of an event that nobody has rated. -/
instance : Inhabited Severity := ⟨.error⟩

/-- All severities in the order of their codes. -/
def all : List Severity := [.error, .warning, .info]

/-- The name of a severity. -/
def name : Severity → String
  | .error => "error"
  | .warning => "warning"
  | .info => "info"

/-- The code of a severity. -/
def code : Severity → Int32
  | .error => 0
  | .warning => 1
  | .info => 2

/-- The severity of a name. -/
def ofName (name : String) : Except EventError Severity :=
  match all.find? fun severity => severity.name = name with
  | some severity => .ok severity
  | none => .error (.invalidSeverity name)

/-- The severity of a code. -/
def ofCode (code : Int32) : Except EventError Severity :=
  match all.find? fun severity => severity.code = code with
  | some severity => .ok severity
  | none => .error (.unknownSeverityCode code)

end Severity

end CrashReporter
