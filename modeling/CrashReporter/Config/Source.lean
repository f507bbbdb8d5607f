/-
**Where settings come from, and which source counts.**

Built-in defaults, a file and the environment each give a layer. Layers are merged in the order of
precedence, whatever order the sources are listed in, and the first source that fails decides the error:

* `Environment.layer` reads the variables; numbers are checked in a fixed order;
* `Settings.load` finds the file by its variable, `Settings.loadWithFile` is told it.
-/

import CrashReporter.Config.Decode
import CrashReporter.Config.Files

namespace CrashReporter

/-! ### Variables -/

/-- The number that decimal digits spell, at least one, if it fits sixty-four bits. -/
def decimalWord? (digits : List Char) : Option UInt64 :=
  if digits ≠ [] ∧ digits.all Char.isDigit then
    let value := digits.foldl (fun value digit => value * 10 + (digit.toNat - '0'.toNat)) 0
    if value < 0x10000000000000000 then some (UInt64.ofNat value) else none
  else none

/-- The number of a text with outer white space and a plus sign allowed. -/
def trimmedWord? (value : String) : Option UInt64 :=
  match Text.trim value.toList with
  | '+' :: digits => decimalWord? digits
  | digits => decimalWord? digits

namespace Environment

/-- The number that a variable is set to, if it is set. -/
def number (environment : Environment) (key : Variable) : Except ConfigError (Option UInt64) :=
  match environment.value? key with
  | none => .ok none
  | some value =>
    match trimmedWord? value with
    | some number => .ok (some number)
    | none => .error (.invalidNumber key value)

/-- The list that a variable is set to, if it is set. -/
def list? (environment : Environment) (key : Variable) : Option (List String) :=
  (environment.value? key).map Text.splitList

/-- The layer of the variables. Its sections are present even if no variable is set. -/
def layer (environment : Environment) : Except ConfigError Layer := do
  let maxBreadcrumbs ← environment.number .maxBreadcrumbs
  let threshold ← environment.number .hangThreshold
  let pollInterval ← environment.number .pollInterval
  pure
    { breadcrumbs := some ⟨maxBreadcrumbs⟩
      hang := some ⟨threshold, pollInterval⟩
      release := some
        ⟨environment.list? .enabledReleaseStages, environment.list? .discardClasses⟩
      log := some ⟨environment.value? .logLevel⟩ }

end Environment

/-! ### Files -/

/-- The layer of a file. A missing file specifies nothing. -/
def Files.layer (files : Files) (path : String) : Except ConfigError Layer :=
  match files path with
  | .missing => .ok .empty
  | .unreadable => .error (.unreadableFile path)
  | .content octets =>
    match Utf8.decode? octets with
    | none => .error (.unreadableFile path)
    | some characters =>
      match Layer.ofToml? (String.ofList characters) with
      | some layer => .ok layer
      | none => .error (.malformedFile path)

/-! ### Sources -/

/-- What an agent is started in. -/
structure Surroundings where
  environment : Environment
  files : Files

/-- A source of settings. -/
inductive Source where
  | defaults
  | file (path : String)
  | environment
  deriving DecidableEq, Repr

namespace Source

/-- The name of a source. -/
def name : Source → String
  | .defaults => "defaults"
  | .file _ => "toml-config"
  | .environment => "environment"

/-- The rank of a source; a higher one counts before a lower one. -/
def precedence : Source → Nat
  | .defaults => 10
  | .file _ => 20
  | .environment => 50

/-- The file that a variable names, if it does. -/
def ofVariable? (environment : Environment) : Option Source :=
  (environment.value? .configFile).map .file

/-- The layer of a source. -/
def layer (surroundings : Surroundings) : Source → Except ConfigError Layer
  | .defaults => .ok .empty
  | .file path => surroundings.files.layer path
  | .environment => surroundings.environment.layer

/-- Sources in the order of precedence; those of equal precedence stay in theirs. -/
def ordered (sources : List Source) : List Source :=
  sources.mergeSort fun first second => first.precedence ≤ second.precedence

end Source

/-! ### Loading -/

namespace Settings

/-- Lays the layers of sources over a layer, one after the other. -/
def mergeSources (surroundings : Surroundings) (layer : Layer) :
    List Source → Except ConfigError Layer
  | [] => .ok layer
  | source :: rest => do
    let upper ← source.layer surroundings
    mergeSources surroundings (layer.merge upper) rest

/-- The settings that sources give together. -/
def loadFrom (surroundings : Surroundings) (sources : List Source) : Except ConfigError Settings := do
  let layer ← mergeSources surroundings .empty (Source.ordered sources)
  layer.finalize

/-- The settings with the file that the environment names. -/
def load (surroundings : Surroundings) : Except ConfigError Settings :=
  loadFrom surroundings
    ([.defaults, .environment] ++ (Source.ofVariable? surroundings.environment).toList)

/-- The settings with the given file. -/
def loadWithFile (surroundings : Surroundings) (path : String) : Except ConfigError Settings :=
  loadFrom surroundings [.defaults, .file path, .environment]

end Settings

end CrashReporter
