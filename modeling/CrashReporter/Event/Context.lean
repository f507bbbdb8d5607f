/-
**The circumstances of an event: the app, its user and the error.**
-/

import CrashReporter.Event.Error
import CrashReporter.Json.Basic
import CrashReporter.Text.Basic

namespace CrashReporter

/-- A span of time. -/
structure Duration where
  seconds : UInt64
  nanoseconds : Nat
  nanoseconds_range : nanoseconds < 1000000000
  deriving DecidableEq

namespace Duration

/-- A span of whole seconds. -/
def ofSeconds (seconds : UInt64) : Duration :=
  ⟨seconds, 0, by decide⟩

/-- A span of milliseconds. -/
def ofMilliseconds (milliseconds : UInt64) : Duration :=
  { seconds := milliseconds / 1000
    nanoseconds := milliseconds.toNat % 1000 * 1000000
    nanoseconds_range := by omega }

end Duration

/-- The app at the time of an event. -/
structure AppInfo where
  /-- The instruction set of the binary. -/
  binaryArch : Option Text
  buildUuid : Option Text
  /-- The name of the package. -/
  id : Option Text
  releaseStage : Option Text
  /-- The platform of the app. -/
  type : Option Text
  version : Option Text
  versionCode : Option Int32
  /-- The time since the start of the app. -/
  duration : Option Duration
  /-- The part of it that the app was in the foreground. -/
  durationInForeground : Option Duration
  /-- Unknown until a transition has been reported. -/
  inForeground : Option Bool
  deriving DecidableEq

/-- The user at the time of an event. -/
structure UserInfo where
  id : Option Text
  email : Option Text
  name : Option Text
  deriving DecidableEq

/-- The error that an event describes. -/
structure ErrorInfo where
  errorClass : Text
  message : Option Text
  deriving DecidableEq

namespace AppInfo

/-- An app of which nothing is known. -/
def unknown : AppInfo :=
  ⟨none, none, none, none, none, none, none, none, none, none⟩

instance : Inhabited AppInfo := ⟨unknown⟩

/-- Whether the app is in the foreground; not before a transition was reported. -/
def isInForeground (app : AppInfo) : Bool :=
  app.inForeground.getD false

end AppInfo

namespace UserInfo

/-- A user with the given fields, of which empty ones are absent. -/
def make (id email name : Option String) : UserInfo :=
  ⟨Text.ofOption? id, Text.ofOption? email, Text.ofOption? name⟩

/-- A user of whom nothing is known. -/
def unknown : UserInfo := ⟨none, none, none⟩

instance : Inhabited UserInfo := ⟨unknown⟩

/-- Nothing is known of the user. -/
def isEmpty (user : UserInfo) : Bool :=
  user.id.isNone && user.email.isNone && user.name.isNone

end UserInfo

/-- An error with the given class, which has to be a text, and an optional message. -/
def ErrorInfo.make (errorClass : String) (message : Option String) :
    Except EventError ErrorInfo :=
  match Text.ofString? errorClass with
  | some errorClass => .ok ⟨errorClass, Text.ofOption? message⟩
  | none => .error .emptyErrorClass

/-! ### JSON objects -/

namespace Json

/-- An optional value, absent as null. -/
def ofOption {α : Type} (encode : α → Json) (value : Option α) : Json :=
  match value with
  | some value => encode value
  | none => .null

/-- A text as a string. -/
def ofText (text : Text) : Json :=
  .string text.content

/-- An integer of at most sixty-four bits as a number; any other one as null. -/
def ofInt (value : Int) : Json :=
  ofOption .number (Number.ofInt? value)

end Json

/-- An app as a JSON object, durations in whole seconds. -/
def AppInfo.toJson (app : AppInfo) : Json :=
  .object
    [("binary_arch", .ofOption .ofText app.binaryArch),
      ("build_uuid", .ofOption .ofText app.buildUuid),
      ("id", .ofOption .ofText app.id),
      ("release_stage", .ofOption .ofText app.releaseStage),
      ("type", .ofOption .ofText app.type),
      ("version", .ofOption .ofText app.version),
      ("version_code", .ofOption (fun code => .ofInt code.toInt) app.versionCode),
      ("duration", .ofOption (fun span => .ofInt span.seconds.toNat) app.duration),
      ("duration_in_foreground",
        .ofOption (fun span => .ofInt span.seconds.toNat) app.durationInForeground),
      ("in_foreground", .ofOption .bool app.inForeground)]

/-- A user as a JSON object. -/
def UserInfo.toJson (user : UserInfo) : Json :=
  .object
    [("id", .ofOption .ofText user.id), ("email", .ofOption .ofText user.email),
      ("name", .ofOption .ofText user.name)]

/-- An error as a JSON object. -/
def ErrorInfo.toJson (error : ErrorInfo) : Json :=
  .object
    [("error_class", .ofText error.errorClass), ("message", .ofOption .ofText error.message)]

end CrashReporter
