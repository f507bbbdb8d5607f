/-
**Why a client refuses a call.**
-/

import CrashReporter.Config.Error
import CrashReporter.Event.Error

namespace CrashReporter

/-- A cause for refusing a call on a client. -/
inductive ClientError where
  /-- The client was closed. -/
  | closed
  /-- Its settings are not usable. -/
  | config (cause : ConfigError)
  /-- The event is not usable. -/
  | event (cause : EventError)

/-- The name of a refusal. -/
def ClientError.name : ClientError → String
  | .closed => "ClientClosed"
  | .config _ => "Config"
  | .event _ => "Event"

/-- The wording of a refusal. -/
def ClientError.message : ClientError → String
  | .closed => "native client has been closed"
  | .config cause => "configuration error: " ++ cause.message
  | .event cause => "event error: " ++ cause.message

end CrashReporter
