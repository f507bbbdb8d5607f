/-
**The files of a host.**

`Files` says what stands at every path. `Files.ofHost` adds what hosts have in common, wherever a path
leads to it.
-/

import CrashReporter.Config.Hierarchy
import CrashReporter.Text.Separated

namespace CrashReporter

/-- What stands at every path. -/
abbrev Files := String → FileState

namespace Files

/-- The directory that a program runs in. Nothing stands there but the given files. -/
def workingDirectory : Place := ["home"]

/-- Where a path leads, if it does. The empty path leads nowhere. -/
def place? (path : String) : Option Place :=
  let names := (Text.pieces '/' path.toList).map String.ofList
  match path.toList with
  | [] => none
  | '/' :: _ => Place.walk [] names
  | _ => workingDirectory.walk names

/-- The files of a host that has the given ones beside those that all have. -/
def ofHost (files : Files) : Files :=
  fun path => ((place? path).bind Place.state?).getD (files path)

end Files

end CrashReporter
