/-
**The template: the present state of the app, from which events are copied.**

Numbers and flags are kept in single words, in which one value stands for an absent field:

* a version code is kept in sixty-four bits, of which the least value means none;
* a duration is kept in whole seconds, as many as sixty-four bits with a sign hold, and a negative
  number means none;
* a flag is kept in a byte: zero for none, one for no, two for yes.

`snapshot` copies everything into an event of its own.
-/

import CrashReporter.Template.Write
import CrashReporter.Trail.Basic

namespace CrashReporter

namespace Template.Word

/-! ### Words -/

/-- The word of an optional version code. -/
def ofVersionCode : Option Int32 → Int64
  | some code => Int64.ofInt code.toInt
  | none => Int64.minValue

/-- The version code of a word. -/
def toVersionCode? (word : Int64) : Option Int32 :=
  if word = Int64.minValue then none
  else if -0x80000000 ≤ word.toInt ∧ word.toInt < 0x80000000 then some (Int32.ofInt word.toInt)
  else none

/-- The word of an optional duration: its whole seconds, confined to sixty-four bits with a sign. -/
def ofDuration : Option Duration → Int64
  | some span => Int64.ofInt (min span.seconds.toNat 0x7FFFFFFFFFFFFFFF)
  | none => -1

/-- The duration of a word. -/
def toDuration? (word : Int64) : Option Duration :=
  if word < 0 then none else some (.ofSeconds (UInt64.ofNat word.toInt.toNat))

/-- The byte of an optional flag. -/
def ofFlag : Option Bool → UInt8
  | none => 0
  | some false => 1
  | some true => 2

/-- The flag of a byte. -/
def toFlag? (byte : UInt8) : Option Bool :=
  if byte = 2 then some true else if byte = 1 then some false else none

end Template.Word

/-- The present state of the app. -/
structure Template (κ : Type) where
  texts : TextField → Option Text
  versionCodeWord : Int64
  durationWord : Int64
  durationInForegroundWord : Int64
  inForegroundByte : UInt8
  metadata : Metadata
  trail : Trail κ

namespace Template

open Word

variable {κ : Type}

/-- A template of which nothing is known. -/
def ofTrail (trail : Trail κ) : Template κ where
  texts _ := none
  versionCodeWord := ofVersionCode none
  durationWord := ofDuration none
  durationInForegroundWord := ofDuration none
  inForegroundByte := ofFlag none
  metadata := .empty
  trail := trail

/-- A template of which nothing is known, with a trail of the given capacity, if there is room for its
breadcrumbs. -/
def make? (capacity : Nat) : Option (Template κ) :=
  (Trail.make? capacity).map .ofTrail

/-! ### Views -/

/-- The version code. -/
def versionCode? (template : Template κ) : Option Int32 :=
  toVersionCode? template.versionCodeWord

/-- The time since the start of the app. -/
def duration? (template : Template κ) : Option Duration :=
  toDuration? template.durationWord

/-- The time that the app was in the foreground. -/
def durationInForeground? (template : Template κ) : Option Duration :=
  toDuration? template.durationInForegroundWord

/-- Whether the app is in the foreground. -/
def inForeground? (template : Template κ) : Option Bool :=
  toFlag? template.inForegroundByte

/-- The user. -/
def user (template : Template κ) : UserInfo :=
  { id := template.texts .userId
    email := template.texts .userEmail
    name := template.texts .userName }

/-- The app. -/
def app (template : Template κ) : AppInfo :=
  { binaryArch := template.texts .binaryArch
    buildUuid := template.texts .buildUuid
    id := template.texts .appId
    releaseStage := template.texts .releaseStage
    type := template.texts .appType
    version := template.texts .version
    versionCode := template.versionCode?
    duration := template.duration?
    durationInForeground := template.durationInForeground?
    inForeground := template.inForeground? }

/-- A copy of the template as an event of the moment `now`. -/
def snapshot (template : Template κ) (now : Instant) : EventRecord :=
  { timestamp := now
    context := template.texts .context
    app := template.app
    user := template.user
    error := none
    severity := default
    unhandled := false
    breadcrumbs := template.trail.entries
    metadata := template.metadata }

/-! ### Writes -/

/-- Sets a text field. -/
def setText (template : Template κ) (field : TextField) (value : Option String) : Template κ :=
  { template with
    texts := fun other => if other = field then Text.ofOption? value else template.texts other }

/-- Makes a write. The fields of a user are written one by one. -/
def write (template : Template κ) : Write → Template κ
  | .text field value => template.setText field value
  | .user id email name =>
    ((template.setText .userId id).setText .userEmail email).setText .userName name
  | .versionCode value => { template with versionCodeWord := ofVersionCode value }
  | .duration value => { template with durationWord := ofDuration value }
  | .durationInForeground value => { template with durationInForegroundWord := ofDuration value }
  | .inForeground value => { template with inForegroundByte := ofFlag value }
  | .metadata heading key value =>
    { template with metadata := template.metadata.add heading key value }
  | .clearSection heading => { template with metadata := template.metadata.clearSection heading }
  | .clearKey heading key => { template with metadata := template.metadata.clearKey heading key }

end Template

end CrashReporter
