/-
**Native code.**

Native code is what a native caller does: it makes native calls, reads and writes the event that it was called
with, keeps notes of its own, writes to its memory, and waits for its notes to be as told. It has no other
way to the agent, and in particular learns neither the names of clients nor the time.

Handles that native code uses are those of the events that it made itself. `NativeCode.scriptAfter` says
what code asks of the agent if it begins when there are so many events already; for code that begins when
there are none, its native calls are what they are (`NativeCall.scriptAfter_zero`).

Native calls read their arguments first, and then go about in a few ways only: `NativeCall.scriptAfter_cases`
is the case analysis for whatever is to be shown of all of them.
-/

import CrashReporter.Native.Call
import CrashReporter.Proofs.Client.Pairs
import CrashReporter.Proofs.Program.Runs

namespace CrashReporter

variable {κ ν α : Type}

/-- The handle of an event that was made after so many others. -/
def Handle.after (events : Nat) (handle : Handle) : Handle := ⟨events + handle.index⟩

/-- The handle without the events that were made before. -/
def Handle.without (events : Nat) (handle : Handle) : Handle := ⟨handle.index - events⟩

theorem Handle.after_zero (handle : Handle) : handle.after 0 = handle :=
  congrArg Handle.mk (Nat.zero_add _)

/-- A buffer is at the address that it was asked for. -/
theorem Hang.Buffer.address_of? {address : UInt64} {buffer : Hang.Buffer}
    (found : Hang.Buffer.of? address = some buffer) : buffer.address = address := by
  unfold of? at found
  split at found
  · split at found
    · cases found
      rfl
    · cases found
  · cases found

/-! ### Calls -/

namespace NativeCall

/-- What a native call asks of the agent if its handles are counted from so many events. -/
def scriptAfter (events : Nat) : (call : NativeCall κ) → Script κ ν call.Answer
  | .newEvent => do
    let handle ← newEventScript
    pure (handle.without events)
  | .freeEvent handle => (freeEvent (handle.map (.after events))).script
  | .readEvent handle what => (readEvent (handle.map (.after events)) what).script
  | .writeEvent handle change => (writeEvent (handle.map (.after events)) change).script
  | call => call.script

/-- Counted from no event, handles are what they are. -/
theorem scriptAfter_zero (call : NativeCall κ) : (call.scriptAfter 0 : Script κ ν call.Answer) = call.script := by
  have handles (handle : Option Handle) : handle.map (.after 0) = handle := by
    rw [funext Handle.after_zero, Option.map_id_fun', id]
  cases call with
  | newEvent => exact bind_pure (newEventScript : Script κ ν Handle)
  | freeEvent handle =>
    dsimp only [scriptAfter]
    rw [handles]
  | readEvent handle what =>
    dsimp only [scriptAfter]
    rw [handles]
  | writeEvent handle change =>
    dsimp only [scriptAfter]
    rw [handles]
  | _ => rfl

/-- A native call starts no monitor but of some addresses. -/
def Watches (watched : UInt64 → Prop) : NativeCall κ → Prop
  | .enableHangs address => watched address
  | _ => True

theorem scriptAfter_writeEvent_some (events : Nat) (handle : Handle) (change : EventWrite) :
    (writeEvent (some handle) change : NativeCall κ).scriptAfter events = (do
      match ← Script.event (some (handle.after events)) with
      | some event => Script.ask (.setEvent (handle.after events) (some (event.writeNative change)))
      | none => pure () : Script κ ν Unit) := by
  refine congrArg (Script.event (some (handle.after events)) >>= ·) (funext fun address => ?_)
  cases address <;> rfl

/-- **How native calls go about**, apart from what their arguments say: what holds of the scripts of each kind
holds of all. A call that tells the installed client of something starts a monitor of no other address. -/
theorem scriptAfter_cases {motive : {α : Type} → (Nat → Script κ ν α) → Prop} (task : NativeCall κ)
    (nothing : ∀ {α : Type} (answer : α), motive fun _ => pure answer)
    (init : ∀ surroundings runtimeContext, motive fun _ => initScript surroundings runtimeContext)
    (close : motive fun _ => closeScript)
    (tell : ∀ told : ClientCall κ, (∀ watched, task.Watches watched → told.Watches watched) →
      motive fun _ => Script.tell told)
    (addOnError : ∀ callback, motive fun _ => do
      let id ← Script.onCurrent (.addOnError callback)
      pure ((id.map CallbackId.number).getD 0))
    (newEvent : motive fun events => do
      let handle ← newEventScript
      pure (handle.without events))
    (freeEvent : ∀ handle : Handle, motive fun events => Script.ask (.setEvent (handle.after events) none))
    (readEvent : ∀ (handle : Handle) (what : EventRead), motive fun events => do
      let address ← Script.event (some (handle.after events))
      pure (address.read what))
    (writeEvent : ∀ (handle : Handle) (change : EventWrite), motive fun events => do
      match ← Script.event (some (handle.after events)) with
      | some event => Script.ask (.setEvent (handle.after events) (some (event.writeNative change)))
      | none => pure ()) :
    motive fun events => task.scriptAfter events := by
  cases task with
  | init surroundings runtimeContext => exact init surroundings runtimeContext
  | close => exact close
  | setDelivery function => cases function <;> exact tell _ fun _ _ => trivial
  | notify name message severity =>
    dsimp only [scriptAfter, script]
    cases name.read? with
    | none => exact nothing ()
    | some name => exact tell _ fun _ _ => trivial
  | leaveBreadcrumb message kind =>
    dsimp only [scriptAfter, script]
    cases message.read? with
    | none => exact nothing ()
    | some message =>
      cases BreadcrumbKind.ofCode kind with
      | error cause => exact nothing ()
      | ok kind => exact tell _ fun _ _ => trivial
  | addOnError callback =>
    cases callback with
    | none => exact nothing (0 : UInt64)
    | some callback => exact addOnError callback
  | removeOnError token => exact tell _ fun _ _ => trivial
  | write change =>
    dsimp only [scriptAfter, script]
    cases change.change? with
    | none => exact nothing ()
    | some change => exact tell _ fun _ _ => trivial
  | enableHangs address =>
    dsimp only [scriptAfter, script]
    cases found : Hang.Buffer.of? address with
    | none => exact nothing ()
    | some buffer =>
      refine tell (.enableHangs buffer) fun watched permitted => ?_
      show watched buffer.address
      rw [Hang.Buffer.address_of? found]
      exact permitted
  | disableHangs => exact tell _ fun _ _ => trivial
  | newEvent => exact newEvent
  | freeEvent handle =>
    cases handle with
    | none => exact nothing ()
    | some handle => exact freeEvent handle
  | readEvent handle what =>
    cases handle with
    | none => exact nothing _
    | some handle => exact readEvent handle what
  | writeEvent handle change =>
    cases handle with
    | none => exact nothing ()
    | some handle =>
      rw [funext fun events => scriptAfter_writeEvent_some events handle change]
      exact writeEvent handle change

end NativeCall

/-! ### Code -/

/-- What native code does at once. -/
inductive NativeMove (κ ν : Type) where
  | call (task : NativeCall κ)
  /-- Reads from the event that the code was called with. -/
  | readGiven (what : EventRead)
  /-- Writes to the event that the code was called with. -/
  | writeGiven (change : EventWrite)
  /-- Reads the notes. -/
  | recall
  | remember (notes : ν)
  /-- Writes a word to the host's memory. -/
  | store (address value : UInt64)
  /-- Waits until the notes are as told, at most for a span of time, and tells whether they are. -/
  | wait (span : Nat) (ready : ν → Bool)

/-- What a move of native code answers. -/
abbrev NativeMove.Answer : NativeMove κ ν → Type
  | .call task => task.Answer
  | .readGiven what => what.Answer
  | .writeGiven _ => Unit
  | .recall => ν
  | .remember _ => Unit
  | .store .. => Unit
  | .wait .. => Bool

/-- Native code with a result. -/
abbrev NativeCode (κ ν α : Type) := Program (NativeMove κ ν) NativeMove.Answer α

/-- What a move asks of the agent, and what becomes of the event that the code was called with. -/
def NativeMove.scriptAfter (events : Nat) (given : EventAddress) :
    (move : NativeMove κ ν) → Script κ ν (move.Answer × EventAddress)
  | .call task => do
    let answer ← task.scriptAfter events
    pure (answer, given)
  | .readGiven what => pure (given.read what, given)
  | .writeGiven change => pure ((), given.write change)
  | .recall => do
    let notes ← (Script.ask .recall : Script κ ν ν)
    pure (notes, given)
  | .remember notes => do
    let _ ← (Script.ask (.remember notes) : Script κ ν Unit)
    pure ((), given)
  | .store address value => do
    let _ ← (Script.ask (.store address value) : Script κ ν Unit)
    pure ((), given)
  | .wait span ready => do
    let told ← (Script.ask (.wait span fun agent => ready agent.notes) : Script κ ν Bool)
    pure (told, given)

namespace NativeCode

/-- What native code asks of the agent if it is called with an event and begins after so many events. -/
def scriptAfter (events : Nat) : NativeCode κ ν α → EventAddress → Script κ ν (α × EventAddress)
  | .done result, given => pure (result, given)
  | .ask move next, given => do
    let (answer, given) ← move.scriptAfter events given
    scriptAfter events (next answer) given

/-- What native code of the owner asks of the agent, which is called with no event. -/
def ownScript (events : Nat) (code : NativeCode κ ν α) : Script κ ν α := do
  let (result, _) ← scriptAfter events code none
  pure result

/-- Makes a native call. -/
def call (task : NativeCall κ) : NativeCode κ ν task.Answer := .ask (.call task) .done

/-- Closes the client that is installed, if there is one, and installs a new one before anything else is
done. -/
def relaunch (surroundings : Surroundings) (runtimeContext : UInt64) (code : NativeCode κ ν α) :
    NativeCode κ ν α := do
  let _ ← (call .close : NativeCode κ ν Unit)
  let _ ← (call (.init surroundings runtimeContext) : NativeCode κ ν Unit)
  code

/-- Native code starts no monitor but of some addresses. -/
def Watches (watched : UInt64 → Prop) (code : NativeCode κ ν α) : Prop :=
  code.Asks fun
    | .call task => task.Watches watched
    | _ => True

end NativeCode

/-- What native callbacks and deliveries do. -/
structure NativeHost (κ ν : Type) where
  /-- Tells whether the event is to be reported. -/
  onError : κ → NativeCode κ ν Bool
  /-- Answers with the code of a status. -/
  deliver : κ → NativeCode κ ν Int32

namespace NativeHost

/-- A host whose handles are counted from so many events. Native callers register no on-breadcrumb
callback, and no delivery of another kind. -/
def host (native : NativeHost κ ν) (events : Nat) : Host κ ν where
  onError callback event := do
    let (accepted, given) ← NativeCode.scriptAfter events (native.onError callback) (some event)
    pure (.ofBool accepted, given.getD event)
  onBreadcrumb _ breadcrumb := pure (.accept, breadcrumb)
  deliver _ _ := pure (some .delivered)
  deliverNative callback event := do
    let (code, _) ← NativeCode.scriptAfter events (native.deliver callback) (some event)
    pure code

/-- No callback and no delivery starts a monitor but of some addresses. -/
structure Watches (watched : UInt64 → Prop) (native : NativeHost κ ν) : Prop where
  onError : ∀ callback, NativeCode.Watches watched (native.onError callback)
  deliver : ∀ callback, NativeCode.Watches watched (native.deliver callback)

end NativeHost

end CrashReporter
