/-
**Callbacks that leave breadcrumbs on the trail they are registered in.**

A callback that is shown a breadcrumb may use the whole trail: leave further breadcrumbs, add and remove
callbacks, clear it, and keep notes of its own. Breadcrumbs left inside callbacks are counted; one that
is nested deeper than allowed has no result.
-/

import CrashReporter.Instant.Clock
import CrashReporter.Program
import CrashReporter.Trail.Basic

namespace CrashReporter.Trail

/-- What may be asked of a trail, and of the notes `ν` that its owner keeps. -/
inductive Request (κ ν : Type) where
  | recall
  | remember (notes : ν)
  | leave (message : String) (kind : BreadcrumbKind)
  | push (breadcrumb : Breadcrumb)
  /-- Adds a breadcrumb without asking the callbacks. -/
  | append (breadcrumb : Breadcrumb)
  | clear
  | add (callback : κ)
  | remove (id : CallbackId)

/-- The answer to a request. -/
abbrev Request.Answer {κ ν : Type} : Request κ ν → Type
  | .recall => ν
  | .remember _ => Unit
  | .leave .. => Bool
  | .push _ => Bool
  | .append _ => Unit
  | .clear => Unit
  | .add _ => CallbackId
  | .remove _ => Bool

/-- What a callback does with a breadcrumb. -/
abbrev Behaviour (κ ν : Type) :=
  κ → Breadcrumb → Program (Request κ ν) Request.Answer (Verdict × Breadcrumb)

/-- A trail with a clock and the notes of its owner. -/
structure Scene (κ ν : Type) where
  trail : Trail κ
  clock : Clock
  notes : ν
  /-- All breadcrumbs that were added since the trail was last cleared, as they came, the latest first. -/
  history : List Breadcrumb

namespace Scene

variable {κ ν : Type}

/-- A trail without breadcrumbs. -/
def start (capacity : Nat) (clock : Clock) (notes : ν) : Scene κ ν :=
  { trail := .ofCapacity capacity
    clock := clock
    notes := notes
    history := [] }

/-- Adds a breadcrumb at a reading of the clock. -/
def append (scene : Scene κ ν) (breadcrumb : Breadcrumb) : Scene κ ν :=
  let (now, clock) := scene.clock.read
  { scene with
    trail := scene.trail.append now breadcrumb
    clock := clock
    history := breadcrumb :: scene.history }

/-- Removes all breadcrumbs. -/
def clear (scene : Scene κ ν) : Scene κ ν :=
  { scene with trail := scene.trail.clear, history := [] }

/-- The trail of a scene, with callbacks that are evaluated in the given way. -/
def access (evaluate : κ → Breadcrumb → StateT (Scene κ ν) Option (Verdict × Breadcrumb)) :
    Access κ (StateT (Scene κ ν) Option) where
  get := do
    let scene ← get
    pure scene.trail
  now := do
    let scene ← get
    let (now, clock) := scene.clock.read
    set { scene with clock := clock }
    pure now
  evaluate := evaluate
  append breadcrumb := modify fun scene => scene.append breadcrumb

end Scene

variable {κ ν : Type}

/-- Answers a request, with breadcrumbs nested at most as deep as given. -/
def perform (behave : Behaviour κ ν) : Nat → (request : Request κ ν) →
    StateT (Scene κ ν) Option request.Answer
  | 0, _ => failure
  | depth + 1, request =>
    let access := Scene.access fun callback breadcrumb =>
      (behave callback breadcrumb).run (perform behave depth)
    match request with
    | .recall => do
      let scene ← get
      pure scene.notes
    | .remember notes => modify fun scene => { scene with notes := notes }
    | .leave message kind => access.leave message kind
    | .push breadcrumb => access.push breadcrumb
    | .append breadcrumb => access.append breadcrumb
    | .clear => modify fun scene => scene.clear
    | .add callback => do
      let scene ← get
      let (id, trail) := scene.trail.addCallback callback
      set { scene with trail := trail }
      pure id
    | .remove id => do
      let scene ← get
      let (removed, trail) := scene.trail.removeCallback id
      set { scene with trail := trail }
      pure removed

end CrashReporter.Trail
