/-
**Callbacks that edit the registry they are in.**

While a record runs past its callbacks, each may add and remove callbacks, run another record, and keep
notes of its own. A run walks the callbacks that were registered when it started, whatever is edited
meanwhile. Runs inside runs are counted; a run that is nested deeper than allowed has no result.
-/

import CrashReporter.Program
import CrashReporter.Registry.Basic

namespace CrashReporter.Registry

/-- What a callback may ask: of its registry, or of the notes `ν` that its owner keeps. -/
inductive Request (κ ρ ν : Type) where
  | recall
  | remember (notes : ν)
  | add (callback : κ)
  | remove (id : CallbackId)
  | run (record : ρ)

/-- The answer to a request. -/
abbrev Request.Answer {κ ρ ν : Type} : Request κ ρ ν → Type
  | .recall => ν
  | .remember _ => Unit
  | .add _ => CallbackId
  | .remove _ => Bool
  | .run _ => Bool × ρ

/-- What a callback does with a record. -/
abbrev Behaviour (κ ρ ν : Type) :=
  κ → ρ → Program (Request κ ρ ν) Request.Answer (Verdict × ρ)

/-- A registry with the notes of its owner. -/
structure Scene (κ ν : Type) where
  registry : Registry κ
  notes : ν

variable {κ ρ ν : Type}

/-- Answers a request, with runs nested at most as deep as given. -/
def perform (behave : Behaviour κ ρ ν) : Nat → (request : Request κ ρ ν) →
    StateT (Scene κ ν) Option request.Answer
  | 0, _ => failure
  | _ + 1, .recall => do
    let scene ← get
    pure scene.notes
  | _ + 1, .remember notes => modify fun scene => { scene with notes := notes }
  | _ + 1, .add callback => do
    let scene ← get
    let (id, registry) := scene.registry.add callback
    set { scene with registry := registry }
    pure id
  | _ + 1, .remove id => do
    let scene ← get
    let (removed, registry) := scene.registry.remove id
    set { scene with registry := registry }
    pure removed
  | depth + 1, .run record => do
    let scene ← get
    walk (fun callback record => (behave callback record).run (perform behave depth))
      scene.registry.entries record

end CrashReporter.Registry
