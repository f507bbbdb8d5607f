/-
**Registries of callbacks.**

Callbacks are kept in the order of their registration under identities that a registry never issues
twice. A record runs past them (`walk`): each may change it, and the first one that refuses it ends the walk.
A callback that panics neither refuses nor ends anything; what it had changed by then stays changed.
-/

namespace CrashReporter

/-- The identity of a registered callback. -/
structure CallbackId where
  number : UInt64
  deriving DecidableEq, Repr

/-- Callbacks in the order of their registration. -/
structure Registry (κ : Type) where
  entries : List (CallbackId × κ)
  /-- The number of the next identity. -/
  next : UInt64

/-- How a callback ends. -/
inductive Verdict where
  | accept
  | refuse
  | panic
  deriving DecidableEq, Repr

/-- The verdict of a callback that answers whether it accepts. -/
def Verdict.ofBool (accepted : Bool) : Verdict :=
  if accepted then .accept else .refuse

namespace Registry

variable {κ ρ : Type} {m : Type → Type}

/-- A registry without callbacks. Identities start at one, so that zero never names a callback. -/
def empty : Registry κ := ⟨[], 1⟩

/-- Registers a callback after all others. -/
def add (registry : Registry κ) (callback : κ) : CallbackId × Registry κ :=
  (⟨registry.next⟩,
    { entries := registry.entries ++ [(⟨registry.next⟩, callback)]
      next := registry.next + 1 })

/-- Whether an identity names a callback. -/
def contains (registry : Registry κ) (id : CallbackId) : Bool :=
  registry.entries.any fun entry => entry.1 = id

/-- Removes the callback of an identity, and tells whether there was one. -/
def remove (registry : Registry κ) (id : CallbackId) : Bool × Registry κ :=
  (registry.contains id,
    { registry with entries := registry.entries.filter fun entry => entry.1 ≠ id })

/-- The number of callbacks. -/
def size (registry : Registry κ) : Nat :=
  registry.entries.length

/-- There is no callback. -/
def isEmpty (registry : Registry κ) : Bool :=
  registry.entries.isEmpty

/-- The listing of a registry. -/
def describe (registry : Registry κ) : String :=
  "CallbackChain \x7b len: " ++ toString registry.size ++ " \x7d"

/-- Runs a record past callbacks up to the first one that refuses it. Gives whether none did, and the
record as they left it. -/
def walk [Monad m] (evaluate : κ → ρ → m (Verdict × ρ)) :
    List (CallbackId × κ) → ρ → m (Bool × ρ)
  | [], record => pure (true, record)
  | (_, callback) :: rest, record => do
    let (verdict, record) ← evaluate callback record
    match verdict with
    | .refuse => pure (false, record)
    | _ => walk evaluate rest record

end Registry

end CrashReporter
