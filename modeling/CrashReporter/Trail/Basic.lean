/-
**The trail: the latest breadcrumbs, at most as many as fit.**

* `make?` sets room aside for all the breadcrumbs that a trail may hold, which fails if they would not fit
  into memory;
* `append` adds a breadcrumb, drops the oldest one if the trail is full, and stamps the new one with the
  current time or with the time of the one before, whichever is later;
* `push` runs a breadcrumb past the callbacks of the trail first, `leave` makes one from a message. Both
  are written for any surroundings that hold a trail (`Access`), because callbacks may use the trail
  meanwhile. What the surroundings offer is atomic, adding a breadcrumb above all.
-/

import CrashReporter.Event.Breadcrumb
import CrashReporter.Registry.Basic

namespace CrashReporter

/-- The latest breadcrumbs, oldest first, with the callbacks that see each one first. -/
structure Trail (κ : Type) where
  capacity : Nat
  entries : List Breadcrumb
  callbacks : Registry κ
  /-- A trail holds at least one breadcrumb. -/
  capacity_pos : 0 < capacity
  /-- No more breadcrumbs are held than fit. -/
  entries_fit : entries.length ≤ capacity

namespace Trail

variable {κ : Type} {m : Type → Type}

/-- A trail without breadcrumbs. A capacity of zero counts as one. -/
def ofCapacity (capacity : Nat) : Trail κ where
  capacity := max 1 capacity
  entries := []
  callbacks := .empty
  capacity_pos := by omega
  entries_fit := by simp

/-- The octets that a breadcrumb takes in memory: twelve for its time, sixteen for its message, one for its
kind and twenty-four for its metadata, rounded up to words of eight. -/
def entryWidth : Nat := (12 + 16 + 1 + 24 + 7) / 8 * 8

/-- As many breadcrumbs fit into memory, of which no single part is larger than the greatest distance between
two addresses. -/
def Fits (capacity : Nat) : Prop := max 1 capacity * entryWidth ≤ 0x7FFFFFFFFFFFFFFF

instance (capacity : Nat) : Decidable (Fits capacity) := inferInstanceAs (Decidable (_ ≤ _))

/-- Makes a trail and sets room aside for its breadcrumbs, if they fit into memory. -/
def make? (capacity : Nat) : Option (Trail κ) :=
  if Fits capacity then some (.ofCapacity capacity) else none

theorem make?_of_fits {capacity : Nat} (fits : Fits capacity) :
    (make? capacity : Option (Trail κ)) = some (.ofCapacity capacity) := if_pos fits

theorem make?_of_not_fits {capacity : Nat} (exceeds : ¬ Fits capacity) :
    (make? capacity : Option (Trail κ)) = none := if_neg exceeds

/-- Adds a breadcrumb at a reading of the clock. -/
def append (trail : Trail κ) (now : Instant) (breadcrumb : Breadcrumb) : Trail κ :=
  let stamp :=
    match trail.entries.getLast? with
    | some last => Instant.latest last.timestamp now
    | none => now
  let kept := if trail.capacity ≤ trail.entries.length then trail.entries.tail else trail.entries
  { trail with
    entries := kept ++ [{ breadcrumb with timestamp := stamp }]
    entries_fit := by
      have := trail.capacity_pos
      have := trail.entries_fit
      simp only [kept, List.length_append, List.length_singleton]
      split
      · simp only [List.length_tail]; omega
      · omega }

/-- Removes all breadcrumbs. -/
def clear (trail : Trail κ) : Trail κ :=
  { trail with entries := [], entries_fit := by simp }

/-- The times of the breadcrumbs never decrease. -/
def isOrdered (trail : Trail κ) : Bool :=
  (trail.entries.zip trail.entries.tail).all fun (first, second) =>
    Instant.latest first.timestamp second.timestamp = second.timestamp

/-- Registers a callback. -/
def addCallback (trail : Trail κ) (callback : κ) : CallbackId × Trail κ :=
  let (id, callbacks) := trail.callbacks.add callback
  (id, { trail with callbacks := callbacks })

/-- Removes a callback, and tells whether there was one. -/
def removeCallback (trail : Trail κ) (id : CallbackId) : Bool × Trail κ :=
  let (removed, callbacks) := trail.callbacks.remove id
  (removed, { trail with callbacks := callbacks })

/-- Surroundings that hold a trail. -/
structure Access (κ : Type) (m : Type → Type) where
  get : m (Trail κ)
  /-- Takes a reading of the clock. -/
  now : m Instant
  /-- Shows a breadcrumb to a callback. -/
  evaluate : κ → Breadcrumb → m (Verdict × Breadcrumb)
  /-- Adds a breadcrumb at a reading of the clock, without asking the callbacks. -/
  append : Breadcrumb → m Unit

/-- Runs a breadcrumb past the callbacks and adds what they made of it, unless one refused it. -/
def Access.push [Monad m] (access : Access κ m) (breadcrumb : Breadcrumb) : m Bool := do
  let trail ← access.get
  let (accepted, breadcrumb) ←
    Registry.walk access.evaluate trail.callbacks.entries breadcrumb
  if accepted then access.append breadcrumb
  pure accepted

/-- Makes a breadcrumb and pushes it. A message that is no text leaves none. -/
def Access.leave [Monad m] (access : Access κ m) (message : String) (kind : BreadcrumbKind) :
    m Bool := do
  let now ← access.now
  match Breadcrumb.make now message kind with
  | .ok breadcrumb => access.push breadcrumb
  | .error _ => pure false

end Trail

end CrashReporter
