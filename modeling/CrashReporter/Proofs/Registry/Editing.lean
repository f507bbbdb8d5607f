/-
**Runs past callbacks that edit the registry meanwhile.**

The edits of a registry are the marks of a run: a request to add or to remove a callback leaves itself, and
a run inside a run leaves the edits of the callbacks that it calls (`meaning`).

* `perform_runs`: requests are answered as they mean, however deep runs are nested;
* `edited_of_runs`: a run changes the registry by its edits, one after the other, and by nothing else;
* `run_tour`: a run calls the callbacks that were registered when it started, in their order and up to the
  first one that refuses, whatever is edited meanwhile; and without runs inside runs it always ends.
-/

import CrashReporter.Proofs.Program.Runs
import CrashReporter.Proofs.Registry.Tour
import CrashReporter.Registry.Nested

namespace CrashReporter.Registry

open Program (Meaning Runs)

/-- A change of a registry. -/
inductive Edit (κ : Type) where
  | add (callback : κ)
  | remove (id : CallbackId)

variable {κ ρ ν : Type}

/-- Makes a change. -/
def edit (registry : Registry κ) : Edit κ → Registry κ
  | .add callback => (registry.add callback).2
  | .remove id => (registry.remove id).2

/-- What requests mean: a run is the walk past the callbacks that are registered when it starts, and
everything else is done at once. -/
def meaning (behave : Behaviour κ ρ ν) :
    Meaning (Request κ ρ ν) Request.Answer (Scene κ ν) (Edit κ)
  | .recall, scene => ⟨[], scene, .done scene.notes⟩
  | .remember notes, scene => ⟨[], { scene with notes := notes }, .done ()⟩
  | .add callback, scene =>
    ⟨[.add callback], { scene with registry := scene.registry.edit (.add callback) },
      .done (scene.registry.add callback).1⟩
  | .remove id, scene =>
    ⟨[.remove id], { scene with registry := scene.registry.edit (.remove id) },
      .done (scene.registry.remove id).1⟩
  | .run record, scene => ⟨[], scene, walk behave scene.registry.entries record⟩

/-- A visit of a callback: what it makes of its record and of the registry is what it does when run. -/
def Genuine (behave : Behaviour κ ρ ν) (visit : Visit κ ρ (Scene κ ν) (Edit κ)) : Prop :=
  Runs (meaning behave) (behave visit.entry.2 visit.before) visit.start visit.marks
    (visit.verdict, visit.after) visit.finish

/-- **Requests are answered as they mean**, with runs nested as deep as may be. -/
theorem perform_runs (behave : Behaviour κ ρ ν) (depth : Nat) :
    ∀ (request : Request κ ρ ν) (scene : Scene κ ν) (answer : request.Answer) (final : Scene κ ν),
      (perform behave depth request).run scene = some (answer, final) →
        ∃ edits, Runs (meaning behave) (Program.request request) scene edits answer final := by
  -- A callback that is run asks one level below.
  induction depth with
  | zero =>
    intro request scene answer final answered
    cases answered
  | succ depth ih =>
    intro request scene answer final answered
    cases request with
    | «recall» =>
      cases answered
      exact ⟨_, Runs.request (.done _ _)⟩
    | remember notes =>
      cases answered
      exact ⟨_, Runs.request (.done _ _)⟩
    | add callback =>
      cases answered
      exact ⟨_, Runs.request (.done _ _)⟩
    | remove id =>
      cases answered
      exact ⟨_, Runs.request (.done _ _)⟩
    | run record =>
      have walked : ((walk behave scene.registry.entries record).run (perform behave depth)).run scene
          = some (answer, final) := by
        rw [run_walk]
        exact answered
      obtain ⟨edits, runs⟩ := Runs.of_run ih walked
      exact ⟨_, Runs.request runs⟩

/-- The edits, one after the other, make the registry of the second scene from that of the first. -/
def Edited (scene : Scene κ ν) (edits : List (Edit κ)) (final : Scene κ ν) : Prop :=
  final.registry = edits.foldl edit scene.registry

theorem edited_nil (scene : Scene κ ν) : Edited scene [] scene := rfl

theorem Edited.append {scene middle final : Scene κ ν} {edits rest : List (Edit κ)}
    (first : Edited scene edits middle) (second : Edited middle rest final) :
    Edited scene (edits ++ rest) final := by
  unfold Edited
  rw [List.foldl_append, ← first]
  exact second

/-- **A run changes the registry by its edits and by nothing else.** -/
theorem edited_of_runs {behave : Behaviour κ ρ ν} {α : Type}
    {program : Program (Request κ ρ ν) Request.Answer α} {scene final : Scene κ ν}
    {edits : List (Edit κ)} {result : α}
    (runs : Runs (meaning behave) program scene edits result final) : Edited scene edits final := by
  refine runs.preserves edited_nil Edited.append ?_
  intro request scene
  cases request <;> rfl

/-- The callback starts no run inside a run. -/
def Request.IsSingle : Request κ ρ ν → Prop
  | .run _ => False
  | _ => True

/-- A request other than for a run is always answered. -/
theorem perform_isSome (behave : Behaviour κ ρ ν) (depth : Nat) (request : Request κ ρ ν)
    (single : request.IsSingle) (scene : Scene κ ν) :
    ((perform behave (depth + 1) request).run scene).isSome := by
  cases request with
  | run record => exact single.elim
  | «recall» => rfl
  | remember notes => rfl
  | add callback => rfl
  | remove id => rfl

/-- **A run is a tour of the callbacks that are registered when it starts.**

Whatever the callbacks edit meanwhile: they are visited in the order of their registration, up to the first
one that refuses; the run answers no exactly if one of them does, and a panic is no refusal; each sees
the record as the one before it left it, panicking or not; and the registry ends up as their edits, in the
order in which they were made, change it. If no callback starts a run of its own, there is a result. -/
theorem run_tour (behave : Behaviour κ ρ ν) (scene : Scene κ ν) (record : ρ) :
    (∀ depth accepted result final,
      (perform behave depth (.run record)).run scene = some ((accepted, result), final) →
        ∃ visits, Tour (Genuine behave) scene.registry.entries record scene visits accepted result
            final ∧
          Edited scene (visits.flatMap Visit.marks) final) ∧
    ((∀ entry ∈ scene.registry.entries, ∀ record, (behave entry.2 record).Asks Request.IsSingle) →
      ∀ depth, ∃ accepted result final,
        (perform behave (depth + 2) (.run record)).run scene = some ((accepted, result), final)) := by
  constructor
  · intro depth accepted result final ran
    obtain ⟨_, runs⟩ := perform_runs behave depth _ _ _ _ ran
    obtain ⟨edits, _, walked⟩ := Runs.of_request runs
    obtain ⟨visits, tour, rfl⟩ := tour_of_runs walked
    exact ⟨visits, tour, edited_of_runs walked⟩
  · intro single depth
    have ends : ((perform behave (depth + 2) (.run record)).run scene).isSome :=
      walk_isSome (fun entry member record scene =>
        Program.run_isSome (perform_isSome behave depth) (single entry member record) scene) record
        scene
    obtain ⟨⟨⟨accepted, result⟩, final⟩, ran⟩ := Option.isSome_iff_exists.mp ends
    exact ⟨accepted, result, final, ran⟩

/-- The first callback removes the third and registers another one, the second panics, and the third
refuses. -/
def meddling : Behaviour Nat (List Nat) Unit
  | 1, record => do
    let _ ← Program.request (.remove ⟨3⟩)
    let _ ← Program.request (.add 4)
    pure (.accept, record ++ [1])
  | 2, record => pure (.panic, record ++ [2])
  | callback, record => pure (.refuse, record ++ [callback])

/-- A registry of three callbacks. -/
def crowd : Scene Nat Unit := ⟨⟨[(⟨1⟩, 1), (⟨2⟩, 2), (⟨3⟩, 3)], 4⟩, ()⟩

/-- The registry after a run: the third callback has been called although it is gone, the fourth one has
not. -/
theorem run_tour_meddling :
    (∃ visits, Tour (Genuine meddling) crowd.registry.entries [] crowd visits false [1, 2, 3]
        ⟨⟨[(⟨1⟩, 1), (⟨2⟩, 2), (⟨4⟩, 4)], 5⟩, ()⟩ ∧
      Edited crowd (visits.flatMap Visit.marks) ⟨⟨[(⟨1⟩, 1), (⟨2⟩, 2), (⟨4⟩, 4)], 5⟩, ()⟩) ∧
    ∃ accepted result final,
      (perform meddling 2 (.run [])).run crowd = some ((accepted, result), final) := by
  have single : ∀ entry ∈ crowd.registry.entries, ∀ record,
      (meddling entry.2 record).Asks Request.IsSingle := by
    intro entry member record
    simp only [crowd, List.mem_cons, List.not_mem_nil, or_false] at member
    rcases member with rfl | rfl | rfl
    · exact ⟨trivial, fun _ => ⟨trivial, fun _ => trivial⟩⟩
    · exact trivial
    · exact trivial
  exact ⟨(run_tour meddling crowd []).1 2 false [1, 2, 3] _ rfl,
    (run_tour meddling crowd []).2 single 0⟩

end CrashReporter.Registry
