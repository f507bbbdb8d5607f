/-
**What a trail holds: the latest breadcrumbs since it was cleared.**

The marks of a run on a trail are the breadcrumbs that were added and the times it was cleared. `Account`
says what a request does, in terms of the tour of the callbacks that it calls:

* a breadcrumb that is pushed is added after everything that its callbacks added, as the last of them left
  it, and not at all if one of them refuses it;
* a message without a text before its first NUL leaves no breadcrumb.

`entries_after_each`: after each of any number of requests, the entries are the latest breadcrumbs that
were added since the trail was last cleared, as many as fit, in the order in which they were added, and
with what the callbacks left in them; only their times are the trail's own.

`performAll_isSome`: requests come to an end if callbacks leave breadcrumbs of a lower rank only (`Sinks`).
-/

import CrashReporter.Proofs.Registry.Editing
import CrashReporter.Proofs.Text.Content
import CrashReporter.Trail.Nested
import Mathlib.Data.List.DropRight

namespace CrashReporter

/-- A breadcrumb without its time. -/
def Breadcrumb.bare (breadcrumb : Breadcrumb) : Text × BreadcrumbKind × Dictionary Json :=
  (breadcrumb.message, breadcrumb.kind, breadcrumb.metadata)

namespace Trail

open Program (Meaning Runs)
open Registry (Tour Visit walk walk_tour)

/-! ### Adding to a bounded list -/

/-- A bounded list that is full gives up its first element for another one at its end. -/
theorem tail_rtake {α : Type} (elements : List α) (bound : Nat) :
    (if bound + 1 ≤ (elements.rtake (bound + 1)).length then (elements.rtake (bound + 1)).tail
      else elements.rtake (bound + 1)) = elements.rtake bound := by
  unfold List.rtake
  rw [List.length_drop, List.tail_drop]
  split
  · congr 1
    omega
  · congr 1
    omega

/-- The entries are the latest of the breadcrumbs, as many as fit. -/
def Holds {κ : Type} (trail : Trail κ) (breadcrumbs : List Breadcrumb) : Prop :=
  trail.entries.map Breadcrumb.bare = (breadcrumbs.map Breadcrumb.bare).rtake trail.capacity

theorem ofCapacity_holds (κ : Type) (capacity : Nat) : (ofCapacity capacity : Trail κ).Holds [] := by
  unfold Holds
  rw [List.map_nil, List.rtake_nil]
  rfl

theorem clear_holds {κ : Type} (trail : Trail κ) : trail.clear.Holds [] := by
  unfold Holds
  rw [List.map_nil, List.rtake_nil]
  rfl

theorem append_holds {κ : Type} {trail : Trail κ} {breadcrumbs : List Breadcrumb}
    (holds : trail.Holds breadcrumbs) (now : Instant) (breadcrumb : Breadcrumb) :
    (trail.append now breadcrumb).Holds (breadcrumbs ++ [breadcrumb]) := by
  obtain ⟨bound, capacity⟩ := Nat.exists_eq_add_one.mpr trail.capacity_pos
  have full : trail.entries.length = (trail.entries.map Breadcrumb.bare).length :=
    (List.length_map _).symm
  unfold Holds at holds ⊢
  rw [capacity] at holds
  show List.map Breadcrumb.bare (_ ++ [_]) =
    ((breadcrumbs ++ [breadcrumb]).map Breadcrumb.bare).rtake trail.capacity
  rw [capacity, List.map_append, List.map_append, List.map_singleton, List.map_singleton,
    List.rtake_concat_succ, apply_ite (List.map Breadcrumb.bare), List.map_tail, full, holds,
    tail_rtake]
  rfl

/-! ### What requests mean -/

/-- What a run leaves on its way. -/
inductive Mark where
  | added (breadcrumb : Breadcrumb)
  | cleared

/-- The breadcrumbs that were added since the trail was last cleared, after one more mark. -/
def Mark.extend (breadcrumbs : List Breadcrumb) : Mark → List Breadcrumb
  | .added breadcrumb => breadcrumbs ++ [breadcrumb]
  | .cleared => []

/-- The breadcrumbs that were added since the trail was last cleared. -/
def sinceCleared (marks : List Mark) : List Breadcrumb :=
  marks.foldl Mark.extend []

variable {κ ν : Type}

/-- Takes a reading of the clock. -/
def Scene.tick (scene : Scene κ ν) : Scene κ ν :=
  { scene with clock := scene.clock.read.2 }

/-- Runs a breadcrumb past callbacks and adds it, unless one refuses it. -/
def pushing (behave : Behaviour κ ν) (entries : List (CallbackId × κ)) (breadcrumb : Breadcrumb) :
    Program (Request κ ν) Request.Answer Bool := do
  let (accepted, breadcrumb) ← walk behave entries breadcrumb
  if accepted then Program.request (Request.append breadcrumb)
  pure accepted

/-- What requests mean: a breadcrumb is pushed past the callbacks that are registered by then, and
everything else is done at once. -/
def meaning (behave : Behaviour κ ν) : Meaning (Request κ ν) Request.Answer (Scene κ ν) Mark
  | .recall, scene => ⟨[], scene, .done scene.notes⟩
  | .remember notes, scene => ⟨[], { scene with notes := notes }, .done ()⟩
  | .leave message kind, scene =>
    ⟨[], scene.tick,
      match Breadcrumb.make scene.clock.read.1 message kind with
      | .ok breadcrumb => pushing behave scene.trail.callbacks.entries breadcrumb
      | .error _ => .done false⟩
  | .push breadcrumb, scene => ⟨[], scene, pushing behave scene.trail.callbacks.entries breadcrumb⟩
  | .append breadcrumb, scene => ⟨[.added breadcrumb], scene.append breadcrumb, .done ()⟩
  | .clear, scene => ⟨[.cleared], scene.clear, .done ()⟩
  | .add callback, scene =>
    ⟨[], { scene with trail := (scene.trail.addCallback callback).2 },
      .done (scene.trail.addCallback callback).1⟩
  | .remove id, scene =>
    ⟨[], { scene with trail := (scene.trail.removeCallback id).2 },
      .done (scene.trail.removeCallback id).1⟩

/-- A visit of a callback: what it makes of its breadcrumb and of the trail is what it does when run. -/
def Genuine (behave : Behaviour κ ν) (visit : Visit κ Breadcrumb (Scene κ ν) Mark) : Prop :=
  Runs (meaning behave) (behave visit.entry.2 visit.before) visit.start visit.marks
    (visit.verdict, visit.after) visit.finish

/-- The scene once a breadcrumb has been run past its callbacks. -/
def Scene.conclude (scene : Scene κ ν) (accepted : Bool) (breadcrumb : Breadcrumb) : Scene κ ν :=
  if accepted then scene.append breadcrumb else scene

/-- The marks of a breadcrumb once it has been run past its callbacks. -/
def ownMarks (accepted : Bool) (breadcrumb : Breadcrumb) : List Mark :=
  if accepted then [.added breadcrumb] else []

theorem pushing_runs {behave : Behaviour κ ν} {entries : List (CallbackId × κ)}
    {breadcrumb result : Breadcrumb} {scene middle : Scene κ ν} {marks : List Mark} {accepted : Bool}
    (walked : Runs (meaning behave) (walk behave entries breadcrumb) scene marks (accepted, result)
      middle) :
    Runs (meaning behave) (pushing behave entries breadcrumb) scene (marks ++ ownMarks accepted result)
      accepted (middle.conclude accepted result) := by
  refine walked.bind ?_
  cases accepted with
  | true =>
    have added : Runs (meaning behave) (Program.request (Request.append result)) middle
        ([.added result] ++ []) () (middle.append result) := Runs.request (.done _ _)
    exact added.bind (.done true _)
  | false => exact .done false middle

theorem push_run (evaluate : κ → Breadcrumb → StateT (Scene κ ν) Option (Verdict × Breadcrumb))
    (breadcrumb : Breadcrumb) (scene : Scene κ ν) :
    ((Scene.access evaluate).push breadcrumb).run scene =
      ((walk evaluate scene.trail.callbacks.entries breadcrumb).run scene).bind
        fun ((accepted, result), middle) => some (accepted, middle.conclude accepted result) := by
  show ((walk evaluate scene.trail.callbacks.entries breadcrumb).run scene).bind _ = _
  congr 1
  funext outcome
  obtain ⟨⟨accepted, result⟩, middle⟩ := outcome
  cases accepted with
  | true => rfl
  | false => rfl

theorem leave_run (evaluate : κ → Breadcrumb → StateT (Scene κ ν) Option (Verdict × Breadcrumb))
    (message : String) (kind : BreadcrumbKind) (scene : Scene κ ν) :
    ((Scene.access evaluate).leave message kind).run scene =
      (match Breadcrumb.make scene.clock.read.1 message kind with
        | .ok breadcrumb => (Scene.access evaluate).push breadcrumb
        | .error _ => pure false).run scene.tick := rfl

/-- A breadcrumb that is pushed runs past the callbacks and is added at the end. -/
theorem push_runs {behave : Behaviour κ ν} {depth : Nat}
    (follows : ∀ (request : Request κ ν) scene answer final,
      (perform behave depth request).run scene = some (answer, final) →
        ∃ marks, Runs (meaning behave) (Program.request request) scene marks answer final)
    {breadcrumb : Breadcrumb} {scene final : Scene κ ν} {accepted : Bool}
    (pushed : ((Scene.access fun callback breadcrumb =>
      (behave callback breadcrumb).run (perform behave depth)).push breadcrumb).run scene =
        some (accepted, final)) :
    ∃ marks, Runs (meaning behave) (pushing behave scene.trail.callbacks.entries breadcrumb) scene
      marks accepted final := by
  rw [push_run, ← Registry.run_walk] at pushed
  obtain ⟨⟨⟨accepted, result⟩, middle⟩, walked, concluded⟩ := Option.bind_eq_some_iff.mp pushed
  obtain ⟨marks, runs⟩ := Runs.of_run follows walked
  cases concluded
  exact ⟨_, pushing_runs runs⟩

/-- A breadcrumb that is left is pushed if it can be made. -/
theorem leave_runs {behave : Behaviour κ ν} {depth : Nat}
    (follows : ∀ (request : Request κ ν) scene answer final,
      (perform behave depth request).run scene = some (answer, final) →
        ∃ marks, Runs (meaning behave) (Program.request request) scene marks answer final)
    {message : String} {kind : BreadcrumbKind} {scene final : Scene κ ν} {accepted : Bool}
    (left : ((Scene.access fun callback breadcrumb =>
      (behave callback breadcrumb).run (perform behave depth)).leave message kind).run scene =
        some (accepted, final)) :
    ∃ marks, Runs (meaning behave) (meaning behave (.leave message kind) scene).program scene.tick marks
      accepted final := by
  rw [leave_run] at left
  show ∃ marks, Runs (meaning behave) (match Breadcrumb.make _ message kind with
    | .ok _ => _
    | .error _ => _) scene.tick marks accepted final
  cases made : Breadcrumb.make scene.clock.read.1 message kind with
  | ok breadcrumb =>
    rw [made] at left
    exact push_runs follows left
  | error cause =>
    rw [made] at left
    cases left
    exact ⟨[], .done _ _⟩

/-- **Requests are answered as they mean**, with breadcrumbs nested as deep as may be. -/
theorem perform_runs (behave : Behaviour κ ν) (depth : Nat) :
    ∀ (request : Request κ ν) (scene : Scene κ ν) (answer : request.Answer) (final : Scene κ ν),
      (perform behave depth request).run scene = some (answer, final) →
        ∃ marks, Runs (meaning behave) (Program.request request) scene marks answer final := by
  -- A callback that sees a breadcrumb asks one level below.
  induction depth with
  | zero =>
    intro request scene answer final answered
    cases answered
  | succ depth ih =>
    intro request scene answer final answered
    cases request with
    | «recall» | remember | append | clear | add | remove =>
      cases answered
      exact ⟨_, Runs.request (.done _ _)⟩
    | push breadcrumb =>
      obtain ⟨marks, runs⟩ := push_runs ih answered
      exact ⟨_, Runs.request runs⟩
    | leave message kind =>
      obtain ⟨marks, runs⟩ := leave_runs ih answered
      exact ⟨_, Runs.request runs⟩

/-! ### The account of a request -/

/-- What pushing a breadcrumb does: it tours the callbacks, and is added after everything that they added
if none of them refuses it. -/
def Pushed (behave : Behaviour κ ν) (breadcrumb : Breadcrumb) (scene : Scene κ ν)
    (marks : List Mark) (accepted : Bool) (final : Scene κ ν) : Prop :=
  ∃ visits result middle,
    Tour (Genuine behave) scene.trail.callbacks.entries breadcrumb scene visits accepted result
      middle ∧
    marks = visits.flatMap Visit.marks ++ ownMarks accepted result ∧
    final = middle.conclude accepted result

/-- What a request does to the scene, which marks it leaves, and what it answers. -/
inductive Account (behave : Behaviour κ ν) :
    (request : Request κ ν) → Scene κ ν → List Mark → request.Answer → Scene κ ν → Prop
  | recall (scene : Scene κ ν) : Account behave .recall scene [] scene.notes scene
  | remember (notes : ν) (scene : Scene κ ν) :
      Account behave (.remember notes) scene [] () { scene with notes := notes }
  /-- A message with a text before its first NUL makes a breadcrumb, which is pushed. -/
  | leave {message : String} {text : Text} {kind : BreadcrumbKind} {scene final : Scene κ ν}
      {marks : List Mark} {accepted : Bool}
      (said : text.content.toList = Text.beforeNul message.toList)
      (pushed : Pushed behave ⟨scene.clock.read.1, text, kind, []⟩ scene.tick marks accepted final) :
      Account behave (.leave message kind) scene marks accepted final
  /-- A message without one leaves nothing. -/
  | leaveNothing {message : String} (kind : BreadcrumbKind) (scene : Scene κ ν)
      (unsaid : Text.beforeNul message.toList = []) :
      Account behave (.leave message kind) scene [] false scene.tick
  | push {breadcrumb : Breadcrumb} {scene final : Scene κ ν} {marks : List Mark} {accepted : Bool}
      (pushed : Pushed behave breadcrumb scene marks accepted final) :
      Account behave (.push breadcrumb) scene marks accepted final
  | append (breadcrumb : Breadcrumb) (scene : Scene κ ν) :
      Account behave (.append breadcrumb) scene [.added breadcrumb] () (scene.append breadcrumb)
  | clear (scene : Scene κ ν) : Account behave .clear scene [.cleared] () scene.clear
  | add (callback : κ) (scene : Scene κ ν) :
      Account behave (.add callback) scene [] (scene.trail.addCallback callback).1
        { scene with trail := (scene.trail.addCallback callback).2 }
  | remove (id : CallbackId) (scene : Scene κ ν) :
      Account behave (.remove id) scene [] (scene.trail.removeCallback id).1
        { scene with trail := (scene.trail.removeCallback id).2 }

/-- Pushing is a tour and what follows it. -/
theorem pushed_of_runs {behave : Behaviour κ ν} {breadcrumb : Breadcrumb} {scene final : Scene κ ν}
    {marks : List Mark} {accepted : Bool}
    (runs : Runs (meaning behave) (pushing behave scene.trail.callbacks.entries breadcrumb) scene
      marks accepted final) :
    Pushed behave breadcrumb scene marks accepted final := by
  obtain ⟨earlier, later, ⟨passed, result⟩, middle, rfl, walked, concluded⟩ := Runs.of_bind runs
  obtain ⟨visits, tour, rfl⟩ := Registry.tour_of_runs walked
  cases passed with
  | true =>
    obtain ⟨_, _, ⟨⟩, _, rfl, added, ended⟩ := Runs.of_bind concluded
    obtain ⟨_, rfl, appended⟩ := Runs.of_request added
    cases ended
    cases appended
    exact ⟨visits, result, middle, tour, rfl, rfl⟩
  | false =>
    cases concluded
    exact ⟨visits, result, final, tour, rfl, rfl⟩

/-- **Every run of a request has an account.** -/
theorem account_of_runs {behave : Behaviour κ ν} {request : Request κ ν} {scene final : Scene κ ν}
    {marks : List Mark} {answer : request.Answer}
    (runs : Runs (meaning behave) (Program.request request) scene marks answer final) :
    Account behave request scene marks answer final := by
  obtain ⟨inner, rfl, inside⟩ := Runs.of_request runs
  clear runs
  cases request with
  | «recall» =>
    cases inside
    exact .recall scene
  | remember notes =>
    cases inside
    exact .remember notes scene
  | append breadcrumb =>
    cases inside
    exact .append breadcrumb scene
  | clear =>
    cases inside
    exact .clear scene
  | add callback =>
    cases inside
    exact .add callback scene
  | remove id =>
    cases inside
    exact .remove id scene
  | push breadcrumb => exact .push (pushed_of_runs inside)
  | leave message kind =>
    change Runs (meaning behave) (match Breadcrumb.make _ message kind with
      | .ok _ => _
      | .error _ => _) scene.tick inner answer final at inside
    unfold Breadcrumb.make at inside
    cases made : Text.ofString? message with
    | none =>
      rw [made] at inside
      cases inside
      exact .leaveNothing kind scene ((Text.ofString?_eq_none_iff message).mp made)
    | some text =>
      rw [made] at inside
      exact .leave ((Text.ofString?_eq_some_iff message text).mp made) (pushed_of_runs inside)

/-! ### What the trail holds -/

/-- A trail that held the latest of some breadcrumbs holds the latest of those that the marks make of
them, and as many as before. -/
def Carried (scene : Scene κ ν) (marks : List Mark) (final : Scene κ ν) : Prop :=
  final.trail.capacity = scene.trail.capacity ∧
    ∀ breadcrumbs, scene.trail.Holds breadcrumbs →
      final.trail.Holds (marks.foldl Mark.extend breadcrumbs)

theorem carried_nil (scene : Scene κ ν) : Carried scene [] scene :=
  ⟨rfl, fun _ holds => holds⟩

theorem Carried.append {scene middle final : Scene κ ν} {marks rest : List Mark}
    (first : Carried scene marks middle) (second : Carried middle rest final) :
    Carried scene (marks ++ rest) final := by
  refine ⟨second.1.trans first.1, fun breadcrumbs holds => ?_⟩
  rw [List.foldl_append]
  exact second.2 _ (first.2 breadcrumbs holds)

/-- **Runs carry the trail along.** -/
theorem carried_of_runs {behave : Behaviour κ ν} {α : Type}
    {program : Program (Request κ ν) Request.Answer α} {scene final : Scene κ ν} {marks : List Mark}
    {result : α} (runs : Runs (meaning behave) program scene marks result final) :
    Carried scene marks final := by
  refine runs.preserves carried_nil Carried.append ?_
  intro request scene
  cases request with
  | append breadcrumb => exact ⟨rfl, fun _ holds => append_holds holds _ breadcrumb⟩
  | clear => exact ⟨rfl, fun _ _ => clear_holds scene.trail⟩
  | «recall» => exact carried_nil scene
  | remember notes => exact ⟨rfl, fun _ holds => holds⟩
  | leave message kind => exact ⟨rfl, fun _ holds => holds⟩
  | push breadcrumb => exact carried_nil scene
  | add callback => exact ⟨rfl, fun _ holds => holds⟩
  | remove id => exact ⟨rfl, fun _ holds => holds⟩

/-- Makes requests one after the other. -/
def performAll (behave : Behaviour κ ν) (depth : Nat) :
    List (Request κ ν) → StateT (Scene κ ν) Option Unit
  | [] => pure ()
  | request :: requests => do
    let _ ← perform behave depth request
    performAll behave depth requests

/-- A request that was made, and what came of it. -/
structure Deed (κ ν : Type) where
  request : Request κ ν
  before : Scene κ ν
  marks : List Mark
  answer : request.Answer
  after : Scene κ ν

/-- Requests that were made one after the other, each in the scene that the one before it left. -/
structure Course (behave : Behaviour κ ν) (depth : Nat) (scene : Scene κ ν)
    (requests : List (Request κ ν)) (deeds : List (Deed κ ν)) (final : Scene κ ν) : Prop where
  made : deeds.map Deed.request = requests
  linked : deeds.map Deed.before ++ [final] = scene :: deeds.map Deed.after
  performed : ∀ deed ∈ deeds,
    (perform behave depth deed.request).run deed.before = some (deed.answer, deed.after)
  runs : ∀ deed ∈ deeds, Runs (meaning behave) (Program.request deed.request) deed.before deed.marks
    deed.answer deed.after

theorem course_of_performAll {behave : Behaviour κ ν} {depth : Nat} {requests : List (Request κ ν)}
    {scene final : Scene κ ν}
    (performed : (performAll behave depth requests).run scene = some ((), final)) :
    ∃ deeds : List (Deed κ ν), Course behave depth scene requests deeds final := by
  induction requests generalizing scene with
  | nil =>
    cases performed
    exact ⟨[], rfl, rfl, by simp, by simp⟩
  | cons request requests ih =>
    obtain ⟨⟨answer, middle⟩, answered, continued⟩ := Option.bind_eq_some_iff.mp performed
    obtain ⟨marks, runs⟩ := perform_runs behave depth request scene answer middle answered
    obtain ⟨deeds, course⟩ := ih continued
    refine ⟨⟨request, scene, marks, answer, middle⟩ :: deeds, congrArg (request :: ·) course.made,
      congrArg (scene :: ·) course.linked, ?_, ?_⟩
    · intro deed member
      rcases List.mem_cons.mp member with rfl | member
      · exact answered
      · exact course.performed deed member
    · intro deed member
      rcases List.mem_cons.mp member with rfl | member
      · exact runs
      · exact course.runs deed member

/-- What every deed does to the scene by its marks, deeds that follow one another do by all of theirs. -/
theorem leads_of_linked {Leads : Scene κ ν → List Mark → Scene κ ν → Prop}
    (none : ∀ scene, Leads scene [] scene)
    (append : ∀ {scene middle final marks rest}, Leads scene marks middle → Leads middle rest final →
      Leads scene (marks ++ rest) final)
    {deeds : List (Deed κ ν)} {scene final : Scene κ ν}
    (linked : deeds.map Deed.before ++ [final] = scene :: deeds.map Deed.after)
    (leads : ∀ deed ∈ deeds, Leads deed.before deed.marks deed.after) :
    Leads scene (deeds.flatMap Deed.marks) final := by
  induction deeds generalizing scene with
  | nil =>
    obtain ⟨rfl, _⟩ := List.cons.inj linked
    exact none final
  | cons deed deeds ih =>
    obtain ⟨rfl, further⟩ := List.cons.inj linked
    rw [List.flatMap_cons]
    refine append (leads deed List.mem_cons_self) (ih further ?_)
    exact fun other member => leads other (List.mem_cons_of_mem _ member)

/-- Deeds that follow one another carry the trail along. -/
theorem carried_of_linked {deeds : List (Deed κ ν)} {scene final : Scene κ ν}
    (linked : deeds.map Deed.before ++ [final] = scene :: deeds.map Deed.after)
    (carried : ∀ deed ∈ deeds, Carried deed.before deed.marks deed.after) :
    Carried scene (deeds.flatMap Deed.marks) final :=
  leads_of_linked carried_nil Carried.append linked carried

/-- The deeds up to one of them follow one another, too. -/
theorem linked_up_to {earlier later : List (Deed κ ν)} {deed : Deed κ ν} {scene final : Scene κ ν}
    (linked : (earlier ++ deed :: later).map Deed.before ++ [final] =
      scene :: (earlier ++ deed :: later).map Deed.after) :
    (earlier ++ [deed]).map Deed.before ++ [deed.after] =
      scene :: (earlier ++ [deed]).map Deed.after := by
  induction earlier generalizing scene with
  | nil =>
    obtain ⟨rfl, _⟩ := List.cons.inj linked
    rfl
  | cons first earlier ih =>
    obtain ⟨rfl, further⟩ := List.cons.inj linked
    exact congrArg (first.before :: ·) (ih further)

/-! ### Requests that come to an end -/

/-- The request leaves no breadcrumb, or one of a rank below the bound. -/
def Request.Below (rank : Breadcrumb → Nat) (bound : Nat) : Request κ ν → Prop
  | .push breadcrumb => rank breadcrumb < bound
  | .leave message kind =>
    ∀ now breadcrumb, Breadcrumb.make now message kind = .ok breadcrumb → rank breadcrumb < bound
  | _ => True

/-- Callbacks that leave breadcrumbs of a lower rank only than that of the one they are shown, which they do not
raise. With no rank but zero, these are callbacks that leave nothing. -/
structure Sinks (behave : Behaviour κ ν) (rank : Breadcrumb → Nat) : Prop where
  asks : ∀ callback breadcrumb, (behave callback breadcrumb).Asks (Request.Below rank (rank breadcrumb))
  gives : ∀ callback breadcrumb,
    (behave callback breadcrumb).Gives fun outcome => rank outcome.2 ≤ rank breadcrumb

section Sinks

variable {behave : Behaviour κ ν} {rank : Breadcrumb → Nat} (sinks : Sinks behave rank)

include sinks

/-- A breadcrumb is pushed to the end if all requests below its rank are answered. -/
theorem push_isSome {depth : Nat} {breadcrumb : Breadcrumb}
    (answers : ∀ bound ≤ rank breadcrumb, ∀ request : Request κ ν, request.Below rank bound →
      ∀ scene, ((perform behave depth request).run scene).isSome) (scene : Scene κ ν) :
    (((Scene.access fun callback breadcrumb =>
      (behave callback breadcrumb).run (perform behave depth)).push breadcrumb).run scene).isSome := by
  rw [push_run, Option.isSome_bind]
  have walked : ((walk (fun callback breadcrumb => (behave callback breadcrumb).run (perform behave depth))
      scene.trail.callbacks.entries breadcrumb).run scene).isSome := by
    refine Registry.walk_isSome_of (fun shown => rank shown ≤ rank breadcrumb) ?_ (Nat.le_refl _) scene
    intro entry _ shown state lower
    have ends : (((behave entry.2 shown).run (perform behave depth)).run state).isSome :=
      Program.run_isSome (answers (rank shown) lower) (sinks.asks entry.2 shown) state
    obtain ⟨⟨⟨verdict, after⟩, finish⟩, ran⟩ := Option.isSome_iff_exists.mp ends
    have kept := Program.gives_of_run (sinks.gives entry.2 shown) ran
    exact ⟨verdict, after, finish, ran, Nat.le_trans kept lower⟩
  obtain ⟨outcome, ran⟩ := Option.isSome_iff_exists.mp walked
  rw [ran]
  rfl

/-- **Requests below a bound are answered** with breadcrumbs nested at most as deep as that. -/
theorem perform_isSome {depth : Nat} : ∀ bound < depth, ∀ request : Request κ ν, request.Below rank bound →
    ∀ scene, ((perform behave depth request).run scene).isSome := by
  -- A callback that is shown a breadcrumb makes requests below its rank, one level deeper.
  induction depth with
  | zero => exact fun bound none => absurd none (Nat.not_lt_zero bound)
  | succ depth ih =>
    intro bound enough request below scene
    have pushed {breadcrumb : Breadcrumb} (lower : rank breadcrumb < bound) (scene : Scene κ ν) :
        (((Scene.access fun callback breadcrumb =>
          (behave callback breadcrumb).run (perform behave depth)).push breadcrumb).run scene).isSome :=
      push_isSome sinks (fun other within => ih other (by omega)) scene
    cases request with
    | push breadcrumb => exact pushed below scene
    | leave message kind =>
      show (((Scene.access _).leave message kind).run scene).isSome
      rw [leave_run]
      cases made : Breadcrumb.make scene.clock.read.1 message kind with
      | ok breadcrumb => exact pushed (below _ breadcrumb made) scene.tick
      | error _ => rfl
    | _ => rfl

theorem performAll_isSome {depth bound : Nat} (enough : bound < depth) {requests : List (Request κ ν)}
    (below : ∀ request ∈ requests, request.Below rank bound) (scene : Scene κ ν) :
    ((performAll behave depth requests).run scene).isSome := by
  induction requests generalizing scene with
  | nil => rfl
  | cons request requests ih =>
    obtain ⟨first, others⟩ := List.forall_mem_cons.mp below
    obtain ⟨⟨answer, middle⟩, answered⟩ :=
      Option.isSome_iff_exists.mp (perform_isSome sinks bound enough request first scene)
    show (((perform behave depth request).run scene).bind _).isSome
    rw [answered]
    exact ih others middle

end Sinks

/-- **The entries after each request** are the latest of the breadcrumbs that were added since the trail was
last cleared, as many as fit, in the order in which they were added.

Each request was made in the scene that the one before it left. Its `Account` says which breadcrumbs were
added and when, what the callbacks left in them, and what it answered; whatever callbacks request in
their turn has an account, too. If callbacks leave breadcrumbs of a lower rank only, all requests come to an
end. -/
theorem entries_after_each (behave : Behaviour κ ν) (capacity : Nat) (clock : Clock) (notes : ν)
    (requests : List (Request κ ν)) :
    (∀ depth final, (performAll behave depth requests).run (.start capacity clock notes) = some ((), final) →
      ∃ deeds, Course behave depth (.start capacity clock notes) requests deeds final ∧
        ∀ earlier deed later, deeds = earlier ++ deed :: later →
          deed.after.trail.entries.map Breadcrumb.bare =
            ((sinceCleared ((earlier ++ [deed]).flatMap Deed.marks)).map Breadcrumb.bare).rtake
              (max capacity 1)) ∧
    (∀ (request : Request κ ν) (scene : Scene κ ν) (marks : List Mark) (answer : request.Answer)
      (after : Scene κ ν),
      Runs (meaning behave) (Program.request request) scene marks answer after →
        Account behave request scene marks answer after) ∧
    ∀ rank, Sinks behave rank → ∀ depth, ∀ bound < depth, (∀ request ∈ requests, request.Below rank bound) →
      ((performAll behave depth requests).run (.start capacity clock notes)).isSome := by
  refine ⟨fun depth final performed => ?_, fun _ _ _ _ _ runs => account_of_runs runs,
    fun rank sinks depth bound enough below => performAll_isSome sinks enough below _⟩
  obtain ⟨deeds, course⟩ := course_of_performAll performed
  refine ⟨deeds, course, ?_⟩
  rintro earlier deed later rfl
  have kept : ∀ other ∈ earlier ++ [deed], other ∈ earlier ++ deed :: later := fun other member =>
    List.append_subset.mpr ⟨List.subset_append_left _ _, by simp⟩ member
  obtain ⟨size, holds⟩ := carried_of_linked (linked_up_to course.linked) fun other member =>
    carried_of_runs (course.runs other (kept other member))
  have held := holds [] (ofCapacity_holds κ capacity)
  unfold Holds at held
  rw [held, size, Nat.max_comm]
  rfl

/-- A callback that answers every breadcrumb by an echo and refuses it, and accepts the echo. -/
def echoing (_ : Unit) (breadcrumb : Breadcrumb) :
    Program (Request Unit Unit) Request.Answer (Verdict × Breadcrumb) :=
  if breadcrumb.kind = .log then pure (.accept, breadcrumb)
  else do
    let _ ← Program.request (.push { breadcrumb with kind := .log })
    pure (.refuse, breadcrumb)

/-- An echo is followed by nothing, any other breadcrumb by its echo. -/
def echoes (breadcrumb : Breadcrumb) : Nat :=
  if breadcrumb.kind = .log then 0 else 1

theorem echoing_sinks : Sinks echoing echoes where
  asks _ breadcrumb := by
    unfold echoing echoes
    split
    · exact trivial
    · exact ⟨Nat.one_pos, fun _ => trivial⟩
  gives _ breadcrumb := by
    unfold echoing
    split
    · exact Nat.le_refl _
    · exact fun _ => Nat.le_refl _

/-- A breadcrumb. -/
def shout : Breadcrumb where
  timestamp := ⟨⟨1999, 12, 31, by decide, by decide, by decide⟩,
    ⟨23, 59, 59, 999999999, by decide, by decide, by decide, by decide⟩⟩
  message := ⟨"shout", by decide, by decide⟩
  kind := .user
  metadata := []

/-- All requests come to an end, and the trail holds the echo of a breadcrumb that was refused. -/
theorem entries_after_each_echoing :
    ((performAll echoing 3 [.add (), .push shout]).run (.start 0 (.still shout.timestamp) ())).isSome ∧
    ∃ final, (performAll echoing 3 [.add (), .push shout]).run (.start 0 (.still shout.timestamp) ()) =
        some ((), final) ∧ final.trail.entries.map Breadcrumb.kind = [.log] ∧
      ∃ deeds, Course echoing 3 (.start 0 (.still shout.timestamp) ()) [.add (), .push shout] deeds
          final ∧
        ∀ earlier deed later, deeds = earlier ++ deed :: later →
          deed.after.trail.entries.map Breadcrumb.bare =
            ((sinceCleared ((earlier ++ [deed]).flatMap Deed.marks)).map Breadcrumb.bare).rtake
              (max 0 1) := by
  obtain ⟨entries, -, ends⟩ :=
    entries_after_each echoing 0 (.still shout.timestamp) () [.add (), .push shout]
  have below : ∀ request ∈ ([.add (), .push shout] : List (Request Unit Unit)), request.Below echoes 2 := by
    intro request member
    rcases List.mem_pair.mp member with rfl | rfl
    · exact trivial
    · exact (by decide : echoes shout < 2)
  exact ⟨ends echoes echoing_sinks 3 2 (by decide) below, _, rfl, rfl, entries 3 _ rfl⟩

end Trail

end CrashReporter
