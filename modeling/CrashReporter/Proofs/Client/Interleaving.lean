/-
**Breadcrumbs of threads that share a client.**

Every breadcrumb that is added has a place: its thread, and how many breadcrumbs that thread had added before
(`places`). Whatever the interleaving, the places of a thread come in their order, so that what a bounded trail
retains of a thread is what the thread added last.

* `yields_of_answerAll`: what a thread adds is what its calls leave by their answers (`Leaves`), in their order;
* `retained_of_turns`: the trail holds as many of the breadcrumbs as fit, each once, and of every thread a final
  part of what it added.
-/

import CrashReporter.Client.Threads
import CrashReporter.Proofs.Program.Paths
import CrashReporter.Proofs.Trail.Contents
import Mathlib.Data.List.Induction
import Mathlib.Data.List.Nodup

namespace CrashReporter

namespace Client

open Program (Path)
open Registry (Tour)

/-! ### Places -/

/-- The breadcrumbs that a thread added, in its order. -/
def own (number : Nat) (history : List (Nat × Breadcrumb)) : List Breadcrumb :=
  (history.filter fun added => added.1 = number).map Prod.snd

/-- The places of the breadcrumbs that were added: the thread, and how many it had added before. -/
def places (history : List (Nat × Breadcrumb)) : List (Nat × Nat) :=
  history.foldl (fun known added => known ++ [(added.1, known.countP fun place => place.1 = added.1)]) []

theorem own_append (number : Nat) (history added : List (Nat × Breadcrumb)) :
    own number (history ++ added) = own number history ++ own number added := by
  unfold own
  rw [List.filter_append, List.map_append]

theorem places_concat (history : List (Nat × Breadcrumb)) (added : Nat × Breadcrumb) :
    places (history ++ [added]) =
      places history ++ [(added.1, (places history).countP fun place => place.1 = added.1)] := by
  unfold places
  rw [List.foldl_append]
  rfl

theorem length_places (history : List (Nat × Breadcrumb)) : (places history).length = history.length := by
  induction history using List.reverseRecOn with
  | nil => rfl
  | append_singleton history added ih =>
    rw [places_concat, List.length_append, List.length_append, ih]
    rfl

/-- **The places of a thread** come in their order, from the first one to the last. -/
theorem places_of_thread (number : Nat) (history : List (Nat × Breadcrumb)) :
    (places history).filter (fun place => place.1 = number) =
      (List.range (own number history).length).map (Prod.mk number) := by
  induction history using List.reverseRecOn with
  | nil => rfl
  | append_singleton history added ih =>
    obtain ⟨thread, breadcrumb⟩ := added
    rw [places_concat, List.filter_append, own_append, ih]
    by_cases same : thread = number
    · subst same
      have here : own thread [(thread, breadcrumb)] = [breadcrumb] := by simp [own]
      rw [here, List.length_append, List.length_singleton, List.range_succ, List.map_append,
        List.countP_eq_length_filter, ih]
      simp
    · have elsewhere : own number [(thread, breadcrumb)] = [] := by simp [own, same]
      rw [elsewhere, List.append_nil]
      simp [same]

theorem countP_places (number : Nat) (history : List (Nat × Breadcrumb)) :
    (places history).countP (fun place => place.1 = number) = (own number history).length := by
  rw [List.countP_eq_length_filter, places_of_thread, List.length_map, List.length_range]

theorem mem_places {history : List (Nat × Breadcrumb)} {place : Nat × Nat} (member : place ∈ places history) :
    place.2 < (own place.1 history).length := by
  have listed : place ∈ (places history).filter fun other => other.1 = place.1 := by
    simp [member]
  rw [places_of_thread, List.mem_map] at listed
  obtain ⟨count, below, same⟩ := listed
  rw [← same]
  exact List.mem_range.mp below

/-- No place is taken twice. -/
theorem nodup_places (history : List (Nat × Breadcrumb)) : (places history).Nodup := by
  rw [List.nodup_iff_count_le_one]
  intro place
  have once : ((places history).filter fun other => other.1 = place.1).Nodup := by
    rw [places_of_thread]
    exact List.nodup_range.map (fun _ _ same => (Prod.mk.inj same).2)
  rw [← List.count_filter (p := fun other => other.1 = place.1) (by simp)]
  exact List.nodup_iff_count_le_one.mp once place

/-- What was added is what the threads added at its places. -/
theorem added_at_places (history : List (Nat × Breadcrumb)) :
    history.map (fun added => some added.2) = (places history).map fun place => (own place.1 history)[place.2]? := by
  induction history using List.reverseRecOn with
  | nil => rfl
  | append_singleton history added ih =>
    obtain ⟨thread, breadcrumb⟩ := added
    have here : own thread [(thread, breadcrumb)] = [breadcrumb] := by simp [own]
    have earlier : ∀ place ∈ places history, (own place.1 history)[place.2]? =
        (own place.1 (history ++ [(thread, breadcrumb)]))[place.2]? := by
      intro place member
      rw [own_append, List.getElem?_append_left (mem_places member)]
    rw [places_concat, List.map_append, List.map_append, ih, List.map_congr_left earlier, List.map_singleton,
      List.map_singleton, countP_places, own_append, here, List.getElem?_concat_length]

/-- The same without the times. -/
theorem bare_at_places (history : List (Nat × Breadcrumb)) :
    history.map (fun added => some added.2.bare) =
      (places history).map fun place => (own place.1 history)[place.2]?.map Breadcrumb.bare := by
  have same := congrArg (List.map (Option.map Breadcrumb.bare)) (added_at_places history)
  rwa [List.map_map, List.map_map] at same

theorem map_rtake {α β : Type} (change : α → β) (elements : List α) (bound : Nat) :
    (elements.rtake bound).map change = (elements.map change).rtake bound := by
  unfold List.rtake
  rw [List.map_drop, List.length_map]

/-! ### Turns -/

variable {κ α : Type}

theorem SameTrail.holds {client after : Client κ} (same : client.SameTrail after) {breadcrumbs : List Breadcrumb}
    (holds : client.template.trail.Holds breadcrumbs) : after.template.trail.Holds breadcrumbs := by
  unfold Trail.Holds at holds ⊢
  rw [same.1, same.2]
  exact holds

/-- **A step adds its breadcrumb or none**, and the trail stays as large as it is. -/
theorem Step.Allows.holds {client after : Client κ} {step : Step κ} {answer : step.Answer}
    (allowed : step.Allows client answer after) {breadcrumbs : List Breadcrumb}
    (holds : client.template.trail.Holds breadcrumbs) :
    after.template.trail.Holds (breadcrumbs ++ step.added?.toList) ∧
      after.template.trail.capacity = client.template.trail.capacity := by
  cases step with
  | append breadcrumb =>
    obtain ⟨now, rfl⟩ := allowed
    exact ⟨Trail.append_holds holds now breadcrumb, rfl⟩
  | get =>
    obtain ⟨-, rfl⟩ := allowed
    exact ⟨(List.append_nil breadcrumbs).symm ▸ holds, rfl⟩
  | _ => exact ⟨(List.append_nil breadcrumbs).symm ▸ SameTrail.holds allowed holds, allowed.2⟩

/-- **Turns carry the trail along**: it holds the latest of what was added, and as many as before. -/
theorem holds_of_turns {start pool : Pool κ α} {history : List (Nat × Breadcrumb)}
    (turns : Turns start history pool) (holds : start.client.template.trail.Holds []) :
    pool.client.template.trail.Holds (history.map Prod.snd) ∧
      pool.client.template.trail.capacity = start.client.template.trail.capacity := by
  induction turns with
  | none => exact ⟨holds, rfl⟩
  | next turns turn ih =>
    obtain ⟨held, capacity⟩ := ih
    cases turn with
    | @take client after threads number step next answer asks allowed =>
      obtain ⟨held, unchanged⟩ := allowed.holds held
      have added : (step.added?.toList.map (Prod.mk number)).map Prod.snd = step.added?.toList := by
        rw [List.map_map]
        exact List.map_id _
      rw [List.map_append, added]
      exact ⟨held, unchanged.trans capacity⟩

theorem own_of_thread (number : Nat) (added : List Breadcrumb) : own number (added.map (Prod.mk number)) = added := by
  unfold own
  rw [List.filter_eq_self.mpr (by simp), List.map_map]
  exact List.map_id added

theorem own_of_other {number other : Nat} (different : other ≠ number) (added : List Breadcrumb) :
    own number (added.map (Prod.mk other)) = [] := by
  unfold own
  rw [List.filter_eq_nil_iff.mpr (by simp [different])]
  rfl

/-- **Each thread goes its own way**, whatever the others do, and adds what is asked on it. -/
theorem path_of_turns {start pool : Pool κ α} {history : List (Nat × Breadcrumb)}
    (turns : Turns start history pool) {number : Nat} {thread : Thread κ α}
    (started : start.threads[number]? = some thread) :
    ∃ left, pool.threads[number]? = some left ∧ Path Step.added? thread (own number history) left := by
  induction turns with
  | none => exact ⟨thread, started, .here thread⟩
  | next turns turn ih =>
    obtain ⟨left, found, path⟩ := ih
    cases turn with
    | @take client after threads turned step next answer asks allowed =>
      rw [own_append]
      by_cases same : turned = number
      · subst same
        cases found.symm.trans asks
        refine ⟨next answer, ?_, ?_⟩
        · exact List.getElem?_set_self (List.getElem?_eq_some_iff.mp asks).1
        · rw [own_of_thread]
          exact path.trans (.step next answer)
      · refine ⟨left, ?_, ?_⟩
        · exact (List.getElem?_set_ne same).trans found
        · rw [own_of_other same, List.append_nil]
          exact path

/-! ### What calls leave -/

/-- Callbacks and deliveries that add no breadcrumbs of their own. -/
structure Behaviour.IsSilent (behaviour : Behaviour κ) : Prop where
  onError : ∀ callback event, (behaviour.onError callback event).Asks fun step => step.added? = none
  onBreadcrumb : ∀ callback breadcrumb, (behaviour.onBreadcrumb callback breadcrumb).Asks fun step => step.added? = none
  deliver : ∀ delivery event, (behaviour.deliver delivery event).Asks fun step => step.added? = none

section Leaves

variable (behaviour : Behaviour κ)

/-- Callbacks that are registered by some time are shown a record, one after the other up to the first one that
refuses it, and make `result` of it, whatever they are answered. -/
def Passes {ρ : Type} (evaluate : κ → ρ → Thread κ (Verdict × ρ)) (record : ρ) (accepted : Bool) (result : ρ) : Prop :=
  ∃ entries visits, Tour (fun visit => Path Step.added? (evaluate visit.entry.2 visit.before) visit.marks
    (.done (visit.verdict, visit.after))) entries record () visits accepted result ()

/-- What a breadcrumb that is pushed leaves: what the callbacks made of it, unless one refuses it. -/
def Pushes (breadcrumb : Breadcrumb) (accepted : Bool) (added : List Breadcrumb) : Prop :=
  ∃ shown, Passes behaviour.onBreadcrumb breadcrumb accepted shown ∧ added = if accepted then [shown] else []

/-- What a message leaves: its breadcrumb is pushed. A message that is no text leaves nothing. -/
def Says (message : String) (kind : BreadcrumbKind) (accepted : Bool) (added : List Breadcrumb) : Prop :=
  ∃ now, match Breadcrumb.make now message kind with
    | .ok breadcrumb => Pushes behaviour breadcrumb accepted added
    | .error _ => accepted = false ∧ added = []

/-- What the report of an event leaves: the breadcrumb of its error, as the callbacks left it, if the event was
sent. -/
def Reports (reported : EventRecord → Prop) (outcome : Option Outcome) (added : List Breadcrumb) : Prop :=
  if outcome.any Outcome.isSent then
    ∃ event shown now, reported event ∧ Passes behaviour.onError event true shown ∧
      added = (shown.errorBreadcrumb? now).toList
  else added = []

/-- A copy of a template, with an error. -/
def Copies (κ : Type) (errorClass : String) (message : Option String) (severity : Severity) (unhandled : Bool)
    (event : EventRecord) : Prop :=
  ∃ (client : Client κ) (now : Instant) (error : ErrorInfo), ErrorInfo.make errorClass message = .ok error ∧
    event = { client.template.snapshot now with error := some error, severity := severity, unhandled := unhandled }

/-- What the report of an error leaves: nothing if the error is refused. -/
def Notifies (errorClass : String) (message : Option String) (severity : Severity)
    (answer : Except EventError (Option Outcome)) (added : List Breadcrumb) : Prop :=
  match answer with
  | .ok outcome => Reports behaviour (Copies κ errorClass message severity false) outcome added
  | .error _ => added = []

/-- What a call leaves by its answer: the breadcrumb that it pushes if that was accepted, and that of the error if an
event was sent. -/
def Leaves (made : ClientCall.Made κ) (added : List Breadcrumb) : Prop :=
  match made with
  | ⟨.leave message kind, accepted⟩ => Says behaviour message kind accepted added
  | ⟨.push breadcrumb, accepted⟩ => Pushes behaviour breadcrumb accepted added
  | ⟨.report event, outcome⟩ => Reports behaviour (· = event) outcome added
  | ⟨.reportHang, outcome⟩ => Reports behaviour (Copies κ hangClass (some hangMessage) .error true) outcome added
  | ⟨.notify errorClass message severity, answer⟩ =>
    Notifies behaviour errorClass message severity answer added
  | _ => added = []

theorem reports_unsent {reported : EventRecord → Prop} {outcome : Outcome} (unsent : outcome.isSent = false) :
    Reports behaviour reported (some outcome) [] := by
  unfold Reports
  rw [Option.any_some, unsent]
  rfl

theorem Reports.imp {behaviour : Behaviour κ} {reported other : EventRecord → Prop}
    (weaker : ∀ event, reported event → other event) {outcome : Option Outcome} {added : List Breadcrumb}
    (reports : Reports behaviour reported outcome added) : Reports behaviour other outcome added := by
  unfold Reports at reports ⊢
  split at reports
  · next sent =>
    obtain ⟨event, shown, now, copied, passed, crumb⟩ := reports
    rw [if_pos sent]
    exact ⟨event, shown, now, weaker event copied, passed, crumb⟩
  · next unsent =>
    rw [if_neg unsent]
    exact reports

end Leaves

/-- What is dropped was not sent. -/
theorem gate?_unsent {client : Client κ} {event : EventRecord} {outcome : Outcome}
    (dropped : client.gate? event = some outcome) : outcome.isSent = false := by
  unfold gate? at dropped
  split at dropped
  · cases dropped
    rfl
  · split at dropped
    · cases dropped
      rfl
    · split at dropped
      · cases dropped
      · cases dropped
        rfl

section Steps

variable (behaviour : Behaviour κ) {β : Type} {told : List Breadcrumb → β → Prop}

theorem yields_get {next : Client κ → Thread κ β} (yields : ∀ client, (next client).Yields Step.added? told) :
    ((stepwise behaviour).get >>= next).Yields Step.added? told := yields

theorem yields_now {next : Instant → Thread κ β} (yields : ∀ now, (next now).Yields Step.added? told) :
    ((stepwise behaviour).now >>= next).Yields Step.added? told := yields

theorem yields_modifyGet (change : Client κ → β × Client κ) :
    ((stepwise behaviour).modifyGet change).Yields Step.added? fun added _ => added = [] :=
  yields_get behaviour fun _ _ => rfl

theorem yields_stop (change : Client κ → Option Nat × Client κ) :
    ((stepwise behaviour).stop change).Yields Step.added? fun added _ => added = [] := by
  refine .bind ((yields_modifyGet behaviour change).imp ?_)
  rintro _ stopped rfl
  cases stopped with
  | none => exact rfl
  | some monitor => exact fun _ => rfl

/-- The breadcrumb of a report is added if the event was sent. -/
theorem yields_conclude (reported : EventRecord → Prop) (status : DeliveryStatus) {event shown : EventRecord}
    (copied : reported event) (passed : Passes behaviour.onError event true shown) (now : Instant) :
    ((stepwise behaviour).conclude status (shown.errorBreadcrumb? now)).Yields Step.added? fun added outcome =>
      Reports behaviour reported (some outcome) added := by
  unfold Access.conclude
  have sent : ∀ added, added = (shown.errorBreadcrumb? now).toList → status.outcome.isSent = true →
      Reports behaviour reported (some status.outcome) added := by
    intro added crumb sent
    unfold Reports
    rw [Option.any_some, sent]
    exact ⟨event, shown, now, copied, passed, crumb⟩
  cases isSent : status.outcome.isSent with
  | false => exact reports_unsent behaviour isSent
  | true =>
    cases crumb : shown.errorBreadcrumb? now with
    | none => exact sent [] (by rw [crumb]; rfl) isSent
    | some breadcrumb => exact fun _ => sent [breadcrumb] (by rw [crumb]; rfl) isSent

/-- **A record passes the callbacks**, which add nothing if they ask for nothing. -/
theorem yields_walk {ρ : Type} {evaluate : κ → ρ → Thread κ (Verdict × ρ)}
    (silent : ∀ callback record, (evaluate callback record).Asks fun step => step.added? = none)
    (entries : List (CallbackId × κ)) (record : ρ) :
    (Registry.walk evaluate entries record).Yields Step.added? fun added outcome =>
      added = [] ∧ Passes evaluate record outcome.1 outcome.2 := by
  have nothing : (Registry.walk evaluate entries record).Yields Step.added? fun added _ => added = [] :=
    .silent (Registry.asks_walk silent entries record) fun _ => rfl
  refine .of_paths fun added outcome path => ⟨nothing.of_path path, entries, ?_⟩
  refine Registry.walk_tour_of (fun _ program _ result _ => ∃ added, Path Step.added? program added (.done result))
    ?_ ?_ ?_ ⟨added, path⟩
  · rintro _ value result _ _ ⟨added, ended⟩
    cases ended.of_done.2
    exact ⟨rfl, rfl⟩
  · rintro _ _ _ _ _ _ _ ⟨added, ended⟩
    obtain ⟨earlier, later, result, _, first, second⟩ := ended.of_bind
    exact ⟨result, (), ⟨earlier, first⟩, later, second⟩
  · rintro entry _ before _ verdict after _ ⟨added, shown⟩
    exact ⟨added, shown⟩

end Steps

section Silent

variable {behaviour : Behaviour κ} (silent : behaviour.IsSilent)
include silent

theorem yields_push (breadcrumb : Breadcrumb) :
    ((stepwise behaviour).trail.push breadcrumb).Yields Step.added? fun added accepted =>
      Pushes behaviour breadcrumb accepted added := by
  refine .bind (yields_get behaviour fun client => ?_)
  refine .bind ((yields_walk silent.onBreadcrumb _ breadcrumb).imp ?_)
  rintro _ ⟨accepted, shown⟩ ⟨rfl, passed⟩
  cases accepted with
  | true => exact fun _ => ⟨shown, passed, rfl⟩
  | false => exact ⟨shown, passed, rfl⟩

theorem yields_leave (message : String) (kind : BreadcrumbKind) :
    ((stepwise behaviour).trail.leave message kind).Yields Step.added? fun added accepted =>
      Says behaviour message kind accepted added := by
  refine yields_now behaviour fun now => ?_
  cases made : Breadcrumb.make now message kind with
  | ok breadcrumb =>
    refine (yields_push silent breadcrumb).imp fun added accepted pushes => ⟨now, ?_⟩
    rw [made]
    exact pushes
  | error _ =>
    refine ⟨now, ?_⟩
    rw [made]
    exact ⟨rfl, rfl⟩

theorem yields_report (event : EventRecord) :
    ((stepwise behaviour).report event).Yields Step.added? fun added outcome =>
      Reports behaviour (· = event) outcome added := by
  refine yields_get behaviour fun client => ?_
  cases gate : client.gate? event with
  | some outcome => exact reports_unsent behaviour (gate?_unsent gate)
  | none =>
    refine .bind ((yields_walk silent.onError _ event).imp ?_)
    rintro _ ⟨accepted, shown⟩ ⟨rfl, passed⟩
    cases accepted with
    | false => exact reports_unsent behaviour rfl
    | true =>
      refine yields_now behaviour fun now => ?_
      refine .bind (yields_get behaviour fun client => .silent (silent.deliver _ _) ?_)
      intro status
      cases status with
      | none => exact rfl
      | some status =>
        refine .bind ((yields_conclude behaviour (· = event) status rfl passed now).imp ?_)
        intro added outcome reports
        show Reports behaviour _ (some outcome) (added ++ [])
        rwa [List.append_nil]

theorem yields_notify (errorClass : String) (message : Option String) (severity : Severity) :
    ((stepwise behaviour).notify errorClass message severity).Yields Step.added? fun added answer =>
      Notifies behaviour errorClass message severity answer added := by
  refine yields_get behaviour fun client => ?_
  cases client.isClosed with
  | true =>
    show Reports behaviour (Copies κ errorClass message severity false) (some .closed) []
    exact reports_unsent behaviour rfl
  | false =>
    refine yields_now behaviour fun now => ?_
    unfold EventRecord.setError
    cases made : ErrorInfo.make errorClass message with
    | error cause => exact rfl
    | ok error =>
      refine .bind ((yields_report silent _).imp ?_)
      intro added outcome reports
      show Reports behaviour _ outcome (added ++ [])
      rw [List.append_nil]
      exact reports.imp fun event same => ⟨client, now, error, made, same⟩

theorem yields_reportHang :
    ((stepwise behaviour).reportHang).Yields Step.added? fun added outcome =>
      Reports behaviour (Copies κ hangClass (some hangMessage) .error true) outcome added := by
  refine yields_get behaviour fun client => yields_now behaviour fun now => ?_
  dsimp only
  unfold EventRecord.setError
  cases made : ErrorInfo.make hangClass (some hangMessage) with
  | error _ => exact reports_unsent behaviour rfl
  | ok error =>
    refine (yields_report silent _).imp fun added outcome reports => ?_
    exact reports.imp fun event same => ⟨client, now, error, made, same⟩

/-- **A call leaves what its answer says.** -/
theorem yields_of_answer (call : ClientCall κ) :
    ((stepwise behaviour).answer call).Yields Step.added? fun added answer =>
      Leaves behaviour ⟨call, answer⟩ added := by
  cases call with
  | leave message kind => exact yields_leave silent message kind
  | push breadcrumb => exact yields_push silent breadcrumb
  | report event => exact yields_report silent event
  | reportHang => exact yields_reportHang silent
  | notify errorClass message severity => exact yields_notify silent errorClass message severity
  | clearTrail => exact fun _ _ => rfl
  | write change => exact fun _ _ => rfl
  | inspect => exact fun _ => rfl
  | setDelivery delivery => exact fun _ _ => rfl
  | addOnError callback => exact yields_modifyGet behaviour fun client => client.addOnError callback
  | removeOnError id => exact yields_modifyGet behaviour fun client => client.removeOnError id
  | addOnBreadcrumb callback => exact yields_modifyGet behaviour fun client => client.addOnBreadcrumb callback
  | removeOnBreadcrumb id => exact yields_modifyGet behaviour fun client => client.removeOnBreadcrumb id
  | enableHangs buffer =>
    exact fun sight => yields_modifyGet behaviour fun client => client.enableHangs buffer sight
  | disableHangs => exact yields_stop behaviour Client.disableHangs
  | close => exact .bind ((yields_stop behaviour Client.close).imp fun _ _ nothing => nothing ▸ rfl)

/-- **Calls leave what their answers say**, one after the other. -/
theorem yields_of_answerAll (calls : List (ClientCall κ)) :
    ((stepwise behaviour).answerAll calls).Yields Step.added? fun added made =>
      made.map ClientCall.Made.call = calls ∧
        ∃ left, List.Forall₂ (Leaves behaviour) made left ∧ added = left.flatten := by
  induction calls with
  | nil => exact ⟨rfl, [], .nil, rfl⟩
  | cons call calls ih =>
    refine .bind ((yields_of_answer silent call).imp ?_)
    intro added answer leaves
    refine .bind (ih.imp ?_)
    rintro _ made ⟨called, left, each, rfl⟩
    refine ⟨congrArg (call :: ·) called, added :: left, .cons leaves each, ?_⟩
    rw [List.append_nil, List.flatten_cons]

end Silent

/-! ### What is retained -/

/-- **Breadcrumbs of threads are neither lost nor doubled.**

Threads share a client with an empty trail that nobody clears, and take their turns in any order, adding breadcrumbs
by whatever they call. Of all that was added so far the trail holds as many as fit; each is that of a place of its
own; and the places of a thread that are kept are its last ones, in its order. What a thread added is what its
own program asked, whatever the others did. If it makes calls, and callbacks and deliveries add nothing of their
own, then it is the breadcrumb of each one that was accepted, as the callbacks left it, and that of the error of each
event that was sent. -/
theorem retained_of_turns {start pool : Pool κ (List (ClientCall.Made κ))} {history : List (Nat × Breadcrumb)}
    (fresh : start.client.template.trail.entries = []) (turns : Turns start history pool) :
    (∃ kept : List (Nat × Nat), kept.Nodup ∧
      kept.length = min start.client.template.trail.capacity history.length ∧
      pool.client.template.trail.entries.map (fun breadcrumb => some breadcrumb.bare) =
        kept.map (fun place => (own place.1 history)[place.2]?.map Breadcrumb.bare) ∧
      ∀ number, (kept.filter fun place => place.1 = number).map Prod.snd <:+
        List.range (own number history).length) ∧
    (∀ number thread, start.threads[number]? = some thread → ∃ left, pool.threads[number]? = some left ∧
      Path Step.added? thread (own number history) left) ∧
    (∀ behaviour : Behaviour κ, behaviour.IsSilent → ∀ number calls made,
      start.threads[number]? = some ((stepwise behaviour).answerAll calls) →
      pool.threads[number]? = some (.done made) →
        made.map ClientCall.Made.call = calls ∧
          ∃ left, List.Forall₂ (Leaves behaviour) made left ∧ own number history = left.flatten) := by
  refine ⟨?_, fun number thread => path_of_turns turns, ?_⟩
  · have empty : start.client.template.trail.Holds [] := by
      unfold Trail.Holds
      rw [fresh, List.map_nil, List.rtake_nil]
    obtain ⟨holds, capacity⟩ := holds_of_turns turns empty
    refine ⟨(places history).rtake start.client.template.trail.capacity, ?_, ?_, ?_, ?_⟩
    · exact (nodup_places history).sublist (List.drop_sublist _ _)
    · unfold List.rtake
      rw [List.length_drop, length_places, Nat.sub_sub_eq_min, Nat.min_comm]
    · unfold Trail.Holds at holds
      rw [capacity] at holds
      calc pool.client.template.trail.entries.map (fun breadcrumb => some breadcrumb.bare)
          = (pool.client.template.trail.entries.map Breadcrumb.bare).map some := List.map_map.symm
        _ = (history.map fun added => some added.2.bare).rtake start.client.template.trail.capacity := by
            rw [holds, map_rtake, List.map_map, List.map_map]
            rfl
        _ = _ := by rw [bare_at_places, map_rtake]
    · intro number
      have last : ((places history).rtake start.client.template.trail.capacity).filter
          (fun place => place.1 = number) <:+ (List.range (own number history).length).map (Prod.mk number) := by
        rw [← places_of_thread]
        exact (List.drop_suffix _ _).filter _
      have counted := last.map Prod.snd
      rw [List.map_map] at counted
      exact (List.map_id (List.range (own number history).length)) ▸ counted
  · intro behaviour silent number calls made started ended
    obtain ⟨left, found, path⟩ := path_of_turns turns started
    cases found.symm.trans ended
    exact (yields_of_answerAll silent calls).of_path path

/-- A client that keeps two breadcrumbs and has no callbacks. -/
def roomy : Client Empty where
  settings := .defaults
  template := .ofTrail (.ofCapacity 2)
  onError := .empty
  delivery := .log
  lifecycle := .fresh
  monitors := []
  runtimeContext := 0

/-- There are no callbacks, and every event is delivered. -/
def serene : Behaviour Empty where
  onError callback := callback.elim
  onBreadcrumb callback := callback.elim
  deliver _ _ := pure (some .delivered)

theorem serene_isSilent : serene.IsSilent where
  onError callback := callback.elim
  onBreadcrumb callback := callback.elim
  deliver _ _ := trivial

/-- A breadcrumb of a kind. -/
def crumb (kind : BreadcrumbKind) : Breadcrumb := { Trail.shout with kind := kind }

/-- Two threads that push one breadcrumb and two. -/
def chorus : Pool Empty (List (ClientCall.Made Empty)) where
  client := roomy
  threads :=
    [(stepwise serene).answerAll [.push (crumb .log)],
      (stepwise serene).answerAll [.push (crumb .user), .push (crumb .error)]]

/-- What the second thread makes of its calls. -/
def sung : List (ClientCall.Made Empty) := [⟨.push (crumb .user), true⟩, ⟨.push (crumb .error), true⟩]

/-- The first thread adds its breadcrumb between the two of the second one, whose first one is then lost. -/
theorem retained_of_turns_chorus :
    ∃ history pool, Turns chorus history pool ∧ history.map Prod.fst = [1, 0, 1] ∧
      pool.client.template.trail.entries.map Breadcrumb.kind = [.log, .error] ∧
      (∃ kept : List (Nat × Nat), kept.Nodup ∧ kept.length = 2 ∧
        pool.client.template.trail.entries.map (fun breadcrumb => some breadcrumb.bare) =
          kept.map (fun place => (own place.1 history)[place.2]?.map Breadcrumb.bare) ∧
        ∀ number, (kept.filter fun place => place.1 = number).map Prod.snd <:+
          List.range (own number history).length) ∧
      own 1 history = [crumb .user, crumb .error] ∧
      ∃ left, List.Forall₂ (Leaves serene) sung left ∧ own 1 history = left.flatten := by
  have turns := (((((((Turns.none chorus).next
    (@Turn.take _ _ _ _ _ 0 _ _ _ rfl ⟨rfl, rfl⟩)).next
    (@Turn.take _ _ _ _ _ 1 _ _ _ rfl ⟨rfl, rfl⟩)).next
    (@Turn.take _ _ _ _ _ 1 _ _ () rfl ⟨Trail.shout.timestamp, rfl⟩)).next
    (@Turn.take _ _ _ _ _ 0 _ _ () rfl ⟨Trail.shout.timestamp, rfl⟩)).next
    (@Turn.take _ _ _ _ _ 1 _ _ _ rfl ⟨rfl, rfl⟩)).next
    (@Turn.take _ _ _ _ _ 1 _ _ () rfl ⟨Trail.shout.timestamp, rfl⟩))
  obtain ⟨kept, -, left⟩ := retained_of_turns rfl turns
  exact ⟨_, _, turns, rfl, rfl, kept, rfl, (left serene serene_isSilent 1 _ sung rfl rfl).2⟩

end Client

end CrashReporter
