/-
**The same call in two surroundings.**

Two clients are alike if they are the same without their times, each counted from an origin of its own
(`Client.Alike`). A call that is made in two surroundings whose clients are alike, and which offer the same up
to times (`Client.Access.Paired`), answers the same up to times: `answer_of_paired`. Whatever relates
the computations of the two surroundings only has to survive composition (`ComposesInPairs`).
-/

import CrashReporter.Proofs.Client.Undated
import Mathlib.Tactic.Common

namespace CrashReporter

variable {κ : Type} {m : Type → Type} [Monad m]

/-- A relation of computations, by what their results have in common, that survives composition. -/
structure ComposesInPairs (Paired : ⦃α : Type⦄ → (α → α → Prop) → m α → m α → Prop) : Prop where
  pure : ∀ {α : Type} {fits : α → α → Prop} {result result' : α}, fits result result' →
    Paired fits (pure result) (pure result')
  bind : ∀ {α β : Type} {fits : α → α → Prop} {other : β → β → Prop} {first first' : m α}
    {next next' : α → m β}, Paired fits first first' →
    (∀ result result', fits result result' → Paired other (next result) (next' result')) →
    Paired other (first >>= next) (first' >>= next')

/-- Results that are the same in a view of them are the same failure, or successes with the same view. -/
theorem except_of_map_eq {ε α β : Type} {view : α → β} {first second : Except ε α}
    (same : first.map view = second.map view) :
    (∃ cause, first = .error cause ∧ second = .error cause) ∨
      ∃ result result', first = .ok result ∧ second = .ok result' ∧ view result = view result' := by
  cases first with
  | error cause =>
    cases second with
    | error cause' => exact .inl ⟨cause, rfl, congrArg Except.error (Except.error.inj same).symm⟩
    | ok result' => cases same
  | ok result =>
    cases second with
    | error cause' => cases same
    | ok result' => exact .inr ⟨result, result', rfl, rfl, Except.ok.inj same⟩

/-! ### Clients that are alike -/

namespace Client

/-- All monitors of a client watch some addresses only. -/
def Watches (watched : UInt64 → Prop) (client : Client κ) : Prop :=
  ∀ monitor ∈ client.monitors, watched monitor.buffer.address

/-- Two clients that watch some addresses only are the same without their times. -/
structure Alike (watched : UInt64 → Prop) (origin origin' : Int) (client client' : Client κ) : Prop where
  same : client.relativeTo origin = client'.relativeTo origin'
  watches : client.Watches watched

variable {watched : UInt64 → Prop} {origin origin' : Int} {client client' : Client κ}

theorem Watches.modifyMonitor (watches : client.Watches watched) (index : Nat)
    {change : Hang.Monitor → Hang.Monitor} (kept : ∀ monitor, (change monitor).buffer = monitor.buffer) :
    (client.modifyMonitor index change).Watches watched := by
  intro monitor member
  obtain ⟨place, found⟩ := List.getElem?_of_mem member
  change (client.monitors.modify index change)[place]? = some monitor at found
  rw [List.getElem?_modify] at found
  obtain ⟨before, held, rfl⟩ := Option.map_eq_some_iff.mp found
  have permitted := watches before (List.mem_of_getElem? held)
  split
  · rw [kept]
    exact permitted
  · exact permitted

theorem Watches.stopMonitor (watches : client.Watches watched) : client.stopMonitor.2.Watches watched := by
  unfold Client.stopMonitor
  split
  · exact watches
  · exact watches.modifyMonitor _ fun _ => rfl

theorem Watches.enableHangs (watches : client.Watches watched) {buffer : Hang.Buffer}
    (permitted : watched buffer.address) (sight : Hang.Sight) :
    (client.enableHangs buffer sight).2.Watches watched := by
  unfold Client.enableHangs
  split
  · intro monitor member
    rcases List.mem_append.mp member with member | member
    · exact watches monitor member
    · rw [List.mem_singleton] at member
      rw [member]
      exact permitted
  · exact watches
  · exact watches

/-- A change that does not look at times, and lets no monitor watch anything else. -/
structure Timeless {α : Type} (change : Client κ → α × Client κ) : Prop where
  relativeTo : ∀ origin client, answerRelativeTo origin (change client) = change (client.relativeTo origin)
  watches : ∀ {watched : UInt64 → Prop} {client}, client.Watches watched →
    (change client).2.Watches watched

/-- A change that does not look at times answers the same for clients that are alike, which stay so. -/
theorem Timeless.alike {α : Type} {change : Client κ → α × Client κ} (timeless : Timeless change)
    (alike : Alike watched origin origin' client client') :
    (change client).1 = (change client').1 ∧
      Alike watched origin origin' (change client).2 (change client').2 := by
  have answers : answerRelativeTo origin (change client) = answerRelativeTo origin' (change client') := by
    rw [timeless.relativeTo, timeless.relativeTo, alike.same]
  obtain ⟨answer, same⟩ := Prod.mk.inj answers
  exact ⟨answer, same, timeless.watches alike.watches⟩

theorem Alike.enableHangs (alike : Alike watched origin origin' client client') {buffer : Hang.Buffer}
    (permitted : watched buffer.address) {sight sight' : Hang.Sight}
    (same : sight.relativeTo origin = sight'.relativeTo origin') :
    (client.enableHangs buffer sight).1 = (client'.enableHangs buffer sight').1 ∧
      Alike watched origin origin' (client.enableHangs buffer sight).2
        (client'.enableHangs buffer sight').2 := by
  have answers : answerRelativeTo origin (client.enableHangs buffer sight) =
      answerRelativeTo origin' (client'.enableHangs buffer sight') := by
    rw [enableHangs_relativeTo, enableHangs_relativeTo, alike.same, same]
  obtain ⟨answer, same⟩ := Prod.mk.inj answers
  exact ⟨answer, same, alike.watches.enableHangs permitted sight⟩

theorem write_timeless (change : Write) : Timeless fun client : Client κ => ((), client.write change) :=
  ⟨fun origin client => congrArg (Prod.mk ()) (client.write_relativeTo origin change), fun watches => watches⟩

theorem clearTrail_timeless :
    Timeless fun client : Client κ => ((), client.setTrail client.template.trail.clear) :=
  ⟨fun _ _ => rfl, fun watches => watches⟩

theorem setDelivery_timeless (delivery : Delivery κ) :
    Timeless fun client : Client κ => ((), client.setDelivery delivery) :=
  ⟨fun _ _ => rfl, fun watches => watches⟩

theorem addOnError_timeless (callback : κ) : Timeless fun client : Client κ => client.addOnError callback :=
  ⟨fun _ _ => rfl, fun watches => watches⟩

theorem removeOnError_timeless (id : CallbackId) :
    Timeless fun client : Client κ => client.removeOnError id :=
  ⟨fun _ _ => rfl, fun watches => watches⟩

theorem addOnBreadcrumb_timeless (callback : κ) :
    Timeless fun client : Client κ => client.addOnBreadcrumb callback :=
  ⟨fun _ _ => rfl, fun watches => watches⟩

theorem removeOnBreadcrumb_timeless (id : CallbackId) :
    Timeless fun client : Client κ => client.removeOnBreadcrumb id :=
  ⟨fun _ _ => rfl, fun watches => watches⟩

theorem disableHangs_timeless : Timeless (disableHangs : Client κ → _) :=
  ⟨fun origin client => client.disableHangs_relativeTo origin, Watches.stopMonitor⟩

theorem close_timeless : Timeless (close : Client κ → _) := by
  refine ⟨fun origin client => client.close_relativeTo origin, fun {watched client} watches => ?_⟩
  unfold close
  split
  · exact watches
  · exact watches.stopMonitor

end Client

/-! ### Surroundings in pairs -/

/-- A call starts no monitor but of some addresses. -/
def ClientCall.Watches (watched : UInt64 → Prop) : ClientCall κ → Prop
  | .enableHangs buffer => watched buffer.address
  | _ => True

/-- Two answers to a call are the same up to times. -/
def ClientCall.AnswersAlike (watched : UInt64 → Prop) (origin origin' : Int) :
    (call : ClientCall κ) → call.Answer → call.Answer → Prop
  | .inspect => Client.Alike watched origin origin'
  | _ => fun answer answer' => answer = answer'

/-- A verdict and an event that were given are the same up to times. -/
def EventRecord.GivenAlike (given given' : Verdict × EventRecord) : Prop :=
  given.1 = given'.1 ∧ given.2.undated = given'.2.undated

/-- A verdict and a breadcrumb that were given are the same up to times. -/
def Breadcrumb.GivenAlike (given given' : Verdict × Breadcrumb) : Prop :=
  given.1 = given'.1 ∧ given.2.undated = given'.2.undated

namespace Client.Access

/-- Two surroundings offer the same up to times. -/
structure Paired (Related : ⦃α : Type⦄ → (α → α → Prop) → m α → m α → Prop) (watched : UInt64 → Prop)
    (origin origin' : Int) (access access' : Access κ m) : Prop where
  get : Related (Client.Alike watched origin origin') access.get access'.get
  set : ∀ {client client'}, Client.Alike watched origin origin' client client' →
    Related Eq (access.set client) (access'.set client')
  now : Related (fun _ _ => True) access.now access'.now
  append : ∀ {breadcrumb breadcrumb' : Breadcrumb}, breadcrumb.undated = breadcrumb'.undated →
    Related Eq (access.append breadcrumb) (access'.append breadcrumb')
  look : ∀ {buffer : Hang.Buffer}, watched buffer.address →
    Related (fun sight sight' => sight.relativeTo origin = sight'.relativeTo origin') (access.look buffer)
      (access'.look buffer)
  consult : ∀ callback {event event' : EventRecord}, event.undated = event'.undated →
    Related EventRecord.GivenAlike (access.consult callback event) (access'.consult callback event')
  notice : ∀ callback {breadcrumb breadcrumb' : Breadcrumb}, breadcrumb.undated = breadcrumb'.undated →
    Related Breadcrumb.GivenAlike (access.notice callback breadcrumb) (access'.notice callback breadcrumb')
  deliver : ∀ delivery {event event' : EventRecord}, event.undated = event'.undated →
    Related Eq (access.deliver delivery event) (access'.deliver delivery event')
  join : ∀ index, Related Eq (access.join index) (access'.join index)

variable {Related : ⦃α : Type⦄ → (α → α → Prop) → m α → m α → Prop} (composes : ComposesInPairs Related)
  {watched : UInt64 → Prop} {origin origin' : Int} {access access' : Access κ m}
  (paired : Paired Related watched origin origin' access access')

include composes

/-- Walks past the same callbacks are related if the evaluations are. -/
theorem walk_of_paired {ρ : Type} {alike : ρ → ρ → Prop} {evaluate evaluate' : κ → ρ → m (Verdict × ρ)}
    (evaluates : ∀ callback {record record'}, alike record record' →
      Related (fun given given' => given.1 = given'.1 ∧ alike given.2 given'.2) (evaluate callback record)
        (evaluate' callback record'))
    (entries : List (CallbackId × κ)) {record record' : ρ} (same : alike record record') :
    Related (fun ended ended' => ended.1 = ended'.1 ∧ alike ended.2 ended'.2)
      (Registry.walk evaluate entries record) (Registry.walk evaluate' entries record') := by
  induction entries generalizing record record' with
  | nil => exact composes.pure ⟨rfl, same⟩
  | cons entry entries ih =>
    refine composes.bind (evaluates entry.2 same) ?_
    rintro ⟨verdict, after⟩ ⟨_, after'⟩ ⟨rfl, still⟩
    cases verdict with
    | refuse => exact composes.pure ⟨rfl, still⟩
    | accept => exact ih still
    | panic => exact ih still

include paired

theorem modify_of_paired {change : Client κ → Client κ}
    (timeless : Timeless fun client => ((), change client)) :
    Related Eq (access.modify change) (access'.modify change) :=
  composes.bind paired.get fun _ _ alike => paired.set (timeless.alike alike).2

theorem modifyGet_of_paired {α : Type} {change change' : Client κ → α × Client κ}
    (changes : ∀ client client', Client.Alike watched origin origin' client client' →
      (change client).1 = (change' client').1 ∧
        Client.Alike watched origin origin' (change client).2 (change' client').2) :
    Related Eq (access.modifyGet change) (access'.modifyGet change') := by
  refine composes.bind paired.get fun client client' alike => ?_
  obtain ⟨answers, still⟩ := changes client client' alike
  exact composes.bind (paired.set still) fun _ _ _ => composes.pure answers

theorem modifyGet_of_timeless {α : Type} {change : Client κ → α × Client κ} (timeless : Timeless change) :
    Related Eq (access.modifyGet change) (access'.modifyGet change) :=
  modifyGet_of_paired composes paired fun _ _ alike => timeless.alike alike

theorem stop_of_paired {change : Client κ → Option Nat × Client κ} (timeless : Timeless change) :
    Related Eq (access.stop change) (access'.stop change) := by
  refine composes.bind (modifyGet_of_timeless composes paired timeless) ?_
  rintro stopped _ rfl
  cases stopped with
  | none => exact composes.pure rfl
  | some monitor => exact composes.bind (paired.join monitor) fun _ _ _ => composes.pure rfl

theorem push_of_paired {breadcrumb breadcrumb' : Breadcrumb}
    (same : breadcrumb.undated = breadcrumb'.undated) :
    Related Eq (access.trail.push breadcrumb) (access'.trail.push breadcrumb') := by
  have trails : Related (fun trail trail' => trail.callbacks = trail'.callbacks) access.trail.get
      access'.trail.get := by
    refine composes.bind paired.get fun client client' alike => composes.pure ?_
    exact congrArg (fun client => client.template.trail.callbacks) alike.same
  refine composes.bind trails fun trail trail' callbacks => ?_
  rw [callbacks]
  refine composes.bind (walk_of_paired composes paired.notice _ same) ?_
  rintro ⟨accepted, after⟩ ⟨_, after'⟩ ⟨rfl, still⟩
  cases accepted with
  | false => exact composes.pure rfl
  | true => exact composes.bind (paired.append still) fun _ _ _ => composes.pure rfl

theorem leave_of_paired (message : String) (kind : BreadcrumbKind) :
    Related Eq (access.trail.leave message kind) (access'.trail.leave message kind) := by
  refine composes.bind paired.now fun now now' _ => ?_
  have same := (Breadcrumb.make_undated now message kind).trans
    (Breadcrumb.make_undated now' message kind).symm
  rcases except_of_map_eq same with ⟨cause, failed, failed'⟩ | ⟨breadcrumb, breadcrumb', made, made', alike⟩
  · rw [failed, failed']
    exact composes.pure rfl
  · rw [made, made']
    exact push_of_paired composes paired alike

theorem conclude_of_paired (status : DeliveryStatus) {breadcrumb breadcrumb' : Option Breadcrumb}
    (same : breadcrumb.map Breadcrumb.undated = breadcrumb'.map Breadcrumb.undated) :
    Related Eq (access.conclude status breadcrumb) (access'.conclude status breadcrumb') := by
  unfold conclude
  cases breadcrumb with
  | none =>
    cases breadcrumb' with
    | none => cases status.outcome.isSent <;> exact composes.pure rfl
    | some breadcrumb' => cases same
  | some breadcrumb =>
    cases breadcrumb' with
    | none => cases same
    | some breadcrumb' =>
      cases status.outcome.isSent with
      | false => exact composes.pure rfl
      | true => exact composes.bind (paired.append (Option.some.inj same)) fun _ _ _ => composes.pure rfl

theorem report_of_paired {event event' : EventRecord} (same : event.undated = event'.undated) :
    Related Eq (access.report event) (access'.report event') := by
  refine composes.bind paired.get fun client client' alike => ?_
  have gate : client.gate? event = client'.gate? event' := by
    rw [← client.gate?_relativeTo origin, ← client'.gate?_relativeTo origin', alike.same, same]
  have callbacks : client.onError = client'.onError := congrArg (·.onError) alike.same
  rw [gate, callbacks]
  cases client'.gate? event' with
  | some outcome => exact composes.pure rfl
  | none =>
    refine composes.bind (walk_of_paired composes paired.consult _ same) ?_
    rintro ⟨accepted, last⟩ ⟨_, last'⟩ ⟨rfl, still⟩
    cases accepted with
    | false => exact composes.pure rfl
    | true =>
      refine composes.bind paired.now fun now now' _ => ?_
      have sent : Related Eq (access.send last) (access'.send last') := by
        refine composes.bind paired.get fun client client' alike => ?_
        rw [show client.delivery = client'.delivery from congrArg (·.delivery) alike.same]
        exact paired.deliver _ still
      refine composes.bind sent ?_
      rintro status _ rfl
      cases status with
      | none => exact composes.pure rfl
      | some status =>
        have breadcrumbs : (last.errorBreadcrumb? now).map Breadcrumb.undated =
            (last'.errorBreadcrumb? now').map Breadcrumb.undated := by
          rw [EventRecord.errorBreadcrumb?_undated, EventRecord.errorBreadcrumb?_undated, still]
        refine composes.bind (conclude_of_paired composes paired status breadcrumbs) ?_
        rintro outcome _ rfl
        exact composes.pure rfl

theorem notify_of_paired (errorClass : String) (message : Option String) (severity : Severity) :
    Related Eq (access.notify errorClass message severity) (access'.notify errorClass message severity) := by
  refine composes.bind paired.get fun client client' alike => ?_
  rw [show client.isClosed = client'.isClosed from congrArg (·.isClosed) alike.same]
  split
  · exact composes.pure rfl
  · refine composes.bind paired.now fun now now' _ => ?_
    have same : ((client.template.snapshot now).setError errorClass message).map EventRecord.undated =
        ((client'.template.snapshot now').setError errorClass message).map EventRecord.undated := by
      rw [EventRecord.setError_undated, EventRecord.setError_undated, Template.snapshot_undated,
        Template.snapshot_undated]
      exact congrArg (fun client => (client.template.snapshot .sometime).setError errorClass message) alike.same
    rcases except_of_map_eq same with ⟨cause, failed, failed'⟩ | ⟨event, event', made, made', still⟩
    · rw [failed, failed']
      exact composes.pure rfl
    · rw [made, made']
      have events : ({ event with severity := severity, unhandled := false } : EventRecord).undated =
          ({ event' with severity := severity, unhandled := false } : EventRecord).undated :=
        congrArg (fun event => { event with severity := severity, unhandled := false }) still
      refine composes.bind (report_of_paired composes paired events) ?_
      rintro outcome _ rfl
      exact composes.pure rfl

theorem reportHang_of_paired : Related Eq access.reportHang access'.reportHang := by
  refine composes.bind paired.get fun client client' alike => composes.bind paired.now fun now now' _ => ?_
  have same : (({ client.template.snapshot now with severity := .error, unhandled := true } :
        EventRecord).setError hangClass (some hangMessage)).map EventRecord.undated =
      (({ client'.template.snapshot now' with severity := .error, unhandled := true } :
        EventRecord).setError hangClass (some hangMessage)).map EventRecord.undated := by
    rw [EventRecord.setError_undated, EventRecord.setError_undated]
    exact congrArg (fun client => EventRecord.setError { client.template.snapshot .sometime with
      severity := .error, unhandled := true } hangClass (some hangMessage)) alike.same
  dsimp only
  rcases except_of_map_eq same with ⟨cause, failed, failed'⟩ | ⟨event, event', made, made', still⟩
  · rw [failed, failed']
    exact composes.pure rfl
  · rw [made, made']
    exact report_of_paired composes paired still

end Client.Access

/-- **A call answers the same up to times** in two surroundings that offer the same up to times. -/
theorem Client.Access.answer_of_paired {Related : ⦃α : Type⦄ → (α → α → Prop) → m α → m α → Prop}
    (composes : ComposesInPairs Related) {watched : UInt64 → Prop} {origin origin' : Int}
    {access access' : Access κ m} (paired : Paired Related watched origin origin' access access')
    (call : ClientCall κ) (permitted : call.Watches watched) :
    Related (call.AnswersAlike watched origin origin') (access.answer call) (access'.answer call) := by
  cases call with
  | notify errorClass message severity => exact notify_of_paired composes paired errorClass message severity
  | report event => exact report_of_paired composes paired rfl
  | reportHang => exact reportHang_of_paired composes paired
  | leave message kind => exact leave_of_paired composes paired message kind
  | push breadcrumb => exact push_of_paired composes paired rfl
  | clearTrail => exact modify_of_paired composes paired clearTrail_timeless
  | write change => exact modify_of_paired composes paired (write_timeless change)
  | inspect => exact paired.get
  | setDelivery delivery => exact modify_of_paired composes paired (setDelivery_timeless delivery)
  | addOnError callback => exact modifyGet_of_timeless composes paired (addOnError_timeless callback)
  | removeOnError id => exact modifyGet_of_timeless composes paired (removeOnError_timeless id)
  | addOnBreadcrumb callback =>
    exact modifyGet_of_timeless composes paired (addOnBreadcrumb_timeless callback)
  | removeOnBreadcrumb id => exact modifyGet_of_timeless composes paired (removeOnBreadcrumb_timeless id)
  | enableHangs buffer =>
    exact composes.bind (paired.look permitted) fun sight sight' same =>
      modifyGet_of_paired composes paired fun client client' alike => alike.enableHangs permitted same
  | disableHangs => exact stop_of_paired composes paired disableHangs_timeless
  | close => exact composes.bind (stop_of_paired composes paired close_timeless) fun _ _ _ => composes.pure rfl

end CrashReporter
