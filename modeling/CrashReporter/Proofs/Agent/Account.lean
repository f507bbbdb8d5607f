/-
**Accounts of calls among others.**

What becomes of a report, and of a breadcrumb that is left, while callbacks and deliveries use the same client
and others act whenever somebody waits:

* `Reported`: the gates look at the client as it is when the report starts, and so does the choice of the
  callbacks; the delivery is the one of the client as the callbacks leave it; the breadcrumb of the error is
  added when the delivery is done;
* `Notified`, `HangReported`: the event is made from the template as it is when the call starts, which is
  not looked at again;
* `Pushed`, `Left`: a breadcrumb is added when its callbacks are done, as the last of them left it.

An account also lists the breadcrumbs that the call adds to the trail: those that were added in the course of
its visits and of its delivery, one after the other, and its own at the end. Every run of such a call has
its account: `report_account`, `notify_account`, `reportHang_account`, `push_account`, `leave_account`.
-/

import CrashReporter.Proofs.Agent.History

namespace CrashReporter

open Registry (Tour Visit walk)

variable {κ ν α β : Type}

namespace Agent

/-- What was added to the trail of a client in the course of a visit. -/
def gainedIn {ρ μ : Type} (id : ClientId) (visit : Visit κ ρ (Agent κ ν) μ) : List Breadcrumb :=
  gained id visit.start visit.finish

/-- What a report adds to the trail itself: the breadcrumb of the error, if the event was sent, now or for
later. -/
def ownBreadcrumbs (outcome : Option Outcome) (error : Option ErrorInfo) (now : Instant) :
    List Breadcrumb :=
  if outcome = some .delivered ∨ outcome = some .undelivered then
    (error.map (ErrorInfo.breadcrumb · now)).toList
  else []

section Accounts

variable (host : Host κ ν) (others : Agent κ ν → Agent κ ν → Prop) (caller : Option MonitorId)
  (depth : Nat) (id : ClientId)

/-- A visit of an on-error callback: it is noted, and the rest is a run of the callback. -/
structure Consults (visit : Visit κ EventRecord (Agent κ ν) (Happening κ)) : Prop where
  marks : visit.marks = [.consulted id visit.entry.2 visit.before]
  ran : Act.Runs others (runScript host caller depth (host.onError visit.entry.2 visit.before))
    (visit.start.note (.consulted id visit.entry.2 visit.before)) (visit.verdict, visit.after)
    visit.finish

/-- A visit of an on-breadcrumb callback: it is noted, and the rest is a run of the callback. -/
structure Notices (visit : Visit κ Breadcrumb (Agent κ ν) (Happening κ)) : Prop where
  marks : visit.marks = [.noticed id visit.entry.2 visit.before]
  ran : Act.Runs others (runScript host caller depth (host.onBreadcrumb visit.entry.2 visit.before))
    (visit.start.note (.noticed id visit.entry.2 visit.before)) (visit.verdict, visit.after)
    visit.finish

/-- What becomes of an event that is reported. -/
inductive Reported (event : EventRecord) (start : Agent κ ν) :
    Option Outcome → Agent κ ν → List Breadcrumb → Prop
  /-- A gate stops it, and nothing happens. -/
  | stopped {client : Client κ} {outcome : Outcome} (held : start.client? id = some client)
      (gate : client.gate? event = some outcome) : Reported event start (some outcome) start []
  /-- A callback refuses it. -/
  | vetoed {client : Client κ} {visits : List (Visit κ EventRecord (Agent κ ν) (Happening κ))}
      {last : EventRecord} {final : Agent κ ν} (held : start.client? id = some client)
      (passed : client.gate? event = none)
      (tour : Tour (Consults host others caller depth id) client.onError.entries event start visits
        false last final) :
      Reported event start (some .vetoed) final (visits.flatMap (gainedIn id))
  /-- The delivery of the client, as the callbacks left it, takes it over. -/
  | handedOver {client later : Client κ}
      {visits : List (Visit κ EventRecord (Agent κ ν) (Happening κ))} {last : EventRecord}
      {middle after : Agent κ ν} {status : Option DeliveryStatus}
      (held : start.client? id = some client) (passed : client.gate? event = none)
      (tour : Tour (Consults host others caller depth id) client.onError.entries event start visits
        true last middle)
      (present : middle.client? id = some later)
      (delivered : Act.Runs others
        (runScript host caller depth (host.handOver later.delivery last))
        (middle.readClock.2.note (.delivered id later.delivery last)) status after) :
      Reported event start (status.map DeliveryStatus.outcome)
        (after.conclude id status (last.error.map (ErrorInfo.breadcrumb · middle.clock.read.1)))
        (visits.flatMap (gainedIn id) ++ gained id middle after ++
          ownBreadcrumbs (status.map DeliveryStatus.outcome) last.error middle.clock.read.1)

/-- What becomes of an error that is reported in a copy of the template. -/
inductive Notified (errorClass : String) (message : Option String) (severity : Severity)
    (start : Agent κ ν) : Except EventError (Option Outcome) → Agent κ ν → List Breadcrumb → Prop
  | closed {client : Client κ} (held : start.client? id = some client)
      (closed : client.isClosed = true) :
      Notified errorClass message severity start (.ok (some .closed)) start []
  /-- The error is none. -/
  | refused {client : Client κ} {cause : EventError} (held : start.client? id = some client)
      (unclosed : client.isClosed = false)
      (refused : (client.template.snapshot start.clock.read.1).setError errorClass message =
        .error cause) :
      Notified errorClass message severity start (.error cause) start.readClock.2 []
  | reported {client : Client κ} {event : EventRecord} {outcome : Option Outcome}
      {final : Agent κ ν} {added : List Breadcrumb} (held : start.client? id = some client)
      (unclosed : client.isClosed = false)
      (made : (client.template.snapshot start.clock.read.1).setError errorClass message = .ok event)
      (reported : Reported host others caller depth id
        { event with severity := severity, unhandled := false } start.readClock.2 outcome final
        added) :
      Notified errorClass message severity start (.ok outcome) final added

/-- What becomes of a hang that is reported in a copy of the template. -/
inductive HangReported (start : Agent κ ν) : Option Outcome → Agent κ ν → List Breadcrumb → Prop
  | reported {client : Client κ} {event : EventRecord} {outcome : Option Outcome}
      {final : Agent κ ν} {added : List Breadcrumb} (held : start.client? id = some client)
      (made : ({ client.template.snapshot start.clock.read.1 with
        severity := .error, unhandled := true } : EventRecord).setError hangClass (some hangMessage) =
          .ok event)
      (reported : Reported host others caller depth id event start.readClock.2 outcome final
        added) :
      HangReported start outcome final added

/-- What becomes of a breadcrumb that is pushed. -/
inductive Pushed (breadcrumb : Breadcrumb) (start : Agent κ ν) :
    Bool → Agent κ ν → List Breadcrumb → Prop
  | refused {client : Client κ} {visits : List (Visit κ Breadcrumb (Agent κ ν) (Happening κ))}
      {last : Breadcrumb} {final : Agent κ ν} (held : start.client? id = some client)
      (tour : Tour (Notices host others caller depth id) client.template.trail.callbacks.entries
        breadcrumb start visits false last final) :
      Pushed breadcrumb start false final (visits.flatMap (gainedIn id))
  | added {client : Client κ} {visits : List (Visit κ Breadcrumb (Agent κ ν) (Happening κ))}
      {last : Breadcrumb} {middle : Agent κ ν} (held : start.client? id = some client)
      (tour : Tour (Notices host others caller depth id) client.template.trail.callbacks.entries
        breadcrumb start visits true last middle) :
      Pushed breadcrumb start true (middle.addBreadcrumb id last)
        (visits.flatMap (gainedIn id) ++ [last])

/-- What becomes of a breadcrumb that is left. -/
inductive Left (message : String) (kind : BreadcrumbKind) (start : Agent κ ν) :
    Bool → Agent κ ν → List Breadcrumb → Prop
  /-- Its message is no text. -/
  | blank {cause : EventError}
      (blank : Breadcrumb.make start.clock.read.1 message kind = .error cause) :
      Left message kind start false start.readClock.2 []
  | pushed {breadcrumb : Breadcrumb} {accepted : Bool} {final : Agent κ ν}
      {added : List Breadcrumb}
      (made : Breadcrumb.make start.clock.read.1 message kind = .ok breadcrumb)
      (pushed : Pushed host others caller depth id breadcrumb start.readClock.2 accepted final added) :
      Left message kind start accepted final added

end Accounts

section Runs

variable {host : Host κ ν} {others : Agent κ ν → Agent κ ν → Prop} {caller : Option MonitorId}
  {depth : Nat} {id : ClientId} {start agent final : Agent κ ν}

/-- Whoever uses a client finds it as the agent has it. -/
theorem runs_of_get {next : Client κ → Act κ ν α} {result : α}
    (run : Act.Runs others ((surroundings host caller depth id).get >>= next) agent result final) :
    ∃ client, agent.client? id = some client ∧ Act.Runs others (next client) agent result final := by
  obtain ⟨client, middle, got, continued⟩ := run.of_bind
  unfold surroundings at got
  rw [access_get] at got
  cases got with
  | get found =>
    change Act.Runs others ((agent.client? id).elim Act.fail pure) agent client middle at found
    cases held : agent.client? id with
    | none =>
      rw [held] at found
      cases found
    | some held =>
      rw [held] at found
      obtain ⟨rfl, rfl⟩ := found.of_pure
      exact ⟨_, rfl, continued⟩

theorem runs_of_modify {change : Client κ → Client κ} {result : PUnit}
    (run : Act.Runs others ((surroundings host caller depth id).modify change) agent result final) :
    ∃ client, agent.client? id = some client ∧ final = agent.setClient id (change client) := by
  obtain ⟨client, held, run⟩ := runs_of_get run
  exact ⟨client, held, run.of_modify⟩

theorem runs_of_modifyGet {change : Client κ → α × Client κ} {result : α}
    (run : Act.Runs others ((surroundings host caller depth id).modifyGet change) agent result final) :
    ∃ client, agent.client? id = some client ∧ result = (change client).1 ∧
      final = agent.setClient id (change client).2 := by
  obtain ⟨client, held, run⟩ := runs_of_get run
  obtain ⟨_, _, changed, ended⟩ := run.of_bind
  obtain rfl := changed.of_modify
  obtain ⟨rfl, rfl⟩ := ended.of_pure
  exact ⟨client, held, rfl, rfl⟩

/-- An event is handed over to the delivery of the client as it is by then. -/
theorem runs_of_send {event : EventRecord} {status : Option DeliveryStatus}
    (run : Act.Runs others ((surroundings host caller depth id).send event) agent status final) :
    ∃ later, agent.client? id = some later ∧
      Act.Runs others (runScript host caller depth (host.handOver later.delivery event))
        (agent.note (.delivered id later.delivery event)) status final := by
  obtain ⟨later, held, delivered⟩ := runs_of_get run
  refine ⟨later, held, ?_⟩
  obtain ⟨_, noted, delivered, continued⟩ := delivered.of_bind
  obtain rfl := delivered.of_modify
  cases delivery : later.delivery with
  | log =>
    rw [delivery] at continued
    exact continued
  | host function =>
    rw [delivery] at continued
    exact continued
  | native function =>
    rw [delivery] at continued
    unfold runScript Host.handOver
    rw [Program.run_bind]
    exact continued

theorem runs_of_conclude {status : DeliveryStatus} {breadcrumb : Option Breadcrumb} {outcome : Outcome}
    (run : Act.Runs others ((surroundings host caller depth id).conclude status breadcrumb) agent outcome
      final) : outcome = status.outcome ∧ final = agent.conclude id (some status) breadcrumb := by
  cases status with
  | failure =>
    obtain ⟨rfl, rfl⟩ := run.of_pure
    exact ⟨rfl, rfl⟩
  | delivered | undelivered =>
    cases breadcrumb with
    | none =>
      obtain ⟨rfl, rfl⟩ := run.of_pure
      exact ⟨rfl, rfl⟩
    | some breadcrumb =>
      obtain ⟨_, middle, added, ended⟩ := run.of_bind
      obtain rfl := added.of_modify
      obtain ⟨rfl, rfl⟩ := ended.of_pure
      exact ⟨rfl, rfl⟩

/-- The walk past the on-error callbacks is a tour of them. -/
theorem tour_of_consulting {entries : List (CallbackId × κ)} {event last : EventRecord} {accepted : Bool}
    (walked : Act.Runs others (walk (surroundings host caller depth id).consult entries event) agent
      (accepted, last) final) :
    ∃ visits, Tour (Consults host others caller depth id) entries event agent visits accepted last
      final := by
  refine Registry.walk_tour_of (fun _ act state result final => Act.Runs others act state result final)
    Act.Runs.of_pure Act.Runs.of_bind (fun entry _ before start verdict after finish consulted => ?_)
    walked
  obtain ⟨_, noted, told, ran⟩ := consulted.of_bind
  obtain rfl := told.of_modify
  exact ⟨[.consulted id entry.2 before], rfl, ran⟩

/-- The walk past the on-breadcrumb callbacks is a tour of them. -/
theorem tour_of_noticing {entries : List (CallbackId × κ)} {breadcrumb last : Breadcrumb}
    {accepted : Bool}
    (walked : Act.Runs others (walk (surroundings host caller depth id).notice entries breadcrumb) agent
      (accepted, last) final) :
    ∃ visits, Tour (Notices host others caller depth id) entries breadcrumb agent visits accepted last
      final := by
  refine Registry.walk_tour_of (fun _ act state result final => Act.Runs others act state result final)
    Act.Runs.of_pure Act.Runs.of_bind (fun entry _ before start verdict after finish noticed => ?_)
    walked
  obtain ⟨_, noted, told, ran⟩ := noticed.of_bind
  obtain rfl := told.of_modify
  exact ⟨[.noticed id entry.2 before], rfl, ran⟩

/-- **Every report has its account.** -/
theorem report_account {event : EventRecord} {outcome : Option Outcome}
    (run : Act.Runs others ((surroundings host caller depth id).report event) start outcome final) :
    ∃ added, Reported host others caller depth id event start outcome final added := by
  obtain ⟨client, held, run⟩ := runs_of_get run
  cases gate : client.gate? event with
  | some stopped =>
    rw [gate] at run
    obtain ⟨rfl, rfl⟩ := run.of_pure
    exact ⟨_, .stopped held gate⟩
  | none =>
    rw [gate] at run
    obtain ⟨⟨accepted, last⟩, middle, walked, settled⟩ := run.of_bind
    obtain ⟨visits, tour⟩ := tour_of_consulting walked
    cases accepted with
    | false =>
      obtain ⟨rfl, rfl⟩ := settled.of_pure
      exact ⟨_, .vetoed held gate tour⟩
    | true =>
      obtain ⟨now, _, read, settled⟩ := settled.of_bind
      obtain ⟨rfl, rfl⟩ := read.of_modifyGet
      obtain ⟨status, after, sent, concluded⟩ := settled.of_bind
      obtain ⟨later, present, delivered⟩ := runs_of_send sent
      have whole := Reported.handedOver held gate tour present delivered
      rw [← EventRecord.errorBreadcrumb?_eq] at whole
      cases status with
      | none =>
        obtain ⟨rfl, rfl⟩ := concluded.of_pure
        exact ⟨_, whole⟩
      | some status =>
        obtain ⟨_, _, concluded, ended⟩ := concluded.of_bind
        obtain ⟨rfl, rfl⟩ := runs_of_conclude concluded
        obtain ⟨rfl, rfl⟩ := ended.of_pure
        exact ⟨_, whole⟩

theorem notify_account {errorClass : String} {message : Option String} {severity : Severity}
    {answer : Except EventError (Option Outcome)}
    (run : Act.Runs others ((surroundings host caller depth id).notify errorClass message severity) start
      answer final) : ∃ added,
      Notified host others caller depth id errorClass message severity start answer final added := by
  obtain ⟨client, held, run⟩ := runs_of_get run
  cases closed : client.isClosed with
  | true =>
    rw [if_pos closed] at run
    obtain ⟨rfl, rfl⟩ := run.of_pure
    exact ⟨_, .closed held closed⟩
  | false =>
    rw [if_neg (by simp [closed])] at run
    obtain ⟨now, _, read, run⟩ := run.of_bind
    obtain ⟨rfl, rfl⟩ := read.of_modifyGet
    cases made : (client.template.snapshot start.readClock.1).setError errorClass message with
    | error cause =>
      rw [made] at run
      obtain ⟨rfl, rfl⟩ := run.of_pure
      exact ⟨_, .refused held closed made⟩
    | ok event =>
      rw [made] at run
      obtain ⟨outcome, _, reported, ended⟩ := run.of_bind
      obtain ⟨rfl, rfl⟩ := ended.of_pure
      obtain ⟨added, reported⟩ := report_account reported
      exact ⟨added, .reported held closed made reported⟩

theorem reportHang_account {outcome : Option Outcome}
    (run : Act.Runs others (surroundings host caller depth id).reportHang start outcome final) :
    ∃ added, HangReported host others caller depth id start outcome final added := by
  obtain ⟨client, held, run⟩ := runs_of_get run
  obtain ⟨now, _, read, run⟩ := run.of_bind
  obtain ⟨rfl, rfl⟩ := read.of_modifyGet
  obtain ⟨added, reported⟩ := report_account run
  exact ⟨added, .reported held rfl reported⟩

theorem push_account {breadcrumb : Breadcrumb} {accepted : Bool}
    (run : Act.Runs others ((surroundings host caller depth id).trail.push breadcrumb) start accepted
      final) : ∃ added, Pushed host others caller depth id breadcrumb start accepted final added := by
  obtain ⟨trail, _, read, run⟩ := run.of_bind
  obtain ⟨client, held, read⟩ := runs_of_get read
  obtain ⟨rfl, rfl⟩ := read.of_pure
  obtain ⟨⟨accepted, last⟩, middle, walked, settled⟩ := run.of_bind
  obtain ⟨visits, tour⟩ := tour_of_noticing walked
  cases accepted with
  | false =>
    obtain ⟨rfl, rfl⟩ := settled.of_pure
    exact ⟨_, .refused held tour⟩
  | true =>
    obtain ⟨_, _, added, ended⟩ := settled.of_bind
    obtain rfl := added.of_modify
    obtain ⟨rfl, rfl⟩ := ended.of_pure
    exact ⟨_, .added held tour⟩

theorem leave_account {message : String} {kind : BreadcrumbKind} {accepted : Bool}
    (run : Act.Runs others ((surroundings host caller depth id).trail.leave message kind) start accepted
      final) : ∃ added, Left host others caller depth id message kind start accepted final added := by
  obtain ⟨now, _, read, run⟩ := run.of_bind
  obtain ⟨rfl, rfl⟩ := read.of_modifyGet
  cases made : Breadcrumb.make start.readClock.1 message kind with
  | error cause =>
    rw [made] at run
    obtain ⟨rfl, rfl⟩ := run.of_pure
    exact ⟨_, .blank made⟩
  | ok breadcrumb =>
    rw [made] at run
    obtain ⟨added, pushed⟩ := push_account run
    exact ⟨added, .pushed made pushed⟩

end Runs

end Agent

end CrashReporter
