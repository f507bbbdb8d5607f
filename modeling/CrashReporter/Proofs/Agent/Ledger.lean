/-
**The breadcrumbs of reported events.**

An event that is made from the template carries the breadcrumbs that the trail holds. As long as nobody
clears the trail, these are the latest of its history. What the history gains in the course of a call is
listed by the account of the call, if everything that is asked for on the way retains the trail
(`Reported.gains`, `Pushed.gains`): what its callbacks and its delivery had added, and at the end its own
breadcrumb, if it has one.

`events_carry_history`: each event that is made carries the latest breadcrumbs of the history up to the start
of its call, and each call adds to the history what its account lists.
-/

import CrashReporter.Proofs.Agent.Account

namespace CrashReporter

open Registry (Tour Visit)

variable {κ ν α : Type}

/-- An error leaves the breadcrumbs of its event. -/
theorem EventRecord.breadcrumbs_of_setError {event named : EventRecord} {errorClass : String}
    {message : Option String} (made : event.setError errorClass message = .ok named) :
    named.breadcrumbs = event.breadcrumbs := by
  unfold setError at made
  cases valid : ErrorInfo.make errorClass message with
  | error cause =>
    rw [valid] at made
    cases made
  | ok error =>
    rw [valid] at made
    cases made
    rfl

/-- A call that reads its client, or changes it at once, and leaves the trail. -/
def ClientCall.IsQuiet : ClientCall κ → Prop
  | .notify .. => False
  | .report _ => False
  | .reportHang => False
  | .leave .. => False
  | .push _ => False
  | .clearTrail => False
  | .disableHangs => False
  | .close => False
  | _ => True

/-- A call that leaves the trail, apart from what it adds, and does not wait for a monitor. -/
def ClientCall.IsDeed : ClientCall κ → Prop
  | .clearTrail => False
  | .disableHangs => False
  | .close => False
  | _ => True

namespace Agent

section Ledger

variable (host : Host κ ν) (others : Agent κ ν → Agent κ ν → Prop) (caller : Option MonitorId)
  (depth : Nat) (id : ClientId)

/-- A call in the ledger of a client. An event that it makes carries these breadcrumbs, and what it adds to
the trail is listed at the end. -/
inductive Recorded (carried : List (Text × BreadcrumbKind × Dictionary Json)) (start : Agent κ ν) :
    (call : ClientCall κ) → call.Answer → Agent κ ν → List Breadcrumb → Prop
  | notify {errorClass : String} {message : Option String} {severity : Severity}
      {event : EventRecord} {outcome : Option Outcome} {final : Agent κ ν} {added : List Breadcrumb}
      (carries : event.breadcrumbs.map Breadcrumb.bare = carried)
      (reported : Reported host others caller depth id event start.readClock.2 outcome final added) :
      Recorded carried start (.notify errorClass message severity) (.ok outcome) final added
  /-- A closed client makes no event. -/
  | closed {errorClass : String} {message : Option String} {severity : Severity} :
      Recorded carried start (.notify errorClass message severity) (.ok (some .closed)) start []
  /-- The error is none. -/
  | refused {errorClass : String} {message : Option String} {severity : Severity}
      {cause : EventError} :
      Recorded carried start (.notify errorClass message severity) (.error cause) start.readClock.2 []
  | reportHang {event : EventRecord} {outcome : Option Outcome} {final : Agent κ ν}
      {added : List Breadcrumb} (carries : event.breadcrumbs.map Breadcrumb.bare = carried)
      (reported : Reported host others caller depth id event start.readClock.2 outcome final added) :
      Recorded carried start .reportHang outcome final added
  | report {event : EventRecord} {outcome : Option Outcome} {final : Agent κ ν}
      {added : List Breadcrumb}
      (reported : Reported host others caller depth id event start outcome final added) :
      Recorded carried start (.report event) outcome final added
  | leave {message : String} {kind : BreadcrumbKind} {accepted : Bool} {final : Agent κ ν}
      {added : List Breadcrumb}
      (left : Left host others caller depth id message kind start accepted final added) :
      Recorded carried start (.leave message kind) accepted final added
  | push {breadcrumb : Breadcrumb} {accepted : Bool} {final : Agent κ ν} {added : List Breadcrumb}
      (pushed : Pushed host others caller depth id breadcrumb start accepted final added) :
      Recorded carried start (.push breadcrumb) accepted final added
  | quiet {call : ClientCall κ} {answer : call.Answer} {final : Agent κ ν} (quiet : call.IsQuiet) :
      Recorded carried start call answer final []

end Ledger

section Gains

variable {host : Host κ ν} {caller : Option MonitorId} {depth : Nat} {id : ClientId}
  {start middle final : Agent κ ν} {added : List Breadcrumb}

/-- In a host that retains the trail, a script keeps the trail up with its history. -/
theorem continues_of_runScript (retains : host.Asks (Request.Retains id)) {script : Script κ ν α}
    (asks : script.Asks (Request.Retains id)) {result : α}
    (run : Act.Runs (Continues id) (runScript host caller depth script) start result final) :
    Continues id start final :=
  run.leads_of_leadsFrom (runScript_leads (tolerates_continues id) retains caller depth asks start)

theorem continues_note (agent : Agent κ ν) (happening : Happening κ) (call : happening.IsCall) :
    Continues id agent (agent.note happening) :=
  .of_eq (historyOf_note_call call agent) fun client held => ⟨client, held, rfl, rfl⟩

theorem continues_readClock (agent : Agent κ ν) : Continues id agent agent.readClock.2 :=
  .of_eq rfl fun client held => ⟨client, held, rfl, rfl⟩

/-- From one agent to a later one the trail kept up with its history, which gained these breadcrumbs. -/
structure Gains (id : ClientId) (agent : Agent κ ν) (added : List Breadcrumb) (later : Agent κ ν) :
    Prop where
  continues : Continues id agent later
  gained : gained id agent later = added

theorem Gains.of_continues (continues : Continues id start final) :
    Gains id start (Agent.gained id start final) final :=
  ⟨continues, rfl⟩

theorem Gains.nil (agent : Agent κ ν) : Gains id agent [] agent :=
  ⟨refl_of (Continues id) agent, gained_of_eq rfl⟩

theorem Gains.append {rest : List Breadcrumb} (first : Gains id start added middle)
    (second : Gains id middle rest final) : Gains id start (added ++ rest) final := by
  refine ⟨first.continues.trans second.continues, ?_⟩
  rw [gained_trans first.continues.history second.continues.history, first.gained, second.gained]

theorem Gains.addBreadcrumb {client : Client κ} (held : start.client? id = some client)
    (breadcrumb : Breadcrumb) : Gains id start [breadcrumb] (start.addBreadcrumb id breadcrumb) :=
  ⟨continues_addBreadcrumb start breadcrumb, gained_of_append (historyOf_addBreadcrumb held breadcrumb)⟩

/-- A tour of the on-error callbacks gains what its visits gain. -/
theorem gains_of_consulting (retains : host.Asks (Request.Retains id)) {entries : List (CallbackId × κ)}
    {event last : EventRecord} {visits : List (Visit κ EventRecord (Agent κ ν) (Happening κ))}
    {accepted : Bool} (tour : Tour (Consults host (Continues id) caller depth id) entries event start
      visits accepted last final) : Gains id start (visits.flatMap (gainedIn id)) final := by
  refine tour.leads (gainedIn id) Gains.nil Gains.append fun visit genuine => ?_
  exact .of_continues ((continues_note visit.start (.consulted id visit.entry.2 visit.before) trivial).trans
    (continues_of_runScript retains (retains.onError _ _) genuine.ran))

/-- A tour of the on-breadcrumb callbacks gains what its visits gain. -/
theorem gains_of_noticing (retains : host.Asks (Request.Retains id)) {entries : List (CallbackId × κ)}
    {breadcrumb last : Breadcrumb} {visits : List (Visit κ Breadcrumb (Agent κ ν) (Happening κ))}
    {accepted : Bool} (tour : Tour (Notices host (Continues id) caller depth id) entries breadcrumb start
      visits accepted last final) : Gains id start (visits.flatMap (gainedIn id)) final := by
  refine tour.leads (gainedIn id) Gains.nil Gains.append fun visit genuine => ?_
  exact .of_continues ((continues_note visit.start (.noticed id visit.entry.2 visit.before) trivial).trans
    (continues_of_runScript retains (retains.onBreadcrumb _ _) genuine.ran))

theorem retains_handOver (retains : host.Asks (Request.Retains id)) (delivery : Delivery κ)
    (event : EventRecord) : (host.handOver delivery event).Asks (Request.Retains id) := by
  cases delivery with
  | log => trivial
  | host function => exact retains.deliver function event
  | native function => exact (retains.deliverNative function event).bind fun _ => trivial

/-- A report that was handed over adds its own breadcrumb if it was sent. -/
theorem gains_conclude {client : Client κ} (held : start.client? id = some client)
    (status : Option DeliveryStatus) (error : Option ErrorInfo) (now : Instant) :
    Gains id start (ownBreadcrumbs (status.map DeliveryStatus.outcome) error now)
      (start.conclude id status (error.map (ErrorInfo.breadcrumb · now))) := by
  cases error with
  | none =>
    have silent : ownBreadcrumbs (status.map DeliveryStatus.outcome) none now = [] := ite_self []
    rw [silent]
    cases status with
    | none => exact .nil start
    | some status => cases status <;> exact .nil start
  | some error =>
    cases status with
    | none => exact .nil start
    | some status =>
      cases status with
      | delivered | undelivered => exact .addBreadcrumb held _
      | failure => exact .nil start

/-- **What the account of a report lists is what the history gains.** -/
theorem Reported.gains (retains : host.Asks (Request.Retains id)) {event : EventRecord}
    {outcome : Option Outcome}
    (reported : Reported host (Continues id) caller depth id event start outcome final added) :
    Gains id start added final := by
  cases reported with
  | stopped held gate => exact .nil start
  | vetoed held passed tour => exact gains_of_consulting retains tour
  | handedOver held passed tour present delivered =>
    rename_i client later visits last middle after status
    have handed : Continues id middle after :=
      ((continues_readClock middle).trans (continues_note _ (.delivered id later.delivery last) trivial)).trans
        (continues_of_runScript retains (retains_handOver retains _ _) delivered)
    obtain ⟨_, still, _⟩ := handed.trail later present
    exact ((gains_of_consulting retains tour).append (.of_continues handed)).append
      (gains_conclude still status last.error middle.clock.read.1)

theorem Pushed.gains (retains : host.Asks (Request.Retains id)) {breadcrumb : Breadcrumb}
    {accepted : Bool}
    (pushed : Pushed host (Continues id) caller depth id breadcrumb start accepted final added) :
    Gains id start added final := by
  cases pushed with
  | refused held tour => exact gains_of_noticing retains tour
  | added held tour =>
    have toured := gains_of_noticing retains tour
    obtain ⟨_, still, _⟩ := toured.continues.trail _ held
    exact toured.append (.addBreadcrumb still _)

theorem Left.gains (retains : host.Asks (Request.Retains id)) {message : String} {kind : BreadcrumbKind}
    {accepted : Bool}
    (left : Left host (Continues id) caller depth id message kind start accepted final added) :
    Gains id start added final := by
  have read : Gains id start [] start.readClock.2 := ⟨continues_readClock start, gained_of_eq rfl⟩
  cases left with
  | blank blank => exact read
  | pushed made pushed => exact read.append (pushed.gains retains)

/-- A change of the client that leaves the trail gains nothing. -/
theorem gains_of_made {call : ClientCall κ} {change : Client κ → Client κ} {client : Client κ}
    (made : call.Makes change) (quiet : call.IsQuiet) (held : start.client? id = some client) :
    Gains id start [] (start.setClient id (change client)) := by
  obtain ⟨capacity, entries⟩ := made.trail (by rintro rfl; exact quiet) client
  exact ⟨continues_setClient held capacity entries, gained_of_eq rfl⟩

theorem gains_of_quiet {call : ClientCall κ} (quiet : call.IsQuiet) {answer : call.Answer}
    (run : Act.Runs (Continues id) ((surroundings host caller depth id).answer call) start answer final) :
    Gains id start [] final := by
  have modified {change : Client κ → Client κ} {result : PUnit} (made : call.Makes change)
      (run : Act.Runs (Continues id) ((surroundings host caller depth id).modify change) start result
        final) : Gains id start [] final := by
    obtain ⟨client, held, rfl⟩ := runs_of_modify run
    exact gains_of_made made quiet held
  have answered {α : Type} {change : Client κ → α × Client κ} {result : α} {begun : Agent κ ν}
      (made : call.Makes fun client => (change client).2)
      (run : Act.Runs (Continues id) ((surroundings host caller depth id).modifyGet change) begun result
        final) : Gains id begun [] final := by
    obtain ⟨client, held, _, rfl⟩ := runs_of_modifyGet run
    exact gains_of_made made quiet held
  cases call with
  | inspect =>
    have read : Act.Runs (Continues id) ((surroundings host caller depth id).get >>= pure) start answer
        final := by rwa [bind_pure]
    obtain ⟨client, held, ended⟩ := runs_of_get read
    obtain ⟨_, rfl⟩ := ended.of_pure
    exact .nil start
  | write change => exact modified (.write change) run
  | setDelivery delivery => exact modified (.setDelivery delivery) run
  | addOnError callback => exact answered (.addOnError callback) run
  | removeOnError callback => exact answered (.removeOnError callback) run
  | addOnBreadcrumb callback => exact answered (.addOnBreadcrumb callback) run
  | removeOnBreadcrumb callback => exact answered (.removeOnBreadcrumb callback) run
  | enableHangs buffer =>
    obtain ⟨sight, _, looked, run⟩ := run.of_bind
    obtain ⟨rfl, rfl⟩ := looked.of_gets
    exact answered (.enableHangs buffer _) run
  | _ => exact quiet.elim

/-- A trail holds its own entries. -/
theorem holds_entries (trail : Trail κ) : trail.Holds trail.entries := by
  unfold Trail.Holds List.rtake
  rw [List.length_map, Nat.sub_eq_zero_of_le trail.entries_fit, List.drop_zero]

/-- The latest breadcrumbs of a history that starts with those of a client, as many as fit. -/
def carriedBy (client : Client κ) (added : List Breadcrumb) :
    List (Text × BreadcrumbKind × Dictionary Json) :=
  ((client.template.trail.entries ++ added).map Breadcrumb.bare).rtake client.template.trail.capacity

/-- The trail of a later client holds the latest breadcrumbs of the history. -/
theorem Continues.carried {agent : Agent κ ν} {client present : Client κ}
    (continues : Continues id agent start) (held : agent.client? id = some client)
    (found : start.client? id = some present) :
    present.template.trail.entries.map Breadcrumb.bare = carriedBy client (gained id agent start) := by
  obtain ⟨other, same, capacity, gains⟩ := continues.trail client held
  obtain rfl := Option.some_inj.mp (same.symm.trans found)
  have holds := gains _ (holds_entries client.template.trail)
  unfold Trail.Holds at holds
  rw [holds, capacity]
  rfl

/-- **A call is recorded in the ledger.** -/
theorem recorded_of_runs (retains : host.Asks (Request.Retains id)) {agent : Agent κ ν}
    {client : Client κ} (held : agent.client? id = some client) (continues : Continues id agent start)
    {call : ClientCall κ} (deed : call.IsDeed) {answer : call.Answer}
    (run : Act.Runs (Continues id) ((surroundings host caller depth id).answer call) start answer final) :
    ∃ added, Gains id start added final ∧
      Recorded host (Continues id) caller depth id (carriedBy client (gained id agent start)) start call
        answer final added := by
  cases call with
  | notify errorClass message severity =>
    obtain ⟨added, notified⟩ := notify_account run
    cases notified with
    | closed found closed => exact ⟨[], .nil start, .closed⟩
    | refused found unclosed refused =>
      exact ⟨[], ⟨continues_readClock start, gained_of_eq rfl⟩, .refused⟩
    | reported found unclosed made reported =>
      have read : Gains id start [] start.readClock.2 := ⟨continues_readClock start, gained_of_eq rfl⟩
      refine ⟨added, read.append (reported.gains retains), .notify ?_ reported⟩
      exact (congrArg _ (EventRecord.breadcrumbs_of_setError made)).trans (continues.carried held found)
  | report event =>
    obtain ⟨added, reported⟩ := report_account run
    exact ⟨added, reported.gains retains, .report reported⟩
  | reportHang =>
    obtain ⟨added, ⟨found, made, reported⟩⟩ := reportHang_account run
    have read : Gains id start [] start.readClock.2 := ⟨continues_readClock start, gained_of_eq rfl⟩
    refine ⟨added, read.append (reported.gains retains), .reportHang ?_ reported⟩
    exact (congrArg _ (EventRecord.breadcrumbs_of_setError made)).trans (continues.carried held found)
  | leave message kind =>
    obtain ⟨added, left⟩ := leave_account run
    exact ⟨added, left.gains retains, .leave left⟩
  | push breadcrumb =>
    obtain ⟨added, pushed⟩ := push_account run
    exact ⟨added, pushed.gains retains, .push pushed⟩
  | clearTrail | disableHangs | close => exact deed.elim
  | _ => exact ⟨[], gains_of_quiet (by trivial) run, .quiet (by trivial)⟩

end Gains

/-- **Events carry the latest breadcrumbs of the history.**

Let nothing clear the trail of a client that a host, a script of the owner or any other script asks for. Then
the history of the client only grows, whoever does something. At whatever moment a call on the client starts,
of the owner, of a monitor or of a callback: an event that is made carries the latest breadcrumbs of the
history up to then, as many as fit; and in the course of the call the history gains what is recorded of
it, namely what its callbacks and its delivery had added, and its own breadcrumb at the end. That is the one
that was left, if its callbacks accept it; or that of the error, if the event of a report was sent. -/
theorem events_carry_history {host : Host κ ν} {id : ClientId} (retains : host.Asks (Request.Retains id))
    {agent : Agent κ ν} {client : Client κ} (held : agent.client? id = some client) :
    (∀ depth count (script : Script κ ν α) result schedule, script.Asks (Request.Retains id) →
      (Schedule.start agent).run host depth count script = some (result, schedule) →
        Continues id agent schedule.agent ∧
        ∀ (call : ClientCall κ) answer final,
          schedule.run host depth count (Program.request (.call id call)) = some (answer, final) →
            Act.Runs (Continues id) (perform host none depth (.call id call)) schedule.agent answer
              final.agent) ∧
    ∀ start, Continues id agent start → ∀ caller depth,
      (∀ (script : Script κ ν α) result final, script.Asks (Request.Retains id) →
        Act.Runs (Continues id) (runScript host caller depth script) start result final →
          Continues id agent final) ∧
      ∀ (call : ClientCall κ) answer final, call.IsDeed →
        Act.Runs (Continues id) (perform host caller (depth + 1) (.call id call)) start answer final →
          ∃ added, final.historyOf id = start.historyOf id ++ added ∧
            Recorded host (Continues id) caller depth id (carriedBy client (gained id agent start)) start
              call answer final added := by
  refine ⟨fun depth count script result schedule asks ran => ?_, fun start continues caller depth =>
    ⟨?_, ?_⟩⟩
  · have keeps := keeps_of_tolerates (tolerates_continues id) retains depth
    obtain ⟨runs, proper⟩ := Schedule.runs_of_run keeps (Schedule.start_proper _ agent) ran
    exact ⟨continues_of_runScript retains asks runs, fun call answer final called =>
      (Schedule.runs_of_request keeps proper called).1⟩
  · exact fun script result final asks runs => continues.trans (continues_of_runScript retains asks runs)
  · intro call answer final deed runs
    obtain ⟨added, gains, recorded⟩ := recorded_of_runs retains held continues deed runs
    refine ⟨added, ?_, recorded⟩
    rw [historyOf_eq_append gains.continues.history, gains.gained]

/-- The on-error callback leaves a breadcrumb; every event is delivered. -/
def chatty : Host Nat Unit where
  onError _ event := do
    let _ ← onFirst (.leave "seen" .user)
    pure (.accept, event)
  onBreadcrumb _ breadcrumb := pure (.accept, breadcrumb)
  deliver _ _ := pure (some .delivered)
  deliverNative _ _ := pure 0

/-- One breadcrumb and one report. -/
def opening : Script Nat Unit (Except EventError (Option Outcome)) := do
  let _ ← onFirst (.leave "opened" .state)
  onFirst (.notify "First" none .error)

def messages (breadcrumbs : List Breadcrumb) : List String := breadcrumbs.map (·.message.content)

/-- A second report: its event carries the latest two of three breadcrumbs, namely that of the callback and
that of the first error. -/
theorem events_carry_history_chatty :
    ∃ result schedule answer final added,
      (Schedule.start (office false)).run chatty 4 0 opening = some (result, schedule) ∧
      schedule.run chatty 4 0 (onFirst (.notify "Second" none .error)) = some (answer, final) ∧
      messages (gained ⟨0⟩ (office false) schedule.agent) = ["opened", "seen", "First"] ∧
      final.agent.historyOf ⟨0⟩ = schedule.agent.historyOf ⟨0⟩ ++ added ∧
      messages added = ["seen", "Second"] ∧
      Recorded chatty (Continues ⟨0⟩) none 3 ⟨0⟩
        (carriedBy (shop false) (gained ⟨0⟩ (office false) schedule.agent)) schedule.agent
        (.notify "Second" none .error) answer final.agent added := by
  have both : (((Schedule.start (office false)).run chatty 4 0 opening).bind fun (_, schedule) =>
      (schedule.run chatty 4 0 (onFirst (.notify "Second" none .error))).map fun (_, final) =>
        (messages (gained ⟨0⟩ (office false) schedule.agent),
          messages (schedule.agent.historyOf ⟨0⟩), messages (final.agent.historyOf ⟨0⟩))) =
      some (["opened", "seen", "First"], ["opened", "seen", "First"],
        ["opened", "seen", "First", "seen", "Second"]) := by decide +kernel
  obtain ⟨⟨result, schedule⟩, first, both⟩ := Option.bind_eq_some_iff.mp both
  obtain ⟨⟨answer, final⟩, second, told⟩ := Option.map_eq_some_iff.mp both
  obtain ⟨gains, before, after⟩ : _ ∧ _ ∧ _ := by simpa only [Prod.mk.injEq] using told
  have retains : chatty.Asks (Request.Retains ⟨0⟩) :=
    ⟨fun _ _ => ⟨trivial, fun _ => trivial⟩, fun _ _ => trivial, fun _ _ => trivial, fun _ _ => trivial⟩
  have asks : opening.Asks (Request.Retains ⟨0⟩) := ⟨trivial, fun _ => ⟨trivial, fun _ => trivial⟩⟩
  obtain ⟨schedules, calls⟩ :=
    events_carry_history retains (show (office false).client? ⟨0⟩ = some (shop false) from rfl)
  obtain ⟨continues, called⟩ := schedules 4 0 opening result schedule asks first
  obtain ⟨added, grown, recorded⟩ := (calls schedule.agent continues none 3).2
    (.notify "Second" none .error) answer final.agent trivial (called _ _ _ second)
  refine ⟨result, schedule, answer, final, added, first, second, gains, grown, ?_, recorded⟩
  rw [grown] at after
  have split : messages (schedule.agent.historyOf ⟨0⟩ ++ added) =
      messages (schedule.agent.historyOf ⟨0⟩) ++ messages added := List.map_append
  rw [split, before] at after
  exact List.append_cancel_left (show ["opened", "seen", "First"] ++ messages added =
    ["opened", "seen", "First"] ++ ["seen", "Second"] from after)

end Agent

end CrashReporter
