/-
**What becomes of a report, gate by gate.**

The gates look at the event as it was reported, in this order: a closed client, a class that is never
reported (`Client.Discards`), a release stage that is not enabled (`Client.Filters`). An event that is
stopped by one of them leaves the whole agent as it was. Any other one takes a tour of the on-error
callbacks, and unless one of them refuses it, it is handed over as the last of them left it
(`HandedOver`).

* `EventRecord.errorBreadcrumb?_eq`: the breadcrumb of a report is that of the event's error;
* `report_decided`: the outcome of a report, what is called on the way, and what it leaves behind.
-/

import CrashReporter.Proofs.Agent.Untouched
import CrashReporter.Proofs.Registry.Tour
import CrashReporter.Proofs.Text.Content

namespace CrashReporter

open Registry (Tour Visit walk)

variable {κ ν : Type}

/-! ### The breadcrumb of a report -/

/-- The breadcrumb of an error, made at the moment `now`. -/
def ErrorInfo.breadcrumb (error : ErrorInfo) (now : Instant) : Breadcrumb where
  timestamp := now
  message := error.errorClass
  kind := .error
  metadata :=
    match error.message with
    | some message => [("message", .ofText message)]
    | none => []

/-- An event has the breadcrumb of its error, and none if it describes no error. -/
theorem EventRecord.errorBreadcrumb?_eq (event : EventRecord) (now : Instant) :
    event.errorBreadcrumb? now = event.error.map (ErrorInfo.breadcrumb · now) := by
  unfold errorBreadcrumb? errorClass? errorMessage?
  cases event.error with
  | none => rfl
  | some error =>
    have made : Breadcrumb.make now error.errorClass.content .error =
        .ok ⟨now, error.errorClass, .error, []⟩ := by
      unfold Breadcrumb.make
      rw [Text.ofString?_content]
    simp only [Option.map_some, Option.bind_some, made, ErrorInfo.breadcrumb]
    cases error.message with
    | none => rfl
    | some message => rfl

/-! ### The gates -/

namespace Client

/-- The class of an event's error is one of those that are never reported. -/
def Discards (client : Client κ) (event : EventRecord) : Prop :=
  ∃ error, event.error = some error ∧
    error.errorClass.content ∈ client.settings.release.discardClasses

/-- The release stage of an event is not one of those that are enabled. -/
def Filters (client : Client κ) (event : EventRecord) : Prop :=
  ∃ stages stage, client.settings.release.enabledStages = some stages ∧
    event.app.releaseStage = some stage ∧ stage.content ∉ stages

variable {client : Client κ} {event : EventRecord}

theorem discards_iff : client.settings.release.discards (event.errorClass?.map Text.content) = true ↔
    client.Discards event := by
  unfold Discards ReleaseSettings.discards EventRecord.errorClass?
  cases event.error with
  | none => simp
  | some error => simp

theorem allows_iff :
    client.settings.release.allows (event.app.releaseStage.map Text.content) = true ↔
      ¬ client.Filters event := by
  unfold Filters ReleaseSettings.allows
  cases client.settings.release.enabledStages with
  | none => simp
  | some stages =>
    cases event.app.releaseStage with
    | none => simp
    | some stage => simp

theorem gate?_closed (closed : client.isClosed = true) : client.gate? event = some .closed := by
  unfold gate?
  rw [if_pos closed]

theorem gate?_discarded (unclosed : client.isClosed = false) (discards : client.Discards event) :
    client.gate? event = some .discarded := by
  unfold gate?
  rw [if_neg (by simp [unclosed]), if_pos (discards_iff.mpr discards)]

theorem gate?_filtered (unclosed : client.isClosed = false) (keeps : ¬ client.Discards event)
    (filters : client.Filters event) : client.gate? event = some .filtered := by
  unfold gate?
  rw [if_neg (by simp [unclosed]), if_neg (mt discards_iff.mp keeps),
    if_neg (mt allows_iff.mp (not_not_intro filters))]

theorem gate?_none (unclosed : client.isClosed = false) (keeps : ¬ client.Discards event)
    (allows : ¬ client.Filters event) : client.gate? event = none := by
  unfold gate?
  rw [if_neg (by simp [unclosed]), if_neg (mt discards_iff.mp keeps), if_pos (allows_iff.mpr allows)]

end Client

/-! ### What is called, and what it leaves of the client -/

/-- What a delivery does with an event. -/
def Host.handOver (host : Host κ ν) : Delivery κ → EventRecord → Script κ ν (Option DeliveryStatus)
  | .log, _ => pure (some .delivered)
  | .host function, event => host.deliver function event
  | .native function, event => do
    let code ← host.deliverNative function event
    pure (some (.ofCode code))

/-- The on-error callbacks and the delivery of a client leave it alone. -/
structure Client.LeftAlone (host : Host κ ν) (id : ClientId) (client : Client κ) : Prop where
  onError : ∀ entry ∈ client.onError.entries, ∀ event,
    (host.onError entry.2 event).Asks (Request.Spares host id)
  delivery : ∀ event, (host.handOver client.delivery event).Asks (Request.Spares host id)

/-- A request that is no call on a client. -/
def Request.IsPlain : Request κ ν → Prop
  | .call _ _ => False
  | _ => True

/-- The on-error callbacks and the delivery of a client call no client, and the delivery gives a status. -/
structure Client.IsCalm (host : Host κ ν) (client : Client κ) : Prop where
  onError : ∀ entry ∈ client.onError.entries, ∀ event,
    (host.onError entry.2 event).Asks Request.IsPlain
  delivery : ∀ event, (host.handOver client.delivery event).Asks Request.IsPlain
  status : ∀ event, (host.handOver client.delivery event).Gives fun status => status.isSome

theorem Request.spares_of_plain {host : Host κ ν} {id : ClientId} (request : Request κ ν)
    (plain : request.IsPlain) : request.Spares host id := by
  cases request with
  | call other task => exact plain.elim
  | _ => trivial

theorem Client.IsCalm.leftAlone {host : Host κ ν} {client : Client κ} (calm : client.IsCalm host)
    (id : ClientId) : client.LeftAlone host id where
  onError entry member event := (calm.onError entry member event).imp Request.spares_of_plain
  delivery event := (calm.delivery event).imp Request.spares_of_plain

namespace Agent

section Report

variable (host : Host κ ν) (caller : Option MonitorId) (depth : Nat) (id : ClientId)

/-- Reports an event to a client while nobody else acts, with calls nested at most as deep as given. -/
def reportAlone (event : EventRecord) : StateT (Agent κ ν) Option (Option Outcome) :=
  (perform host caller depth (.call id (.report event))).alone

/-- A visit of an on-error callback: it is noted, the callback makes of the event what it does when run,
and the client stays as it was. -/
structure Consulted (visit : Visit κ EventRecord (Agent κ ν) (Happening κ)) : Prop where
  marks : visit.marks = [.consulted id visit.entry.2 visit.before]
  ran : (runScript host caller depth (host.onError visit.entry.2 visit.before)).alone.run
    (visit.start.note (.consulted id visit.entry.2 visit.before)) =
      some ((visit.verdict, visit.after), visit.finish)
  told : Tells id visit.start visit.marks visit.finish

/-- An event is handed over once, which gives a status and leads to the agent `after`; a breadcrumb of its
error follows if it was sent. -/
structure HandedOver (client : Client κ) (event : EventRecord) (start : Agent κ ν)
    (status : Option DeliveryStatus) (after : Agent κ ν) (result : Option Outcome)
    (final : Agent κ ν) : Prop where
  ran : (runScript host caller depth (host.handOver client.delivery event)).alone.run
    (start.readClock.2.note (.delivered id client.delivery event)) = some (status, after)
  /-- The client stays as it was, and nothing but the delivery is called. -/
  told : Tells id start [.delivered id client.delivery event] after
  outcome : result = status.map DeliveryStatus.outcome
  /-- The error of an event that was sent, now or for later, is added to the trail once. -/
  sent : result = some .delivered ∨ result = some .undelivered → ∀ error, event.error = some error →
    final.client? id = some (client.setTrail
      (client.template.trail.append after.clock.read.1 (error.breadcrumb start.clock.read.1))) ∧
    final.journalOf id = .added id (error.breadcrumb start.clock.read.1) :: after.journalOf id
  /-- Otherwise nothing happens any more. -/
  unsent : ¬ (result = some .delivered ∨ result = some .undelivered) ∨ event.error = none →
    final = after

end Report

/-! ### The steps of a report -/

/-- What follows the callbacks of a report. -/
def settle {m : Type → Type} [Monad m] (access : Client.Access κ m) (accepted : Bool)
    (event : EventRecord) : m (Option Outcome) := do
  if accepted then do
    let now ← access.now
    match ← access.send event with
    | some status => do
      let outcome ← access.conclude status (event.errorBreadcrumb? now)
      pure (some outcome)
    | none => pure none
  else pure (some .vetoed)

/-- A client as the callers of a report use it. -/
def surroundings (host : Host κ ν) (caller : Option MonitorId) (depth : Nat) (id : ClientId) :
    Client.Access κ (Act κ ν) :=
  access host caller (runScript host caller depth) id

section Steps

variable {host : Host κ ν} {caller : Option MonitorId} {depth : Nat} {id : ClientId}
  {agent final : Agent κ ν} {client : Client κ} {event : EventRecord}

/-- A report reads the client, asks the gates, and unless one of them stops the event, takes it past the
callbacks and settles it. -/
theorem reportAlone_eq (event : EventRecord) :
    reportAlone host caller (depth + 1) id event =
      (do
        let client ← (surroundings host caller depth id).get
        match client.gate? event with
        | some outcome => pure (some outcome)
        | none => do
          let (accepted, event) ←
            walk (surroundings host caller depth id).consult client.onError.entries event
          settle (surroundings host caller depth id) accepted event : Act κ ν (Option Outcome)).alone :=
  rfl

theorem get_run (held : agent.client? id = some client) :
    (surroundings host caller depth id).get.alone.run agent = some (client, agent) := by
  have read : (get : Act κ ν (Agent κ ν)).alone.run agent = some (agent, agent) := rfl
  unfold surroundings access
  dsimp only
  rw [Act.alone_bind, StateT.run_bind, read, Option.bind_eq_bind, Option.bind_some, held]
  rfl

/-- An event that is stopped at a gate leaves the agent as it was. -/
theorem reportAlone_stopped {outcome : Outcome} (held : agent.client? id = some client)
    (stopped : client.gate? event = some outcome) :
    (reportAlone host caller (depth + 1) id event).run agent = some (some outcome, agent) := by
  rw [reportAlone_eq, Act.alone_bind]
  show ((surroundings host caller depth id).get.alone.run agent).bind _ = _
  rw [get_run held, Option.bind_some]
  dsimp only
  rw [stopped]
  rfl

/-- What a callback is called for is noted, and then it runs. -/
theorem consult_run (callback : κ) (event : EventRecord) (agent : Agent κ ν) :
    ((surroundings host caller depth id).consult callback event).alone.run agent =
      (runScript host caller depth (host.onError callback event)).alone.run
        (agent.note (.consulted id callback event)) :=
  rfl

theorem consulted_of_run {entry : CallbackId × κ} {before after : EventRecord} {verdict : Verdict}
    (asks : (host.onError entry.2 before).Asks (Request.Spares host id))
    (ran : ((surroundings host caller depth id).consult entry.2 before).alone.run agent =
      some ((verdict, after), final)) :
    Consulted host caller depth id
      ⟨entry, before, agent, [.consulted id entry.2 before], verdict, after, final⟩ := by
  rw [consult_run] at ran
  have noted := Tells.note (.consulted id entry.2 before) rfl agent
  exact ⟨rfl, ran, noted.append (runScript_spares caller depth asks _ _ _ ran)⟩

/-- An event that passes the gates is taken past the callbacks and settled. -/
theorem reportAlone_passed (held : agent.client? id = some client)
    (passed : client.gate? event = none) :
    (reportAlone host caller (depth + 1) id event).run agent =
      ((walk (fun callback event => ((surroundings host caller depth id).consult callback event).alone)
        client.onError.entries event).run agent).bind fun ((accepted, last), middle) =>
          (settle (surroundings host caller depth id) accepted last).alone.run middle := by
  rw [reportAlone_eq, Act.alone_bind]
  show ((surroundings host caller depth id).get.alone.run agent).bind _ = _
  rw [get_run held, Option.bind_some]
  dsimp only
  rw [passed]
  dsimp only
  rw [Act.alone_bind]
  unfold Act.alone
  rw [Registry.run_walk]
  rfl

/-- The walk past the callbacks is a tour of them. -/
theorem tour_of_walk {accepted : Bool} {last : EventRecord} (alone : client.LeftAlone host id)
    (walked : (walk (fun callback event =>
        ((surroundings host caller depth id).consult callback event).alone)
      client.onError.entries event).run agent = some ((accepted, last), final)) :
    ∃ visits, Tour (Consulted host caller depth id) client.onError.entries event agent visits accepted
      last final :=
  Registry.walk_tour (fun entry member before _ _ _ _ ran =>
    ⟨_, consulted_of_run (alone.onError entry member before) ran⟩) walked

/-- The tour of the callbacks leaves the client as it was, and the journal tells of the visits. -/
theorem tells_of_tour {visits : List (Visit κ EventRecord (Agent κ ν) (Happening κ))} {accepted : Bool}
    {last : EventRecord} (tour : Tour (Consulted host caller depth id) client.onError.entries event agent
      visits accepted last final) : Tells id agent (visits.flatMap Visit.marks) final :=
  tour.leads Visit.marks (Tells.nil id) Tells.append fun _ genuine => genuine.told

/-- Handing an event over is noted, and then the delivery runs. -/
theorem send_run (held : agent.client? id = some client) (event : EventRecord) :
    ((surroundings host caller depth id).send event).alone.run agent =
      (runScript host caller depth (host.handOver client.delivery event)).alone.run
        (agent.note (.delivered id client.delivery event)) := by
  unfold Client.Access.send
  rw [Act.alone_bind]
  show ((surroundings host caller depth id).get.alone.run agent).bind _ = _
  rw [get_run held, Option.bind_some]
  dsimp only
  cases client.delivery with
  | log => rfl
  | host function => rfl
  | native function =>
    unfold runScript Host.handOver
    rw [Program.run_bind]
    rfl

/-- A breadcrumb that is added stands in the trail of its client, and the journal tells of it once. -/
theorem addBreadcrumb_held (held : agent.client? id = some client) (breadcrumb : Breadcrumb) :
    (agent.addBreadcrumb id breadcrumb).client? id =
        some (client.setTrail (client.template.trail.append agent.clock.read.1 breadcrumb)) ∧
      (agent.addBreadcrumb id breadcrumb).journalOf id =
        .added id breadcrumb :: agent.journalOf id := by
  have bound : id.index < agent.clients.length := (List.getElem?_eq_some_iff.mp held).1
  unfold addBreadcrumb
  rw [held]
  constructor
  · show (agent.clients.set id.index _)[id.index]? = _
    rw [List.getElem?_set_self bound]
    rfl
  · show (Happening.added id breadcrumb :: agent.journal).filter _ = _
    rw [List.filter_cons_of_pos (by simp [Happening.client])]
    rfl

/-- An agent once an event was handed over: the breadcrumb is added if the event was sent. -/
def conclude (agent : Agent κ ν) (id : ClientId) (status : Option DeliveryStatus)
    (breadcrumb : Option Breadcrumb) : Agent κ ν :=
  match status, breadcrumb with
  | some .delivered, some breadcrumb => agent.addBreadcrumb id breadcrumb
  | some .undelivered, some breadcrumb => agent.addBreadcrumb id breadcrumb
  | _, _ => agent

/-- An event that no callback refuses is handed over, and the status decides. -/
theorem settle_run (held : agent.client? id = some client) (event : EventRecord) :
    (settle (surroundings host caller depth id) true event).alone.run agent =
      ((runScript host caller depth (host.handOver client.delivery event)).alone.run
        (agent.readClock.2.note (.delivered id client.delivery event))).map fun (status, after) =>
          (status.map DeliveryStatus.outcome,
            after.conclude id status (event.errorBreadcrumb? agent.clock.read.1)) := by
  show (((surroundings host caller depth id).send event >>= fun status => _ :
    Act κ ν (Option Outcome)).alone.run agent.readClock.2) = _
  rw [Act.alone_bind]
  show (((surroundings host caller depth id).send event).alone.run agent.readClock.2).bind _ = _
  have ready : agent.readClock.2.client? id = some client := held
  rw [send_run ready event]
  cases (runScript host caller depth (host.handOver client.delivery event)).alone.run
      (agent.readClock.2.note (.delivered id client.delivery event)) with
  | none => rfl
  | some ended =>
    obtain ⟨status, after⟩ := ended
    cases status with
    | none => rfl
    | some status =>
      have reading : agent.clock.read.1 = agent.clock.reading agent.clock.taken := rfl
      rw [reading]
      generalize event.errorBreadcrumb? (agent.clock.reading agent.clock.taken) = breadcrumb
      cases breadcrumb <;> cases status <;> rfl

/-- An event that no callback refuses is handed over. -/
theorem handedOver_of_settle {result : Option Outcome} (held : agent.client? id = some client)
    (alone : client.LeftAlone host id)
    (settled : (settle (surroundings host caller depth id) true event).alone.run agent =
      some (result, final)) :
    ∃ status after, HandedOver host caller depth id client event agent status after result final := by
  rw [settle_run held, EventRecord.errorBreadcrumb?_eq] at settled
  obtain ⟨⟨status, after⟩, delivered, concluded⟩ := Option.map_eq_some_iff.mp settled
  cases concluded
  have ticked : Untouched id agent agent.readClock.2 := .of_eq rfl rfl
  have noted := Tells.note (.delivered id client.delivery event) rfl agent.readClock.2
  have told : Tells id agent [.delivered id client.delivery event] after :=
    (ticked.append noted).append
      (runScript_spares caller depth (alone.delivery event) _ _ _ delivered)
  have holds := told.client client held
  refine ⟨status, after, delivered, told, rfl, ?_, ?_⟩
  · intro sent error described
    rw [described]
    cases status with
    | none => simp at sent
    | some status =>
      cases status with
      | delivered => exact addBreadcrumb_held holds _
      | undelivered => exact addBreadcrumb_held holds _
      | failure => simp [DeliveryStatus.outcome] at sent
  · intro unsent
    rcases unsent with unsent | silent
    · cases status with
      | none => rfl
      | some status =>
        cases status with
        | delivered => exact absurd (.inl rfl) unsent
        | undelivered => exact absurd (.inr rfl) unsent
        | failure => rfl
    · rw [silent]
      cases status with
      | none => rfl
      | some status => cases status <;> rfl

/-! ### Reports that come to an end -/

/-- A request that is no call is always answered. -/
theorem perform_isSome (host : Host κ ν) (caller : Option MonitorId) (depth : Nat)
    (request : Request κ ν) (plain : request.IsPlain) (agent : Agent κ ν) :
    ((perform host caller (depth + 1) request).alone.run agent).isSome := by
  cases request with
  | call other task => exact plain.elim
  | wait span ready =>
    show ((Act.wait (some span) ready).alone.run agent).isSome
    rw [Act.alone_wait]
    show (if ready agent then some (true, agent) else some _).isSome
    split <;> rfl
  | _ => rfl

theorem runScript_isSome {α : Type} {script : Script κ ν α} (plain : script.Asks Request.IsPlain)
    (agent : Agent κ ν) : ((runScript host caller (depth + 1) script).alone.run agent).isSome := by
  unfold runScript Act.alone
  rw [Program.run_run]
  exact Program.run_isSome (perform_isSome host caller depth) plain agent

theorem runScript_gives {α : Type} {script : Script κ ν α} {told : α → Prop} {result : α}
    (gives : script.Gives told)
    (ran : (runScript host caller depth script).alone.run agent = some (result, final)) :
    told result := by
  unfold runScript Act.alone at ran
  rw [Program.run_run] at ran
  exact Program.gives_of_run gives ran

/-- A report in which nothing calls a client, and whose delivery gives a status, comes to an outcome. -/
theorem ends_of_calm (held : agent.client? id = some client) (calm : client.IsCalm host)
    (event : EventRecord) : ∃ outcome final,
      (reportAlone host caller (depth + 2) id event).run agent = some (some outcome, final) := by
  cases gate : client.gate? event with
  | some outcome => exact ⟨outcome, agent, reportAlone_stopped held gate⟩
  | none =>
    have ends : ((walk (fun callback event =>
        ((surroundings host caller (depth + 1) id).consult callback event).alone)
        client.onError.entries event).run agent).isSome := by
      refine Registry.walk_isSome (fun entry member record state => ?_) event agent
      rw [consult_run]
      exact runScript_isSome (calm.onError entry member record) _
    obtain ⟨⟨⟨accepted, last⟩, middle⟩, walked⟩ := Option.isSome_iff_exists.mp ends
    obtain ⟨visits, tour⟩ := tour_of_walk (calm.leftAlone id) walked
    have holds := (tells_of_tour tour).client client held
    rw [reportAlone_passed held gate, walked, Option.bind_some]
    cases accepted with
    | false => exact ⟨.vetoed, middle, rfl⟩
    | true =>
      have delivers : ((runScript host caller (depth + 1)
          (host.handOver client.delivery last)).alone.run
            (middle.readClock.2.note (.delivered id client.delivery last))).isSome :=
        runScript_isSome (calm.delivery last) _
      obtain ⟨⟨status, after⟩, delivered⟩ := Option.isSome_iff_exists.mp delivers
      have given := runScript_gives (calm.status last) delivered
      obtain ⟨status, rfl⟩ := Option.isSome_iff_exists.mp given
      dsimp only
      rw [settle_run holds, delivered]
      exact ⟨status.outcome, _, rfl⟩

end Steps

/-- **A report is decided by the gates, the callbacks and the delivery, in this order.**

The gates look at the event that is reported, before any callback sees it: if the client is closed, if the
class of the error is never reported, or if the release stage is not enabled, that is the outcome, and the
agent is left as it was, with nothing called. Otherwise the event takes a tour of the on-error callbacks
that are registered. If one of them refuses it, the report is vetoed and ends there. If none does, the event
is handed over once as the last callback left it, and the status is the outcome. The client changes only if
the event was sent and describes an error, by one breadcrumb of that error. If nothing calls a client
meanwhile and the delivery gives a status, there is an outcome. -/
theorem report_decided (host : Host κ ν) (caller : Option MonitorId) (id : ClientId)
    {agent : Agent κ ν} {client : Client κ} (held : agent.client? id = some client)
    (event : EventRecord) :
    (client.isClosed → ∀ depth,
      (reportAlone host caller (depth + 1) id event).run agent = some (some .closed, agent)) ∧
    (¬ client.isClosed → client.Discards event → ∀ depth,
      (reportAlone host caller (depth + 1) id event).run agent = some (some .discarded, agent)) ∧
    (¬ client.isClosed → ¬ client.Discards event → client.Filters event → ∀ depth,
      (reportAlone host caller (depth + 1) id event).run agent = some (some .filtered, agent)) ∧
    (¬ client.isClosed → ¬ client.Discards event → ¬ client.Filters event →
      client.LeftAlone host id → ∀ depth result final,
      (reportAlone host caller (depth + 1) id event).run agent = some (result, final) →
        ∃ visits accepted last middle,
          Tour (Consulted host caller depth id) client.onError.entries event agent visits accepted last
            middle ∧
          Tells id agent (visits.flatMap Visit.marks) middle ∧
          (accepted = false → result = some .vetoed ∧ final = middle) ∧
          (accepted = true → ∃ status after,
            HandedOver host caller depth id client last middle status after result final)) ∧
    (client.IsCalm host → ∀ depth, ∃ outcome final,
      (reportAlone host caller (depth + 2) id event).run agent = some (some outcome, final)) := by
  refine ⟨?_, ?_, ?_, ?_, fun calm depth => ends_of_calm held calm event⟩
  · intro closed depth
    exact reportAlone_stopped held (Client.gate?_closed closed)
  · intro unclosed discards depth
    exact reportAlone_stopped held (Client.gate?_discarded (by simpa using unclosed) discards)
  · intro unclosed keeps filters depth
    exact reportAlone_stopped held (Client.gate?_filtered (by simpa using unclosed) keeps filters)
  · intro unclosed keeps allows alone depth result final ran
    have passed := Client.gate?_none (by simpa using unclosed) keeps allows
    rw [reportAlone_passed held passed] at ran
    obtain ⟨⟨⟨accepted, last⟩, middle⟩, walked, settled⟩ := Option.bind_eq_some_iff.mp ran
    obtain ⟨visits, tour⟩ := tour_of_walk alone walked
    have told := tells_of_tour tour
    refine ⟨visits, accepted, last, middle, tour, told, ?_, ?_⟩
    · rintro rfl
      cases settled
      exact ⟨rfl, rfl⟩
    · rintro rfl
      exact handedOver_of_settle (told.client client held) alone settled

/-- The callback gives the error a class that is never reported, and panics; the event is kept for
later. -/
def relabelling : Host Nat Unit where
  onError _ event := do
    let _ ← Program.request .now
    pure (.panic, { event with error := some ⟨⟨"Quiet", by decide, by decide⟩, none⟩ })
  onBreadcrumb _ breadcrumb := pure (.accept, breadcrumb)
  deliver _ _ := pure (some .undelivered)
  deliverNative _ _ := pure 0

/-- A client of one callback that reports from one release stage, and two classes never. -/
def shop (closed : Bool) : Client Nat where
  settings := { Settings.defaults with release := ⟨some ["live"], ["Noise", "Quiet"]⟩ }
  template := .ofTrail (.ofCapacity 2)
  onError := ⟨[(⟨1⟩, 1)], 2⟩
  delivery := .host 0
  lifecycle := ⟨closed, none⟩
  monitors := []
  runtimeContext := 0

/-- The start of the year 2000. -/
def turn : Instant :=
  ⟨⟨2000, 1, 1, by decide, by decide, by decide⟩, ⟨0, 0, 0, 0, by decide, by decide, by decide, by decide⟩⟩

/-- An agent of one client. -/
def office (closed : Bool) : Agent Nat Unit :=
  (start (.still turn) (fun _ => 0) ()).install (shop closed)

/-- Makes a call on the client. -/
def onFirst (call : ClientCall Nat) : Script Nat Unit call.Answer :=
  Program.request (Request.call ⟨0⟩ call)

/-- An event of an error in a release stage. -/
def crash (errorClass releaseStage : Text) : EventRecord :=
  { EventRecord.make turn with
    app := { AppInfo.unknown with releaseStage := some releaseStage }
    error := some ⟨errorClass, none⟩ }

/-- Four reports that end at different places; the last one is handed over under a class that is never
reported. -/
theorem report_decided_relabelling :
    (reportAlone relabelling none 1 ⟨0⟩ (.make turn)).run (office true) =
        some (some .closed, office true) ∧
      (∀ stage, (reportAlone relabelling none 1 ⟨0⟩
        (crash ⟨"Noise", by decide, by decide⟩ stage)).run (office false) =
          some (some .discarded, office false)) ∧
      (reportAlone relabelling none 1 ⟨0⟩
        (crash ⟨"Panic", by decide, by decide⟩ ⟨"test", by decide, by decide⟩)).run (office false) =
          some (some .filtered, office false) ∧
      (∃ outcome final, (reportAlone relabelling none 2 ⟨0⟩
        (crash ⟨"Panic", by decide, by decide⟩ ⟨"live", by decide, by decide⟩)).run (office false) =
          some (some outcome, final)) ∧
      ∃ final, (reportAlone relabelling none 2 ⟨0⟩
          (crash ⟨"Panic", by decide, by decide⟩ ⟨"live", by decide, by decide⟩)).run (office false) =
            some (some .undelivered, final) ∧
        ∃ visits accepted last middle,
          Tour (Consulted relabelling none 1 ⟨0⟩) (shop false).onError.entries
            (crash ⟨"Panic", by decide, by decide⟩ ⟨"live", by decide, by decide⟩) (office false) visits
            accepted last middle ∧
          Tells ⟨0⟩ (office false) (visits.flatMap Visit.marks) middle ∧
          (accepted = false → some Outcome.undelivered = some .vetoed ∧ final = middle) ∧
          (accepted = true → ∃ status after, HandedOver relabelling none 1 ⟨0⟩ (shop false) last middle status
            after (some .undelivered) final) := by
  have held : (office false).client? ⟨0⟩ = some (shop false) := rfl
  have calm : (shop false).IsCalm relabelling :=
    ⟨fun _ _ _ => ⟨trivial, fun _ => trivial⟩, fun _ => trivial, fun _ => rfl⟩
  have noisy (stage : Text) : (shop false).Discards (crash ⟨"Noise", by decide, by decide⟩ stage) :=
    ⟨_, rfl, by decide⟩
  have heard (stage : Text) : ¬ (shop false).Discards (crash ⟨"Panic", by decide, by decide⟩ stage) := by
    rintro ⟨error, described, listed⟩
    cases described
    revert listed
    decide
  have tested : (shop false).Filters
      (crash ⟨"Panic", by decide, by decide⟩ ⟨"test", by decide, by decide⟩) :=
    ⟨_, _, rfl, rfl, by decide⟩
  have live : ¬ (shop false).Filters
      (crash ⟨"Panic", by decide, by decide⟩ ⟨"live", by decide, by decide⟩) := by
    rintro ⟨stages, stage, enabled, staged, unlisted⟩
    cases enabled
    cases staged
    exact unlisted (by decide)
  refine ⟨?_, fun stage => ?_, ?_, ?_, ?_⟩
  · exact (report_decided relabelling none ⟨0⟩ rfl _).1 rfl 0
  · exact (report_decided relabelling none ⟨0⟩ rfl _).2.1 (by decide) (noisy stage) 0
  · exact (report_decided relabelling none ⟨0⟩ rfl _).2.2.1 (by decide) (heard _) tested 0
  · exact (report_decided relabelling none ⟨0⟩ held _).2.2.2.2 calm 0
  · exact ⟨_, rfl, (report_decided relabelling none ⟨0⟩ held _).2.2.2.1 (by decide) (heard _) live
      (calm.leftAlone ⟨0⟩) 1 _ _ rfl⟩

end Agent

end CrashReporter
