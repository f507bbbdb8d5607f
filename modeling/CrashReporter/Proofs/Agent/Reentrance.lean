/-
**Calls inside calls, and calls after the end.**

Callbacks and deliveries may use the client that they are called for. A report that has passed the gates goes
through with what it has: its event, its callbacks in their order, and at last whatever delivery is installed
by then (`Reported`); nothing is read of the client twice, so that it does not matter what the calls inside
make of the template or the registry, or whether they close the client.

A client that is closed and has no monitor installed is shut (`Client.IsShut`). Closing shuts a client, and
nothing that may be asked for opens it again (`tolerates_staysClosed`), so that once a client is shut, every
report that starts finds it so, and ends at once.
-/

import CrashReporter.Proofs.Agent.Account

namespace CrashReporter

variable {κ ν α β : Type}

/-! ### Clients that are closed -/

namespace Client

variable {client : Client κ}

/-- What is closed has no monitor installed. -/
def IsTidy (client : Client κ) : Prop := client.isClosed = true → client.lifecycle.installed = none

/-- The client is closed, and no monitor is installed. -/
def IsShut (client : Client κ) : Prop := client.isClosed = true ∧ client.lifecycle.installed = none

/-- A closed client refuses to start a monitor, and stays as it is. -/
theorem enableHangs_closed (closed : client.isClosed = true) (buffer : Hang.Buffer) (sight : Hang.Sight) :
    client.enableHangs buffer sight = (.error .closed, client) := by
  have lifecycle : client.lifecycle = ⟨true, client.lifecycle.installed⟩ :=
    congrArg (Hang.Lifecycle.mk · _) closed
  have refused : client.lifecycle.enable client.monitors.length = (none, client.lifecycle) := by
    rw [lifecycle]
    rfl
  unfold enableHangs
  rw [refused]
  rfl

/-- Starting a monitor closes no client. -/
theorem enableHangs_open (unclosed : client.isClosed = false) (buffer : Hang.Buffer) (sight : Hang.Sight) :
    (client.enableHangs buffer sight).2.isClosed = false := by
  have lifecycle : client.lifecycle = ⟨false, client.lifecycle.installed⟩ :=
    congrArg (Hang.Lifecycle.mk · _) unclosed
  unfold enableHangs
  rw [lifecycle]
  cases client.lifecycle.installed <;> rfl

theorem lifecycle_stopMonitor (client : Client κ) : client.stopMonitor.2.lifecycle = client.lifecycle := by
  unfold stopMonitor
  split <;> rfl

/-- Stopping the monitor leaves none installed. -/
theorem lifecycle_disableHangs (client : Client κ) :
    client.disableHangs.2.lifecycle = ⟨client.isClosed, none⟩ := by
  show client.stopMonitor.2.lifecycle.disable.2 = _
  rw [client.lifecycle_stopMonitor]
  rfl

theorem close_closed (closed : client.isClosed = true) : client.close = (none, client) := by
  unfold close
  rw [if_pos closed]

/-- An open client is closed with no monitor installed. -/
theorem lifecycle_close (unclosed : client.isClosed = false) : client.close.2.lifecycle = ⟨true, none⟩ := by
  have lifecycle : client.lifecycle = ⟨false, client.lifecycle.installed⟩ :=
    congrArg (Hang.Lifecycle.mk · _) unclosed
  unfold close
  rw [if_neg (by simp [unclosed])]
  show client.stopMonitor.2.lifecycle.close = _
  rw [lifecycle_stopMonitor, lifecycle]
  rfl

/-- **Closing shuts a client.** -/
theorem close_isShut (tidy : client.IsTidy) : client.close.2.IsShut := by
  cases closed : client.isClosed with
  | true =>
    rw [close_closed closed]
    exact ⟨closed, tidy closed⟩
  | false =>
    have lifecycle := lifecycle_close closed
    exact ⟨congrArg Hang.Lifecycle.closed lifecycle, congrArg Hang.Lifecycle.installed lifecycle⟩

end Client

namespace ClientCall.Makes

variable {call : ClientCall κ} {change : Client κ → Client κ} {client : Client κ}

/-- **No change opens a client.** -/
theorem isClosed (made : call.Makes change) (closed : client.isClosed = true) :
    (change client).isClosed = true := by
  cases made with
  | enableHangs buffer sight =>
    dsimp only
    rw [Client.enableHangs_closed closed]
    exact closed
  | disableHangs => exact (congrArg Hang.Lifecycle.closed client.lifecycle_disableHangs).trans closed
  | close =>
    dsimp only
    rw [Client.close_closed closed]
    exact closed
  | _ => exact closed

/-- No change installs a monitor in a client that is closed, or leaves one behind. -/
theorem isTidy (made : call.Makes change) (tidy : client.IsTidy) : (change client).IsTidy := by
  cases made with
  | enableHangs buffer sight =>
    cases closed : client.isClosed with
    | true =>
      dsimp only
      rw [Client.enableHangs_closed closed]
      exact tidy
    | false => exact fun later => absurd later (by simp [Client.enableHangs_open closed])
  | disableHangs => exact fun _ => congrArg Hang.Lifecycle.installed client.lifecycle_disableHangs
  | close => exact fun _ => (Client.close_isShut tidy).2
  | _ => exact tidy

end ClientCall.Makes

namespace Agent

/-- A client of the agent is closed, and no monitor is installed. -/
def Shut (id : ClientId) (agent : Agent κ ν) : Prop :=
  ∃ client, agent.client? id = some client ∧ client.IsShut

/-- A client that is closed stays so, and one that is tidy as well. -/
def StaysClosed (id : ClientId) (agent later : Agent κ ν) : Prop :=
  ∀ client, agent.client? id = some client → ∃ present, later.client? id = some present ∧
    (client.isClosed = true → present.isClosed = true) ∧ (client.IsTidy → present.IsTidy)

instance (id : ClientId) : IsPreorder (Agent κ ν) (StaysClosed id) where
  refl _ client held := ⟨client, held, fun closed => closed, fun tidy => tidy⟩
  trans _ _ _ first second client held := by
    obtain ⟨middle, found, closed, tidy⟩ := first client held
    obtain ⟨present, ends, still, yet⟩ := second middle found
    exact ⟨present, ends, fun was => still (closed was), fun was => yet (tidy was)⟩

variable {id other : ClientId} {agent later start final : Agent κ ν} {client : Client κ}

theorem StaysClosed.shut (stays : StaysClosed id agent later) (shut : agent.Shut id) : later.Shut id := by
  obtain ⟨client, held, closed, uninstalled⟩ := shut
  obtain ⟨present, found, still, tidy⟩ := stays client held
  exact ⟨present, found, still closed, tidy (fun _ => uninstalled) (still closed)⟩

theorem staysClosed_of_client?
    (same : ∀ client, agent.client? id = some client → later.client? id = some client) :
    StaysClosed id agent later :=
  fun client held => ⟨client, same client held, fun closed => closed, fun tidy => tidy⟩

theorem staysClosed_setClient {present : Client κ} (held : agent.client? other = some client)
    (closed : client.isClosed = true → present.isClosed = true)
    (tidy : client.IsTidy → present.IsTidy) : StaysClosed id agent (agent.setClient other present) := by
  by_cases same : other = id
  · subst same
    intro before found
    obtain rfl := Option.some_inj.mp (held.symm.trans found)
    exact ⟨present, client?_setClient held present, closed, tidy⟩
  · exact staysClosed_of_client? fun before found =>
      (client?_setClient_ne same agent present).trans found

/-- **Whatever is asked for, a client that is closed stays so.** -/
theorem tolerates_staysClosed (id : ClientId) :
    Tolerates (StaysClosed (κ := κ) (ν := ν) id) fun _ => True where
  bears other call _ :=
    { tick := fun agent => staysClosed_of_client? fun client held => held
      change := fun held made => staysClosed_setClient held made.isClosed made.isTidy
      breadcrumb := fun agent breadcrumb => by
        unfold addBreadcrumb
        cases held : agent.client? other with
        | none => exact refl_of (StaysClosed id) agent
        | some client =>
          have read : agent.readClock.2.client? other = some client := held
          exact staysClosed_setClient read (fun closed => closed) fun tidy => tidy
      note := fun agent happening _ _ => staysClosed_of_client? fun client held => held }
  hang _ := trivial
  install agent client _ := staysClosed_of_client? (Untouched.install agent client).client
  monitor agent other change := by
    unfold modifyMonitor
    cases held : agent.client? other.client with
    | none => exact refl_of (StaysClosed id) agent
    | some client => exact staysClosed_setClient held (fun closed => closed) fun tidy => tidy
  besides clients _ := staysClosed_of_client? fun client held => (client?_congr clients id).trans held

/-! ### Calls on a client that is shut -/

section Calls

variable {host : Host κ ν} {others : Agent κ ν → Agent κ ν → Prop} {caller : Option MonitorId}
  {depth : Nat}

/-- Whoever uses a client goes on with it as the agent has it. -/
theorem runs_get_iff {next : Client κ → Act κ ν α} {result : α} (held : agent.client? id = some client) :
    Act.Runs others ((surroundings host caller depth id).get >>= next) agent result final ↔
      Act.Runs others (next client) agent result final := by
  constructor
  · intro run
    obtain ⟨found, same, run⟩ := runs_of_get run
    obtain rfl := Option.some_inj.mp (held.symm.trans same)
    exact run
  · intro run
    unfold surroundings
    rw [access_get]
    refine .get ?_
    show Act.Runs others ((agent.client? id).elim Act.fail pure >>= next) agent result final
    rw [held]
    exact run

theorem runs_pure_iff {value result : α} :
    Act.Runs others (pure value : Act κ ν α) agent result final ↔ result = value ∧ final = agent := by
  constructor
  · intro run
    obtain ⟨rfl, rfl⟩ := run.of_pure
    exact ⟨rfl, rfl⟩
  · rintro ⟨rfl, rfl⟩
    exact .done _ _

theorem runs_modifyGet {change : Client κ → α × Client κ} {answer : α} {present : Client κ}
    (held : agent.client? id = some client) (changed : change client = (answer, present)) :
    Act.Runs others ((surroundings host caller depth id).modifyGet change) agent answer
      (agent.setClient id present) := by
  refine (runs_get_iff held).mpr ?_
  rw [changed]
  exact .get (.set (.done _ _))

theorem setClient_self (held : agent.client? id = some client) : agent.setClient id client = agent := by
  obtain ⟨bound, same⟩ := List.getElem?_eq_some_iff.mp held
  unfold setClient
  rw [← same, List.set_getElem_self]

/-- A report that a gate stops ends at once and leaves the agent as it was. -/
theorem report_stopped_iff {event : EventRecord} {stop : Outcome} {outcome : Option Outcome}
    (held : agent.client? id = some client) (stopped : client.gate? event = some stop) :
    Act.Runs others ((surroundings host caller depth id).report event) agent outcome final ↔
      outcome = some stop ∧ final = agent := by
  refine (runs_get_iff held).trans ?_
  rw [stopped]
  exact runs_pure_iff

/-- **At a client that is shut, a report ends at once.** -/
theorem report_shut_iff (shut : start.Shut id) {event : EventRecord} {outcome : Option Outcome} :
    Act.Runs others ((surroundings host caller depth id).report event) start outcome final ↔
      outcome = some .closed ∧ final = start := by
  obtain ⟨client, held, shut⟩ := shut
  exact report_stopped_iff held (Client.gate?_closed shut.1)

theorem notify_shut_iff (shut : start.Shut id) {errorClass : String} {message : Option String}
    {severity : Severity} {answer : Except EventError (Option Outcome)} :
    Act.Runs others ((surroundings host caller depth id).notify errorClass message severity) start answer
      final ↔ answer = .ok (some .closed) ∧ final = start := by
  obtain ⟨client, held, shut⟩ := shut
  refine (runs_get_iff held).trans ?_
  rw [if_pos shut.1]
  exact runs_pure_iff

theorem reportHang_shut_iff (shut : start.Shut id) {outcome : Option Outcome} :
    Act.Runs others (surroundings host caller depth id).reportHang start outcome final ↔
      outcome = some .closed ∧ final = start.readClock.2 := by
  have later : start.readClock.2.Shut id := shut
  obtain ⟨client, held, shut⟩ := shut
  refine (runs_get_iff held).trans ⟨fun run => ?_, ?_⟩
  · obtain ⟨now, _, read, run⟩ := run.of_bind
    obtain ⟨rfl, rfl⟩ := read.of_modifyGet
    exact (report_shut_iff later).mp run
  · rintro ⟨rfl, rfl⟩
    refine .get (.set ?_)
    exact (report_shut_iff later).mpr ⟨rfl, rfl⟩

theorem enableHangs_shut_iff (shut : start.Shut id) {buffer : Hang.Buffer} {answer : Except ClientError Bool} :
    Act.Runs others ((surroundings host caller depth id).answer (.enableHangs buffer)) start answer final ↔
      answer = .error .closed ∧ final = start := by
  obtain ⟨client, held, shut⟩ := shut
  have refused (sight : Hang.Sight) := Client.enableHangs_closed shut.1 buffer sight
  constructor
  · intro run
    obtain ⟨sight, _, looked, run⟩ := run.of_bind
    obtain ⟨rfl, rfl⟩ := looked.of_gets
    obtain ⟨found, same, answered, ended⟩ := runs_of_modifyGet run
    obtain rfl := Option.some_inj.mp (held.symm.trans same)
    rw [refused] at answered ended
    exact ⟨answered, ended.trans (setClient_self held)⟩
  · rintro ⟨rfl, rfl⟩
    have run : Act.Runs others ((surroundings host caller depth id).modifyGet
        (·.enableHangs buffer (final.look buffer))) final _ _ := runs_modifyGet held (refused _)
    rw [setClient_self held] at run
    exact .get run

/-- **Closing shuts the client**, whatever others do while the call waits for the monitor. -/
theorem shut_of_close (held : start.client? id = some client) (tidy : client.IsTidy)
    (run : Act.Runs (StaysClosed id) ((surroundings host caller depth id).answer .close) start () final) :
    final.Shut id := by
  obtain ⟨_, later, stopped, ended⟩ := run.of_bind
  obtain ⟨_, rfl⟩ := ended.of_pure
  obtain ⟨target, middle, changed, joined⟩ := stopped.of_bind
  obtain ⟨found, same, -, rfl⟩ := runs_of_modifyGet changed
  obtain rfl := Option.some_inj.mp (held.symm.trans same)
  have shut : (start.setClient id client.close.2).Shut id :=
    ⟨_, client?_setClient held _, Client.close_isShut tidy⟩
  cases target with
  | none =>
    obtain ⟨_, rfl⟩ := joined.of_pure
    exact shut
  | some monitor =>
    obtain ⟨_, after, waited, ended⟩ := joined.of_bind
    obtain ⟨_, rfl⟩ := ended.of_pure
    change Act.Runs _ (if caller = some ⟨id, monitor⟩ then _ else _) _ _ _ at waited
    by_cases own : caller = some ⟨id, monitor⟩
    · rw [if_pos own] at waited
      obtain ⟨_, rfl⟩ := waited.of_pure
      exact shut
    · rw [if_neg own] at waited
      cases waited with
      | wait others continued =>
        cases continued
        exact others.shut shut

end Calls

/-- Whoever calls, a client answers that it is closed, and nothing is called, changed or left. -/
structure Refuses (host : Host κ ν) (id : ClientId) (agent : Agent κ ν) : Prop where
  notify : ∀ others caller depth errorClass message severity answer final,
    Act.Runs others (perform host caller (depth + 1) (.call id (.notify errorClass message severity))) agent
      answer final ↔ answer = .ok (some .closed) ∧ final = agent
  report : ∀ others caller depth event answer final,
    Act.Runs others (perform host caller (depth + 1) (.call id (.report event))) agent answer final ↔
      answer = some .closed ∧ final = agent
  reportHang : ∀ others caller depth answer final,
    Act.Runs others (perform host caller (depth + 1) (.call id .reportHang)) agent answer final ↔
      answer = some .closed ∧ final = agent.readClock.2
  enableHangs : ∀ others caller depth buffer answer final,
    Act.Runs others (perform host caller (depth + 1) (.call id (.enableHangs buffer))) agent answer final ↔
      answer = .error .closed ∧ final = agent

theorem Shut.refuses (host : Host κ ν) (shut : agent.Shut id) : Refuses host id agent where
  notify _ _ _ _ _ _ _ _ := notify_shut_iff shut
  report _ _ _ _ _ _ := report_shut_iff shut
  reportHang _ _ _ _ _ := reportHang_shut_iff shut
  enableHangs _ _ _ _ _ _ := enableHangs_shut_iff shut

/-- **Reports go through with what they have, and nothing opens a client that was closed.**

Whatever others do, and whatever callbacks and deliveries ask for, calls on the same client included: an
error or a hang that is reported has its account (`Notified`, `HangReported`). Its event is made from the
template as it is when the call starts, and from then on changed by its callbacks only; these are the ones
that are registered when their tour starts; the delivery is the one that is installed when the tour ends;
the breadcrumb of the error comes after everything that was added on the way; and the client is not
asked again whether it is closed.

A call that closes the client leaves it shut. Everything that anybody does afterwards leaves it so, on any
level of calls inside calls, and a client that is shut refuses all reports and monitors. -/
theorem reports_go_through (host : Host κ ν) (id : ClientId) :
    (∀ others caller depth errorClass message severity start answer final,
      Act.Runs others (perform host caller (depth + 1) (.call id (.notify errorClass message severity)))
        start answer final →
          ∃ added, Notified host others caller depth id errorClass message severity start answer final
            added) ∧
    (∀ others caller depth start outcome final,
      Act.Runs others (perform host caller (depth + 1) (.call id .reportHang)) start outcome final →
        ∃ added, HangReported host others caller depth id start outcome final added) ∧
    (∀ caller depth start client final, start.client? id = some client → client.IsTidy →
      Act.Runs (StaysClosed id) (perform host caller (depth + 1) (.call id .close)) start () final →
        final.Shut id) ∧
    (∀ caller depth (script : Script κ ν α) start result final,
      Act.Runs (StaysClosed id) (runScript host caller depth script) start result final →
        StaysClosed id start final) ∧
    (∀ depth count (script : Script κ ν α) agent result schedule,
      (Schedule.start agent).run host depth count script = some (result, schedule) →
        StaysClosed id agent schedule.agent ∧
        ∀ (call : ClientCall κ) answer final,
          schedule.run host depth count (Program.request (.call id call)) = some (answer, final) →
            Act.Runs (StaysClosed id) (perform host none depth (.call id call)) schedule.agent answer
              final.agent) ∧
    ∀ agent later, agent.Shut id → StaysClosed id agent later →
      later.Shut id ∧ Refuses host id later := by
  have free : host.Asks fun _ => True :=
    ⟨fun _ _ => .free _, fun _ _ => .free _, fun _ _ => .free _, fun _ _ => .free _⟩
  refine ⟨fun _ _ _ _ _ _ _ _ _ run => notify_account run, fun _ _ _ _ _ _ run =>
    reportHang_account run, fun _ _ _ _ _ held tidy run => shut_of_close held tidy run, ?_, ?_, ?_⟩
  · intro caller depth script start result final run
    exact run.leads_of_leadsFrom
      (runScript_leads (tolerates_staysClosed id) free caller depth (.free script) start)
  · intro depth count script agent result schedule ran
    have keeps := keeps_of_tolerates (tolerates_staysClosed id) free depth
    obtain ⟨runs, proper⟩ := Schedule.runs_of_run keeps (Schedule.start_proper _ agent) ran
    refine ⟨runs.leads_of_leadsFrom
      (runScript_leads (tolerates_staysClosed id) free none depth (.free script) agent), ?_⟩
    exact fun call answer final called => (Schedule.runs_of_request keeps proper called).1
  · intro agent later shut stays
    exact ⟨stays.shut shut, (stays.shut shut).refuses host⟩

/-! A callback that does everything to the client that it is called for. -/

/-- What the callback does that is called for the outer report. -/
def meddle : Script Nat Unit Unit := do
  let _ ← onFirst (.leave "inside" .user)
  let _ ← onFirst (.write (.text .context (some "changed")))
  let _ ← onFirst (.addOnError 2)
  let _ ← onFirst (.setDelivery (.host 9))
  let _ ← onFirst (.notify "Inner" none .error)
  let _ ← onFirst .close
  let _ ← onFirst (.notify "Late" none .error)

/-- The error class of an event is this one. -/
def isOf (event : EventRecord) (errorClass : String) : Bool :=
  event.errorClass?.any fun text => text.content = errorClass

/-- Meddles in the outer report; every event is delivered. -/
def meddling : Host Nat Unit where
  onError _ event := do
    if isOf event "Outer" then meddle
    pure (.accept, event)
  onBreadcrumb _ breadcrumb := pure (.accept, breadcrumb)
  deliver _ _ := pure (some .delivered)
  deliverNative _ _ := pure 0

/-- A happening in a few words. -/
def label : Happening Nat → String
  | .consulted _ callback event =>
    toString callback ++ " sees " ++ ((event.errorClass?.map Text.content).getD "")
  | .noticed _ callback breadcrumb => toString callback ++ " sees " ++ breadcrumb.message.content
  | .added _ breadcrumb => "added " ++ breadcrumb.message.content
  | .delivered _ delivery event =>
    (match delivery with
      | .host function => toString function
      | _ => "log") ++ " takes " ++ ((event.errorClass?.map Text.content).getD "") ++
        (if event.context.isSome then ", changed" else "")

/-- The outer event is seen by one callback, as it was made, and taken by the new delivery; its breadcrumb
comes last, although the client is closed by then. The late report was refused, and so are all others. -/
theorem reports_go_through_meddling :
    ∃ answer schedule, (Schedule.start (office false)).run meddling 4 0
        (onFirst (.notify "Outer" none .error)) = some (answer, schedule) ∧
      schedule.agent.journal.reverse.map label =
        ["1 sees Outer", "added inside", "1 sees Inner", "2 sees Inner", "9 takes Inner, changed",
          "added Inner", "9 takes Outer", "added Outer"] ∧
      (∃ added, Notified meddling (StaysClosed ⟨0⟩) none 3 ⟨0⟩ "Outer" none .error (office false) answer
        schedule.agent added) ∧
      schedule.agent.Shut ⟨0⟩ ∧ Refuses meddling ⟨0⟩ schedule.agent := by
  have told : ((Schedule.start (office false)).run meddling 4 0
      (onFirst (.notify "Outer" none .error))).map (fun (_, schedule) =>
        (schedule.agent.journal.reverse.map label, (schedule.agent.client? ⟨0⟩).map fun client =>
          (client.isClosed, client.lifecycle.installed))) =
      some (["1 sees Outer", "added inside", "1 sees Inner", "2 sees Inner", "9 takes Inner, changed",
        "added Inner", "9 takes Outer", "added Outer"], some (true, none)) := by decide +kernel
  obtain ⟨⟨answer, schedule⟩, ran, told⟩ := Option.map_eq_some_iff.mp told
  obtain ⟨journal, closed⟩ : _ ∧ _ := by simpa only [Prod.mk.injEq] using told
  obtain ⟨client, held, state⟩ := Option.map_eq_some_iff.mp closed
  obtain ⟨closed, uninstalled⟩ : _ ∧ _ := by simpa only [Prod.mk.injEq] using state
  obtain ⟨notified, -, -, -, schedules, refuses⟩ := reports_go_through (α := Unit) meddling ⟨0⟩
  obtain ⟨-, calls⟩ := schedules 4 0 (pure ()) (office false) () (.start (office false)) rfl
  have shut : schedule.agent.Shut ⟨0⟩ := ⟨client, held, closed, uninstalled⟩
  exact ⟨answer, schedule, ran, journal, notified _ _ _ _ _ _ _ _ _ (calls _ _ _ ran), shut,
    (refuses _ _ shut (refl_of (StaysClosed ⟨0⟩) schedule.agent)).2⟩

end Agent

end CrashReporter
