/-
**Native code after two pasts.**

Two ways of answering requests are in step (`Agent.AnswersInStep`) if they are so for requests that name
clients at the same place after two pasts, and events by handles that are counted from there. Native code
asks for nothing else, so it is in step with itself (`code_inStep`); its callbacks are native code as well,
so the answers of an agent are in step, however deep calls are nested (`perform_inStep`), and so are the
hooks of its monitors (`hook_inStep`).
-/

import CrashReporter.Proofs.Agent.Conduct
import CrashReporter.Proofs.Agent.Lockstep
import CrashReporter.Proofs.Agent.Past
import CrashReporter.Proofs.Native.Calls
import CrashReporter.Proofs.Native.Code

namespace CrashReporter

variable {κ ν α β : Type}

namespace Agent

open Act

/-- Two ways of answering requests are in step. -/
structure AnswersInStep (watched : UInt64 → Prop) (past past' : Past)
    (answer answer' : (request : Request κ ν) → Act κ ν request.Answer) : Prop where
  notes : InStep (Alike watched past past') Eq (answer .recall) (answer' .recall)
  remember : ∀ notes,
    InStep (Alike watched past past') Eq (answer (.remember notes)) (answer' (.remember notes))
  now : InStep (Alike watched past past') (fun _ _ => True) (answer .now) (answer' .now)
  call : ∀ id (task : ClientCall κ), task.Watches watched →
    InStep (Alike watched past past') (task.AnswersAlike watched past.time past'.time)
      (answer (.call (past.client id) task)) (answer' (.call (past'.client id) task))
  current : InStep (Alike watched past past') (Option.Rel (Past.Names past past')) (answer .current)
    (answer' .current)
  install : ∀ {client client'}, Client.Alike watched past.time past'.time client client' →
    InStep (Alike watched past past') Eq (answer (.install client)) (answer' (.install client'))
  uninstall : InStep (Alike watched past past') (Option.Rel (Past.Names past past')) (answer .uninstall)
    (answer' .uninstall)
  addEvent : ∀ {event event' : EventRecord}, event.undated = event'.undated →
    InStep (Alike watched past past')
      (fun handle handle' => handle.without past.events = handle'.without past'.events)
      (answer (.addEvent event)) (answer' (.addEvent event'))
  event : ∀ handle, InStep (Alike watched past past')
    (fun event event' => event.map EventRecord.undated = event'.map EventRecord.undated)
    (answer (.event (past.handle handle))) (answer' (.event (past'.handle handle)))
  setEvent : ∀ handle {event event' : Option EventRecord},
    event.map EventRecord.undated = event'.map EventRecord.undated →
    InStep (Alike watched past past') Eq (answer (.setEvent (past.handle handle) event))
      (answer' (.setEvent (past'.handle handle) event'))
  store : ∀ address value,
    InStep (Alike watched past past') Eq (answer (.store address value)) (answer' (.store address value))
  wait : ∀ span (ready : ν → Bool), InStep (Alike watched past past') Eq
    (answer (.wait span fun agent => ready agent.notes)) (answer' (.wait span fun agent => ready agent.notes))

variable {watched : UInt64 → Prop} {past past' : Past}
  {answer answer' : (request : Request κ ν) → Act κ ν request.Answer}

/-! ### Native calls -/

section Calls

variable (answers : AnswersInStep watched past past' answer answer')

include answers

theorem onCurrent_inStep (task : ClientCall κ) (permitted : task.Watches watched) :
    InStep (Alike watched past past') (Option.Rel (task.AnswersAlike watched past.time past'.time))
      ((Script.onCurrent task).run answer) ((Script.onCurrent task).run answer') := by
  unfold Script.onCurrent
  rw [Script.run_ask_bind, Script.run_ask_bind]
  refine (inStep_composes _).bind answers.current fun current current' same => ?_
  cases same with
  | none => exact (inStep_composes _).pure .none
  | some names =>
    obtain ⟨place, rfl, rfl⟩ := names
    dsimp only
    rw [Script.run_ask_bind, Script.run_ask_bind]
    exact (inStep_composes _).bind (answers.call place task permitted) fun _ _ alike =>
      (inStep_composes _).pure (.some alike)

theorem tell_inStep (task : ClientCall κ) (permitted : task.Watches watched) :
    InStep (Alike watched past past') Eq ((Script.tell task).run answer)
      ((Script.tell task).run answer') := by
  unfold Script.tell
  rw [Program.run_bind, Program.run_bind]
  exact (inStep_composes _).bind (onCurrent_inStep answers task permitted) fun _ _ _ =>
    (inStep_composes _).pure rfl

theorem init_inStep (surroundings : Surroundings) (runtimeContext : UInt64) :
    InStep (Alike watched past past') Eq
      ((NativeCall.initScript surroundings runtimeContext).run answer)
      ((NativeCall.initScript surroundings runtimeContext).run answer') := by
  have fresh : Client.Alike watched past.time past'.time (Client.initial surroundings runtimeContext : Client κ)
      (Client.initial surroundings runtimeContext) := ⟨rfl, nofun⟩
  unfold NativeCall.initScript
  rw [Script.run_ask_bind, Script.run_ask_bind]
  refine (inStep_composes _).bind answers.current fun current current' same => ?_
  cases same with
  | none =>
    dsimp only
    by_cases room : surroundings.HasRoom
    · rw [Client.build_settings room]
      dsimp only
      rw [Script.run_ask, Script.run_ask]
      exact answers.install fresh
    · rw [Client.build_settings_of_not_hasRoom room]
      exact (inStep_composes _).pure rfl
  | some names => exact (inStep_composes _).pure rfl

theorem close_inStep : InStep (Alike watched past past') Eq (NativeCall.closeScript.run answer)
    (NativeCall.closeScript.run answer') := by
  unfold NativeCall.closeScript
  rw [Script.run_ask_bind, Script.run_ask_bind]
  refine (inStep_composes _).bind answers.uninstall fun current current' same => ?_
  cases same with
  | none => exact (inStep_composes _).pure rfl
  | some names =>
    obtain ⟨place, rfl, rfl⟩ := names
    dsimp only
    rw [Script.run_ask, Script.run_ask]
    exact answers.call place .close trivial

theorem newEvent_inStep : InStep (Alike watched past past')
    (fun handle handle' => handle.without past.events = handle'.without past'.events)
    (NativeCall.newEventScript.run answer) (NativeCall.newEventScript.run answer') := by
  unfold NativeCall.newEventScript
  rw [Program.run_bind, Program.run_bind]
  refine (inStep_composes _).bind (onCurrent_inStep answers .inspect trivial) fun client client' same => ?_
  rw [Script.run_ask_bind, Script.run_ask_bind]
  refine (inStep_composes _).bind answers.now fun now now' _ => ?_
  cases same with
  | none =>
    dsimp only
    rw [Script.run_ask, Script.run_ask]
    exact answers.addEvent rfl
  | @some client client' alike =>
    dsimp only
    rw [Script.run_ask, Script.run_ask]
    refine answers.addEvent ?_
    rw [Template.snapshot_undated, Template.snapshot_undated]
    exact congrArg (fun client => client.template.snapshot .sometime) alike.same

theorem event_inStep (handle : Handle) : InStep (Alike watched past past')
    (fun event event' => event.map EventRecord.undated = event'.map EventRecord.undated)
    ((Script.event (some (handle.after past.events))).run answer)
    ((Script.event (some (handle.after past'.events))).run answer') := by
  dsimp only [Script.event]
  rw [Script.run_ask, Script.run_ask]
  exact answers.event handle

theorem setEvent_inStep (handle : Handle) {event event' : Option EventRecord}
    (same : event.map EventRecord.undated = event'.map EventRecord.undated) :
    InStep (Alike watched past past') Eq
      ((Script.ask (.setEvent (handle.after past.events) event)).run answer)
      ((Script.ask (.setEvent (handle.after past'.events) event')).run answer') := by
  rw [Script.run_ask, Script.run_ask]
  exact answers.setEvent handle same

/-- A native call with handles that are counted from the pasts is in step with itself. -/
theorem nativeCall_inStep (task : NativeCall κ) (permitted : task.Watches watched) :
    InStep (Alike watched past past') Eq ((task.scriptAfter past.events).run answer)
      ((task.scriptAfter past'.events).run answer') := by
  refine task.scriptAfter_cases
    (motive := fun script => InStep (Alike watched past past') Eq ((script past.events).run answer)
      ((script past'.events).run answer'))
    (fun _ => (inStep_composes _).pure rfl) (init_inStep answers) (close_inStep answers)
    (fun told permits => tell_inStep answers told (permits watched permitted))
    (fun callback => ?addOnError) ?newEvent (fun handle => setEvent_inStep answers handle rfl)
    (fun handle what => ?readEvent) (fun handle change => ?writeEvent)
  case addOnError =>
    rw [Program.run_bind, Program.run_bind]
    refine (inStep_composes _).bind (onCurrent_inStep answers (.addOnError callback) trivial)
      fun id id' same => (inStep_composes _).pure ?_
    cases same with
    | none => rfl
    | some same => exact congrArg CallbackId.number same
  case newEvent =>
    rw [Program.run_bind, Program.run_bind]
    exact (inStep_composes _).bind (newEvent_inStep answers) fun _ _ same => (inStep_composes _).pure same
  case readEvent =>
    rw [Program.run_bind, Program.run_bind]
    refine (inStep_composes _).bind (event_inStep answers handle) fun event event' same =>
      (inStep_composes _).pure ?_
    rw [← EventAddress.read_undated, ← EventAddress.read_undated event', same]
  case writeEvent =>
    rw [Program.run_bind, Program.run_bind]
    refine (inStep_composes _).bind (event_inStep answers handle) fun event event' same => ?_
    cases rel_of_map_eq same with
    | none => exact (inStep_composes _).pure rfl
    | @some event event' equal =>
      refine setEvent_inStep answers handle ?_
      show some (event.writeNative change).undated = some (event'.writeNative change).undated
      rw [EventRecord.writeNative_undated, EventRecord.writeNative_undated, equal]

/-! ### Native code -/

/-- Results are the same, and so are the events that code was called with, but for their times. -/
def GivenAlike (ended ended' : α × EventAddress) : Prop :=
  ended.1 = ended'.1 ∧ ended.2.map EventRecord.undated = ended'.2.map EventRecord.undated

theorem move_inStep (move : NativeMove κ ν) {given given' : EventAddress}
    (same : given.map EventRecord.undated = given'.map EventRecord.undated)
    (permitted : NativeCode.Watches watched (Program.request move : NativeCode κ ν move.Answer)) :
    InStep (Alike watched past past') GivenAlike ((move.scriptAfter past.events given).run answer)
      ((move.scriptAfter past'.events given').run answer') := by
  cases move with
  | call task =>
    dsimp only [NativeMove.scriptAfter]
    rw [Program.run_bind, Program.run_bind]
    exact (inStep_composes _).bind (nativeCall_inStep answers task permitted.1) fun _ _ answered =>
      (inStep_composes _).pure ⟨answered, same⟩
  | readGiven what =>
    refine (inStep_composes _).pure ⟨?_, same⟩
    show given.read what = given'.read what
    rw [← EventAddress.read_undated, ← EventAddress.read_undated given', same]
  | writeGiven change =>
    refine (inStep_composes _).pure ⟨rfl, ?_⟩
    have written (given : EventAddress) : (given.write change).map EventRecord.undated =
        (given.map EventRecord.undated).map (EventRecord.writeNative · change) := by
      cases given with
      | none => rfl
      | some event => exact congrArg some (event.writeNative_undated change)
    dsimp only
    rw [written, written, same]
  | «recall» =>
    exact (inStep_composes _).bind answers.notes fun _ _ told => (inStep_composes _).pure ⟨told, same⟩
  | remember notes =>
    exact (inStep_composes _).bind (answers.remember notes) fun _ _ _ => (inStep_composes _).pure ⟨rfl, same⟩
  | store address value =>
    exact (inStep_composes _).bind (answers.store address value) fun _ _ _ =>
      (inStep_composes _).pure ⟨rfl, same⟩
  | wait span ready =>
    exact (inStep_composes _).bind (answers.wait span ready) fun _ _ told =>
      (inStep_composes _).pure ⟨told, same⟩

/-- **Native code is in step with itself**, if it is called with events that are the same up to times. -/
theorem code_inStep {code : NativeCode κ ν α} {given given' : EventAddress}
    (same : given.map EventRecord.undated = given'.map EventRecord.undated)
    (permitted : NativeCode.Watches watched code) :
    InStep (Alike watched past past') GivenAlike
      ((NativeCode.scriptAfter past.events code given).run answer)
      ((NativeCode.scriptAfter past'.events code given').run answer') := by
  induction code generalizing given given' with
  | done result => exact (inStep_composes _).pure ⟨rfl, same⟩
  | ask move next ih =>
    dsimp only [NativeCode.scriptAfter]
    rw [Program.run_bind, Program.run_bind]
    refine (inStep_composes _).bind (move_inStep answers move same ⟨permitted.1, fun _ => trivial⟩) ?_
    rintro ⟨result, given⟩ ⟨_, given'⟩ ⟨rfl, still⟩
    exact ih result still (permitted.2 result)

end Calls

/-! ### Calls inside calls -/

section Access

variable {native : NativeHost κ ν} (watches : native.Watches watched) (caller : Option MonitorId)

/-- The same caller after two pasts is a monitor of the same place, or of none. -/
theorem isCaller_iff (past : Past) (id : MonitorId) :
    caller.map past.monitor = some (past.monitor id) ↔ caller = some id := by
  have injective {id id' : MonitorId} (same : past.monitor id = past.monitor id') : id = id' := by
    obtain ⟨⟨client⟩, index⟩ := id
    obtain ⟨⟨client'⟩, index'⟩ := id'
    simpa only [Past.monitor, Past.client, MonitorId.mk.injEq, ClientId.mk.injEq, Nat.add_left_cancel_iff]
      using same
  constructor
  · intro same
    obtain ⟨other, rfl, equal⟩ := Option.map_eq_some_iff.mp same
    rw [injective equal]
  · rintro rfl
    rfl

variable (answers : AnswersInStep watched past past' answer answer')

include watches answers

theorem onError_inStep (callback : κ) {event event' : EventRecord} (same : event.undated = event'.undated) :
    InStep (Alike watched past past') EventRecord.GivenAlike
      (((native.host past.events).onError callback event).run answer)
      (((native.host past'.events).onError callback event').run answer') := by
  have left (given : EventAddress) (event : EventRecord) :
      (given.getD event).undated = (given.map EventRecord.undated).getD event.undated := by
    cases given <;> rfl
  dsimp only [NativeHost.host]
  rw [Program.run_bind, Program.run_bind]
  refine (inStep_composes _).bind (code_inStep answers (congrArg some same) (watches.onError callback)) ?_
  rintro ⟨accepted, given⟩ ⟨_, given'⟩ ⟨rfl, still⟩
  refine (inStep_composes _).pure ⟨rfl, ?_⟩
  dsimp only at still ⊢
  rw [left, left, still, same]

theorem deliverNative_inStep (callback : κ) {event event' : EventRecord}
    (same : event.undated = event'.undated) :
    InStep (Alike watched past past') Eq (((native.host past.events).deliverNative callback event).run answer)
      (((native.host past'.events).deliverNative callback event').run answer') := by
  dsimp only [NativeHost.host]
  rw [Program.run_bind, Program.run_bind]
  refine (inStep_composes _).bind (code_inStep answers (congrArg some same) (watches.deliver callback)) ?_
  rintro ⟨code, given⟩ ⟨_, given'⟩ ⟨rfl, still⟩
  exact (inStep_composes _).pure rfl

/-- Clients at the same place are surrounded by the same, up to times. -/
theorem access_inStep (id : ClientId) :
    Client.Access.Paired (InStep (Alike watched past past')) watched past.time past'.time
      (access (native.host past.events) (caller.map past.monitor) (fun script => script.run answer)
        (past.client id))
      (access (native.host past'.events) (caller.map past'.monitor) (fun script => script.run answer')
        (past'.client id)) where
  get agent agent' alike := by
    have clients := alike.client? id
    rw [access_get, access_get]
    refine .get ?_
    show Lockstep _ _ ((agent.client? (past.client id)).elim Act.fail pure) agent
      ((agent'.client? (past'.client id)).elim Act.fail pure) agent'
    generalize agent.client? (past.client id) = held, agent'.client? (past'.client id) = held' at clients ⊢
    cases clients with
    | none => exact .fail
    | some clients => exact .done alike clients
  set clients := modify_inStep fun _ _ alike => alike.setClient id clients
  now := modifyGet_inStep (fun _ _ _ => trivial) fun _ _ alike => alike.tick
  append breadcrumbs := modify_inStep fun _ _ alike => alike.addBreadcrumb id breadcrumbs
  look permitted := gets_inStep fun _ _ alike => alike.look permitted
  consult callback event event' same := by
    refine (inStep_composes _).bind (modify_inStep fun _ _ alike => alike.note ?_) fun _ _ _ =>
      onError_inStep watches answers callback same
    show Happening.consulted ((past.client id).relativeTo past) _ _ =
      Happening.consulted ((past'.client id).relativeTo past') _ _
    rw [ClientId.relativeTo_client, ClientId.relativeTo_client, same]
  notice callback breadcrumb breadcrumb' same := by
    refine (inStep_composes _).bind (modify_inStep fun _ _ alike => alike.note ?_) fun _ _ _ =>
      (inStep_composes _).pure ⟨rfl, same⟩
    show Happening.noticed ((past.client id).relativeTo past) _ _ =
      Happening.noticed ((past'.client id).relativeTo past') _ _
    rw [ClientId.relativeTo_client, ClientId.relativeTo_client, same]
  deliver delivery event event' same := by
    refine (inStep_composes _).bind (modify_inStep fun _ _ alike => alike.note ?_) fun _ _ _ => ?_
    · show Happening.delivered ((past.client id).relativeTo past) _ _ =
        Happening.delivered ((past'.client id).relativeTo past') _ _
      rw [ClientId.relativeTo_client, ClientId.relativeTo_client, same]
    · cases delivery with
      | log => exact (inStep_composes _).pure rfl
      | host function => exact (inStep_composes _).pure rfl
      | native function =>
        refine (inStep_composes _).bind (deliverNative_inStep watches answers function same) ?_
        rintro code _ rfl
        exact (inStep_composes _).pure rfl
  join index := by
    show InStep _ _ (if caller.map past.monitor = some (past.monitor ⟨id, index⟩) then _ else _)
      (if caller.map past'.monitor = some (past'.monitor ⟨id, index⟩) then _ else _)
    by_cases own : caller = some ⟨id, index⟩
    · rw [if_pos ((isCaller_iff caller past _).mpr own), if_pos ((isCaller_iff caller past' _).mpr own)]
      exact (inStep_composes _).pure rfl
    · rw [if_neg (own ∘ (isCaller_iff caller past _).mp), if_neg (own ∘ (isCaller_iff caller past' _).mp)]
      exact (inStep_composes _).bind
        (wait_inStep none fun _ _ alike => alike.hasEnded ⟨id, index⟩) fun _ _ _ =>
          (inStep_composes _).pure rfl

end Access

/-- **The answers of an agent are in step**, however deep calls are nested. -/
theorem perform_inStep {native : NativeHost κ ν} (watches : native.Watches watched)
    (caller : Option MonitorId) (depth : Nat) :
    AnswersInStep watched past past' (perform (native.host past.events) (caller.map past.monitor) depth)
      (perform (native.host past'.events) (caller.map past'.monitor) depth) := by
  -- Callbacks are run one level below.
  induction depth with
  | zero => exact ⟨fail_inStep, fun _ => fail_inStep, fail_inStep, fun _ _ _ => fail_inStep, fail_inStep,
      fun _ => fail_inStep, fail_inStep, fun _ => fail_inStep, fun _ => fail_inStep, fun _ _ _ _ => fail_inStep,
      fun _ _ => fail_inStep, fun _ _ => fail_inStep⟩
  | succ depth ih =>
    exact
      { notes := gets_inStep fun _ _ alike => alike.notes
        remember := fun notes => modify_inStep fun _ _ alike => alike.remember notes
        now := modifyGet_inStep (fun _ _ _ => trivial) fun _ _ alike => alike.tick
        call := fun id task permitted => Client.Access.answer_of_paired (inStep_composes _)
          (access_inStep watches caller ih id) task permitted
        current := gets_inStep fun _ _ alike => alike.current
        install := fun clients => modify_inStep fun _ _ alike => alike.install clients
        uninstall := modifyGet_inStep (fun _ _ alike => alike.current) fun _ _ alike => alike.uninstall
        addEvent := fun events => modifyGet_inStep (fun _ _ alike => alike.handle) fun _ _ alike =>
          alike.addEvent events
        event := fun handle => gets_inStep fun _ _ alike => alike.event? handle
        setEvent := fun handle _ _ events => modify_inStep fun _ _ alike => alike.setEvent handle events
        store := fun address value => modify_inStep fun _ _ alike => alike.store address value
        wait := fun span ready => wait_inStep (some span) fun _ _ alike => congrArg ready alike.notes }

/-- **The hooks of monitors at the same place are in step.** -/
theorem hook_inStep {native : NativeHost κ ν} (watches : native.Watches watched) (depth : Nat)
    (id : MonitorId) :
    InStep (Alike watched past past') Eq (hook (native.host past.events) depth (past.monitor id))
      (hook (native.host past'.events) depth (past'.monitor id)) := by
  have reported := Client.Access.reportHang_of_paired (inStep_composes (Alike watched past past'))
    (access_inStep watches (some id) (perform_inStep watches (some id) depth) id.client)
  refine (inStep_composes _).bind reported ?_
  rintro outcome _ rfl
  exact modify_inStep fun _ _ alike => alike.modifyMonitor id
    (fun origin monitor sight => monitor.rest_relativeTo origin sight _) fun _ _ => rfl

/-- **Native code of the owner is in step with itself.** -/
theorem ownScript_inStep {native : NativeHost κ ν} (watches : native.Watches watched) (depth : Nat)
    {code : NativeCode κ ν α} (permitted : NativeCode.Watches watched code) :
    InStep (Alike watched past past') Eq
      (runScript (native.host past.events) none depth (NativeCode.ownScript past.events code))
      (runScript (native.host past'.events) none depth (NativeCode.ownScript past'.events code)) := by
  unfold runScript NativeCode.ownScript
  rw [Program.run_bind, Program.run_bind]
  refine (inStep_composes _).bind (code_inStep (perform_inStep watches none depth) rfl permitted) ?_
  rintro ⟨result, given⟩ ⟨_, given'⟩ ⟨rfl, _⟩
  exact (inStep_composes _).pure rfl

end Agent

end CrashReporter
