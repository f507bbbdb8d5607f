/-
**Clients come and go.**

Whoever has had a native client closed and a new one installed goes on as if nothing had been before: two
schedules that native code has left, whatever it did in them, are alike after `close`, and the same code runs
alike from there (`relaunch_alike`). The client that was closed stays shut (`shut_of_closing`).
-/

import CrashReporter.Proofs.Native.AtOnce
import CrashReporter.Proofs.Native.Closing

namespace CrashReporter

variable {κ ν α β : Type}

/-! ### Clients that were closed -/

namespace Agent

open Act

variable {id : ClientId} {agent final : Agent κ ν}

/-- Native callers open no client again. -/
theorem staysClosed_bears (id : ClientId) : NativeBears (StaysClosed (κ := κ) (ν := ν) id) where
  bears other task := (tolerates_staysClosed id).bears other task trivial
  launch agent _ _ _ := (tolerates_staysClosed id).install agent _ trivial
  close _ held := staysClosed_setClient held (ClientCall.Makes.close.isClosed) ClientCall.Makes.close.isTidy
  besides clients _ _ := staysClosed_of_client? fun _ held => (client?_congr clients id).trans held

theorem keeps_staysClosed (native : NativeHost κ ν) (events depth : Nat) (id : ClientId) :
    (native.host events).Keeps depth (StaysClosed id) :=
  native.keeps_of_bears (staysClosed_bears id) (fun _ _ => (tolerates_staysClosed id).besides rfl rfl)
    (fun agent monitor => (tolerates_staysClosed id).monitor agent monitor _)
    (fun agent monitor _ => (tolerates_staysClosed id).monitor agent monitor _) events depth

/-- **Whoever closes the installed client, every client is shut afterwards.** -/
theorem shut_of_closing {host : Host κ ν} {caller : Option MonitorId} {depth : Nat} (orderly : agent.IsOrderly)
    (known : id.index < agent.clients.length)
    (run : Runs (StaysClosed id) (NativeCall.closeScript.run (perform host caller (depth + 1))) agent ()
      final) : final.Shut id := by
  obtain ⟨client, held⟩ : ∃ client, agent.client? id = some client :=
    ⟨_, List.getElem?_eq_getElem known⟩
  by_cases installed : agent.current = some id
  · unfold NativeCall.closeScript at run
    rw [Script.run_ask_bind] at run
    obtain ⟨current, middle, taken, closing⟩ := run.of_bind
    obtain ⟨rfl, rfl⟩ := taken.of_modifyGet
    rw [show agent.uninstall.1 = agent.current from rfl, installed] at closing
    dsimp only at closing
    rw [Script.run_ask] at closing
    have there : agent.uninstall.2.client? id = some client := held
    exact shut_of_close there (orderly.sound held).tidy closing
  · have closed := orderly.closed held installed
    have shut : agent.Shut id := ⟨client, held, closed, (orderly.sound held).tidy closed⟩
    exact (run.leads_of_leadsFrom (close_leads (staysClosed_bears id) agent)).shut shut

end Agent

/-! ### Starting anew -/

namespace NativeCode

/-- Native code runs call by call. -/
theorem ownScript_call (events : Nat) (task : NativeCall κ) (next : task.Answer → NativeCode κ ν α) :
    ownScript events (.ask (.call task) next) =
      task.scriptAfter events >>= fun answer => ownScript events (next answer) := by
  unfold ownScript
  rw [show scriptAfter events (.ask (.call task) next) none =
    (NativeMove.scriptAfter events none (.call task) >>= fun (answer, given) =>
      scriptAfter events (next answer) given) from rfl]
  unfold NativeMove.scriptAfter
  simp only [bind_assoc, pure_bind]

theorem relaunch_eq (surroundings : Surroundings) (runtimeContext : UInt64) (code : NativeCode κ ν α) :
    relaunch surroundings runtimeContext code =
      .ask (.call .close) fun _ => .ask (.call (.init surroundings runtimeContext)) fun _ => code := rfl

end NativeCode

namespace Agent

variable {watched : UInt64 → Prop} {past past' : Past} {agent agent' : Agent κ ν}

/-- Agents of which all is past are alike if their notes are the same. -/
theorem IsGone.alike (gone : agent.IsGone past) (gone' : agent'.IsGone past')
    (notes : agent.notes = agent'.notes)
    (memory : ∀ address, watched address → agent.memory address = agent'.memory address) :
    Alike watched past past' agent agent' where
  settled := gone.settled
  settled' := gone'.settled
  same := by rw [gone.relativeTo, gone'.relativeTo, notes]
  watches client member := by
    rw [← gone.clients, List.drop_length] at member
    cases member
  memory := memory

end Agent

namespace Schedule

variable {host : Host κ ν} {depth count : Nat} {schedule first second final : Schedule κ ν}

/-- A relaunch begins with `close`. -/
theorem run_relaunch (events : Nat) (surroundings : Surroundings) (runtimeContext : UInt64)
    (code : NativeCode κ ν α) :
    schedule.run host depth count
        (NativeCode.ownScript events (NativeCode.relaunch surroundings runtimeContext code)) =
      (schedule.run host depth count (NativeCall.close : NativeCall κ).script).bind fun (_, closed) =>
        closed.run host depth count
          (NativeCode.ownScript events (.ask (.call (.init surroundings runtimeContext)) fun _ => code)) := by
  rw [NativeCode.relaunch_eq, NativeCode.ownScript_call, run_bind]
  rfl

/-- Native code that begins with `init` where no client is installed goes on with a new client. -/
theorem run_launch (absent : schedule.agent.current = none) (events : Nat) {surroundings : Surroundings}
    (room : surroundings.HasRoom) (runtimeContext : UInt64) (code : NativeCode κ ν α) :
    schedule.run host (depth + 1) count
        (NativeCode.ownScript events (.ask (.call (.init surroundings runtimeContext)) fun _ => code)) =
      { schedule with agent := schedule.agent.install (.initial surroundings runtimeContext) }.run host
        (depth + 1) count (NativeCode.ownScript events code) := by
  rw [NativeCode.ownScript_call]
  exact run_bind_of_eq (run_init absent room runtimeContext) _

/-- Native code left both schedules, with no call under way, and with the same notes and the same words of the
memory that may be watched. Clients, events and times may be any. -/
structure Matches (watched : UInt64 → Prop) (first second : Schedule κ ν) : Prop where
  follows : first.FollowsNative
  idle : first.IsIdle
  follows' : second.FollowsNative
  idle' : second.IsIdle
  notes : first.agent.notes = second.agent.notes
  memory : ∀ address, watched address → first.agent.memory address = second.agent.memory address

/-- **Whatever was before, code that begins with a relaunch runs alike**, if the other schedule may take turns
enough. -/
theorem relaunch_alike {native : NativeHost κ ν} {watched : UInt64 → Prop} (watches : native.Watches watched)
    {code : NativeCode κ ν α} (permitted : code.Watches watched) (matching : first.Matches watched second)
    {surroundings : Surroundings} {runtimeContext : UInt64} {result : α} {count' : Nat}
    (ran : first.run (native.host first.agent.events.length) depth count
      (NativeCode.ownScript first.agent.events.length
        (NativeCode.relaunch surroundings runtimeContext code)) = some (result, final))
    (turns : second.agent.monitorIds.length < count')
    (enough : count * (second.agent.monitorIds.length + 1) ≤ count') :
    ∃ final', second.run (native.host second.agent.events.length) depth count'
        (NativeCode.ownScript second.agent.events.length
          (NativeCode.relaunch surroundings runtimeContext code)) = some (result, final') ∧
      final.agent.relativeTo first.agent.past = final'.agent.relativeTo second.agent.past := by
  cases depth with
  | zero => cases ran
  | succ depth =>
    rw [run_relaunch] at ran
    obtain ⟨⟨_, closed⟩, closes, further⟩ := Option.bind_eq_some_iff.mp ran
    obtain ⟨gone, notes, memory⟩ := isOver_of_close matching.follows matching.idle closes
    obtain ⟨closed', closes'⟩ := exists_run_close matching.follows' matching.idle' turns
    obtain ⟨gone', notes', memory'⟩ := isOver_of_close matching.follows' matching.idle' closes'
    have alike : Agent.Alike watched first.agent.past second.agent.past closed.agent closed'.agent := by
      refine gone.agent.alike gone'.agent ((notes.trans matching.notes).trans notes'.symm) ?_
      intro address watching
      rw [memory, memory', matching.memory address watching]
    have launches : NativeCode.Watches watched
        (.ask (.call (.init surroundings runtimeContext)) fun _ => code : NativeCode κ ν α) :=
      ⟨trivial, fun _ => permitted⟩
    have paused : List.Forall₂ (Pause.Alike watched first.agent.past second.agent.past) closed.paused
        closed'.paused := by
      rw [gone.paused, gone'.paused]
      exact .nil
    have proper : closed.Proper Agent.SameTime := by
      intro pause member
      rw [gone.paused] at member
      cases member
    obtain ⟨_, final', ran', rfl, ends⟩ := run_alike watches enough
      (Agent.ownScript_inStep watches (depth + 1) launches _ _ alike) rfl rfl paused proper further
    refine ⟨final', ?_, ends.agent.same⟩
    rw [run_relaunch, closes']
    exact ran'

/-- Native code of the owner that follows a `close` finds every earlier client shut. -/
theorem shut_of_close_then {native : NativeHost κ ν} {events : Nat} {code : NativeCode κ ν α} {result : α}
    {id : ClientId} (follows : schedule.FollowsNative) (known : id.index < schedule.agent.clients.length)
    (ran : schedule.run (native.host events) (depth + 1) count
      (NativeCode.ownScript events (.ask (.call .close) fun _ => code)) = some (result, final)) :
    final.agent.Shut id := by
  have keeps := Agent.keeps_staysClosed native events (depth + 1) id
  obtain ⟨_, _, _, _, proper⟩ := follows.leads (Agent.staysClosed_bears id)
    fun native events depth => Agent.keeps_staysClosed native events depth id
  rw [NativeCode.ownScript_call, run_bind] at ran
  obtain ⟨⟨_, closed⟩, closes, further⟩ := Option.bind_eq_some_iff.mp ran
  obtain ⟨closing, proper⟩ := runs_of_run keeps proper closes
  have shut := Agent.shut_of_closing follows.isOrderly known closing
  obtain ⟨goesOn, _⟩ := runs_of_run keeps proper further
  have led := Agent.ownScript_leads (Agent.staysClosed_bears id) native events (depth + 1) code closed.agent
  exact (goesOn.leads_of_leadsFrom led).shut shut

/-- **The lifecycle leaks nothing.**

* Where native code has left two schedules with nothing under way, whatever it did there, code that begins with
  `close` and `init` and uses no event made before gives the same result, and leaves the same clients, events,
  notes and happenings behind, up to times.
* While no client is installed, the calls on it change nothing and call nobody, whoever makes them, and
  `newEvent` makes an empty event.
* While a client is installed, `init` changes nothing.
* Every client that there was before a `close` is closed after it and has no monitor installed, whatever was
  under way, and whatever native code does afterwards; and whoever makes the call, the client is shut when it
  returns. -/
theorem lifecycle_leaks_nothing :
    (∀ (native : NativeHost κ ν) (watched : UInt64 → Prop) (first second final : Schedule κ ν)
        (surroundings : Surroundings) (runtimeContext : UInt64) (code : NativeCode κ ν α) (depth count : Nat)
        (result : α),
      native.Watches watched → code.Watches watched → first.Matches watched second →
      first.run (native.host first.agent.events.length) depth count
        (NativeCode.ownScript first.agent.events.length
          (NativeCode.relaunch surroundings runtimeContext code)) = some (result, final) →
      ∃ enough, ∀ count' ≥ enough, ∃ final',
        second.run (native.host second.agent.events.length) depth count'
          (NativeCode.ownScript second.agent.events.length
            (NativeCode.relaunch surroundings runtimeContext code)) = some (result, final') ∧
        final.agent.relativeTo first.agent.past = final'.agent.relativeTo second.agent.past) ∧
    (∀ (host : Host κ ν) (agent : Agent κ ν), agent.current = none →
      (∀ task answer, task.idleAnswer? = some answer → Agent.AnswersAtOnce host task agent answer agent) ∧
      Agent.AnswersAtOnce host .newEvent agent ⟨agent.events.length⟩
        (agent.readClock.2.addEvent (.make agent.readClock.1)).2) ∧
    (∀ (host : Host κ ν) (agent : Agent κ ν) id, agent.current = some id →
      ∀ surroundings runtimeContext,
        Agent.AnswersAtOnce host (.init surroundings runtimeContext) agent () agent) ∧
    (∀ (native : NativeHost κ ν) (schedule final : Schedule κ ν) (id : ClientId) (events depth count : Nat)
        (code : NativeCode κ ν α) (result : α),
      schedule.FollowsNative → id.index < schedule.agent.clients.length →
      schedule.run (native.host events) depth count
        (NativeCode.ownScript events (.ask (.call .close) fun _ => code)) = some (result, final) →
      final.agent.Shut id) ∧
    (∀ schedule : Schedule κ ν, schedule.FollowsNative → schedule.agent.IsOrderly) ∧
    ∀ (host : Host κ ν) (caller : Option MonitorId) (depth : Nat) (agent final : Agent κ ν) (id : ClientId),
      agent.IsOrderly → id.index < agent.clients.length →
      Act.Runs (Agent.StaysClosed id)
        ((NativeCall.close : NativeCall κ).script.run (Agent.perform host caller depth)) agent () final →
      final.Shut id := by
  refine ⟨?_, fun host agent absent => ⟨fun task answer idle => Agent.answersAtOnce_of_idle absent idle,
    Agent.newEvent_answersAtOnce absent⟩, fun host agent id installed surroundings runtimeContext =>
      Agent.init_answersAtOnce installed surroundings runtimeContext, ?_,
    fun schedule follows => follows.isOrderly, ?_⟩
  · intro native watched first second final surroundings runtimeContext code depth count result watches
      permitted matching ran
    refine ⟨max (second.agent.monitorIds.length + 1) (count * (second.agent.monitorIds.length + 1)), ?_⟩
    intro count' enough
    exact relaunch_alike watches permitted matching ran (by omega) (by omega)
  · intro native schedule final id events depth count code result follows known ran
    cases depth with
    | zero => cases ran
    | succ depth => exact shut_of_close_then follows known ran
  · intro host caller depth agent final id orderly known run
    cases depth with
    | zero => cases run
    | succ depth => exact Agent.shut_of_closing orderly known run

/-- Counts the events that it is shown, and changes their context; every event is taken. -/
def clerk : NativeHost Nat Nat where
  onError _ :=
    .ask .recall fun (notes : Nat) =>
    .ask (.remember (notes + 1)) fun _ =>
    .ask (.writeGiven (.field (.context ⟨some [0x73]⟩))) fun _ =>
    .done true
  deliver _ := .done 0

/-- No settings at all. -/
def nowhere : Surroundings := ⟨fun _ => none, fun _ => .missing⟩

theorem settings_nowhere : nowhere.settings = .defaults := by
  have sources : Source.ordered [.defaults, .environment] = [.defaults, .environment] := by
    unfold Source.ordered
    exact List.mergeSort_of_pairwise (by decide)
  have loaded : Settings.load nowhere = .ok .defaults := by
    show Settings.loadFrom nowhere [.defaults, .environment] = _
    unfold Settings.loadFrom
    rw [sources]
    rfl
  unfold Surroundings.settings
  rw [loaded]

theorem nowhere_hasRoom : nowhere.HasRoom := by
  unfold Surroundings.HasRoom
  rw [settings_nowhere]
  decide

/-- Uses a client, and leaves it with a monitor that has looked already. -/
def uses : NativeCode Nat Nat Unit :=
  .ask (.call (.setDelivery (some 7))) fun _ =>
  .ask (.call (.addOnError (some 3))) fun _ =>
  .ask (.call (.write (.context ⟨some [0x61]⟩))) fun _ =>
  .ask (.call (.enableHangs 8)) fun _ =>
  .ask (.call (.notify ⟨some [0x41]⟩ .null 0)) fun _ =>
  .ask (.call .newEvent) fun _ =>
  .ask (.store 16 1) fun _ =>
  .ask (.wait 250000000 fun _ => false) fun _ =>
  .ask (.remember 0) fun _ =>
  .done ()

/-- Uses a client that it has installed. -/
def busy : NativeCode Nat Nat Unit := .ask (.call (.init nowhere 0)) fun _ => uses

/-- Registers a callback, reports an error and reads a fresh event. -/
def trial : NativeCode Nat Nat (UInt64 × CText × Nat) :=
  .ask (.call (.addOnError (some 5))) fun (token : UInt64) =>
  .ask (.call (.notify ⟨some [0x42]⟩ .null 0)) fun _ =>
  .ask (.call .newEvent) fun (handle : Handle) =>
  .ask (.call (.readEvent (some handle) (.text .context))) fun (context : CText) =>
  .ask .recall fun (notes : Nat) =>
  .done (token, context, notes)

/-- Nothing has happened yet. -/
def blank : Schedule Nat Nat := .start (Agent.start (.still Template.daybreak) (fun _ => 0) 0)

/-- Has native code of the owner run. -/
def after (schedule : Schedule Nat Nat) (events : Nat) (code : NativeCode Nat Nat α) :
    Option (α × Schedule Nat Nat) :=
  schedule.run (clerk.host events) 3 9 (NativeCode.ownScript events code)

/-- Installs a client of the default settings. -/
def furnished (schedule : Schedule Nat Nat) : Schedule Nat Nat :=
  { schedule with
    agent := schedule.agent.install
      { settings := .defaults
        template := .ofTrail (.ofCapacity Settings.defaults.breadcrumbs.maxBreadcrumbs.toNat)
        onError := .empty
        delivery := .log
        lifecycle := .fresh
        monitors := []
        runtimeContext := 0 } }

theorem after_launch {schedule : Schedule Nat Nat} (absent : schedule.agent.current = none) (events : Nat)
    (code : NativeCode Nat Nat α) :
    schedule.after events (.ask (.call (.init nowhere 0)) fun _ => code) =
      schedule.furnished.after events code := by
  refine (run_launch absent events nowhere_hasRoom 0 code).trans ?_
  unfold Client.initial
  rw [settings_nowhere]
  rfl

/-- A trial after a relaunch. -/
def retried (schedule : Schedule Nat Nat) (count : Nat) : Option ((UInt64 × CText × Nat) × Schedule Nat Nat) :=
  schedule.run (clerk.host schedule.agent.events.length) 3 count
    (NativeCode.ownScript schedule.agent.events.length (NativeCode.relaunch nowhere 0 trial))

theorem clerk_watches (watched : UInt64 → Prop) : clerk.Watches watched where
  onError _ := ⟨trivial, fun _ => ⟨trivial, fun _ => ⟨trivial, fun _ => trivial⟩⟩⟩
  deliver _ := trivial

theorem trial_watches (watched : UInt64 → Prop) : NativeCode.Watches watched trial :=
  ⟨trivial, fun _ => ⟨trivial, fun _ => ⟨trivial, fun _ => ⟨trivial, fun _ => ⟨trivial, fun _ => trivial⟩⟩⟩⟩⟩

/-- After a client was used and left installed, the trial comes to the same as where nothing was before, and
the client is shut. -/
theorem lifecycle_leaks_nothing_busy :
    ∃ first final : Schedule Nat Nat, blank.after 0 busy = some ((), first) ∧
      retried first 9 = some ((1, .null, 1), final) ∧
      (final.agent.relativeTo first.agent.past).journal.reverse.map Agent.label =
        ["5 sees B", "log takes B, changed", "added B"] ∧
      (∃ enough, ∀ count ≥ enough, ∃ final', retried blank count = some ((1, .null, 1), final') ∧
        final.agent.relativeTo first.agent.past = final'.agent.relativeTo blank.agent.past) ∧
      (Agent.AnswersAtOnce (clerk.host 0) (.addOnError (some 5)) blank.agent (0 : UInt64) blank.agent ∧
        Agent.AnswersAtOnce (clerk.host 0) .newEvent blank.agent ⟨0⟩
          (blank.agent.readClock.2.addEvent (.make Template.daybreak)).2) ∧
      Agent.AnswersAtOnce (clerk.host 0) (.init nowhere 0) first.agent () first.agent ∧
      final.agent.Shut ⟨0⟩ ∧
      ∃ closed, first.run (clerk.host 1) 3 9 (NativeCall.close : NativeCall Nat).script = some ((), closed) ∧
        closed.agent.Shut ⟨0⟩ := by
  have used : (blank.furnished.after 0 uses).map (fun (_, schedule) => (decide schedule.IsIdle,
      schedule.agent.notes, schedule.agent.memory 8, schedule.agent.current, schedule.agent.clients.length,
      schedule.agent.events.length)) = some (true, 0, 0, some ⟨0⟩, 1, 1) := by decide +kernel
  have told : ((blank.furnished.after 0 uses).bind fun (_, first) =>
      (first.run (clerk.host 1) 3 9 (NativeCall.close : NativeCall Nat).script).bind fun (_, closed) =>
        (closed.furnished.after 1 trial).map fun (result, final) =>
          (closed.agent.current, result, (final.agent.relativeTo first.agent.past).journal.reverse.map
            Agent.label)) =
      some (none, (1, .null, 1), ["5 sees B", "log takes B, changed", "added B"]) := by decide +kernel
  obtain ⟨⟨_, first⟩, ran, state⟩ := Option.map_eq_some_iff.mp used
  rw [ran, Option.bind_some] at told
  obtain ⟨⟨_, closed⟩, closes, told⟩ := Option.bind_eq_some_iff.mp told
  obtain ⟨⟨result, final⟩, tried, told⟩ := Option.map_eq_some_iff.mp told
  obtain ⟨idle, notes, memory, installed, clients, events⟩ : _ ∧ _ ∧ _ ∧ _ ∧ _ ∧ _ := by
    simpa only [Prod.mk.injEq] using state
  obtain ⟨absent, rfl, journal⟩ : _ ∧ _ ∧ _ := by simpa only [Prod.mk.injEq] using told
  have idle : first.IsIdle := of_decide_eq_true idle
  have launched : blank.after 0 busy = some ((), first) := (after_launch rfl 0 uses).trans ran
  have follows : first.FollowsNative := ⟨clerk, _, _, _, Unit, busy, 3, 9, (), launched⟩
  have matching : first.Matches (· = 8) blank := by
    refine ⟨follows, idle, ⟨clerk, _, _, _, Unit, .done (), 0, 0, (), rfl⟩, by decide, notes, ?_⟩
    rintro _ rfl
    exact memory
  have again : retried first 9 = some ((1, .null, 1), final) := by
    unfold retried
    rw [events, run_relaunch, closes]
    exact (after_launch absent 1 trial).trans tried
  have known : (⟨0⟩ : ClientId).index < first.agent.clients.length := by
    rw [clients]
    decide
  have proper : first.Proper (Agent.StaysClosed ⟨0⟩) := by
    intro pause member
    rw [show first.paused = [] from idle] at member
    cases member
  have closing := (runs_of_run (Agent.keeps_staysClosed clerk 1 3 ⟨0⟩) proper closes).1
  obtain ⟨alike, vacant, occupied, shut, orderly, closer⟩ :=
    @lifecycle_leaks_nothing Nat Nat (UInt64 × CText × Nat)
  obtain ⟨idly, fresh⟩ := vacant (clerk.host 0) blank.agent rfl
  exact ⟨first, final, launched, again, journal,
    alike clerk (· = 8) first blank final nowhere 0 trial 3 9 _ (clerk_watches _) (trial_watches _) matching again,
    ⟨idly (.addOnError (some 5)) _ rfl, fresh⟩,
    occupied (clerk.host 0) first.agent ⟨0⟩ installed nowhere 0,
    shut clerk first final ⟨0⟩ _ 3 9 _ _ follows known again, closed, closes,
    closer (clerk.host 1) none 3 first.agent closed.agent ⟨0⟩ (orderly first follows) known closing⟩

end Schedule

end CrashReporter
