/-
**Two schedules after two pasts.**

Two schedules are alike (`Schedule.Alike`) if their agents are, and as many hooks wait in the one as in the
other, for the same and to go on in step. Turns of the same place leave them alike (`take_alike`). The turns
at which monitors of the pasts end have no part in this: each schedule may take some of them before it takes
its next turn of another kind. So if a wait of the owner comes to an end in the one schedule, it does in
the other if that may take turns enough (`pass_alike`), and what the owner does in step runs alike
(`run_alike`).
-/

import CrashReporter.Proofs.Agent.Company
import CrashReporter.Proofs.Agent.Turns
import CrashReporter.Proofs.Native.Conduct
import CrashReporter.Proofs.Native.InStep
import Mathlib.Data.List.Forall2

namespace CrashReporter

variable {κ ν α : Type}

/-! ### Time -/

namespace Agent

/-- No time has passed. -/
def SameTime (agent later : Agent κ ν) : Prop := later.time = agent.time

instance : IsPreorder (Agent κ ν) SameTime where
  refl _ := rfl
  trans _ _ _ first second := second.trans first

/-- What is done takes no time, apart from waits. -/
theorem sameTime_bears : NativeBears (SameTime (κ := κ) (ν := ν)) where
  bears id call :=
    { tick := fun agent => rfl
      change := fun _ _ => rfl
      breadcrumb := fun agent breadcrumb => by
        unfold addBreadcrumb
        cases agent.client? id <;> exact rfl
      note := fun agent happening _ _ => rfl }
  launch _ _ _ _ := rfl
  close _ _ := rfl
  besides _ _ time := time

/-- Hooks take no time, apart from waits. -/
theorem hook_sameTime (native : NativeHost κ ν) (events depth : Nat) (id : MonitorId) :
    Act.Leads SameTime (hook (native.host events) depth id) := by
  refine hook_leads sameTime_bears (fun agent id ended => ?_) native events depth id
  unfold modifyMonitor
  cases agent.client? id.client <;> exact rfl

end Agent

/-! ### Schedules that are alike -/

/-- Two hooks wait for the same, and go on in step. -/
structure Pause.Alike (watched : UInt64 → Prop) (past past' : Past) (pause pause' : Pause κ ν) : Prop where
  due : pause.due.map (· - past.time) = pause'.due.map (· - past'.time)
  ready : ∀ agent agent', Agent.Alike watched past past' agent agent' →
    pause.ready agent = pause'.ready agent'
  next : ∀ answer, Act.InStep (Agent.Alike watched past past') Eq (pause.next answer) (pause'.next answer)

namespace Schedule

/-- Two schedules are alike after two pasts. -/
structure Alike (watched : UInt64 → Prop) (past past' : Past) (schedule schedule' : Schedule κ ν) :
    Prop where
  agent : Agent.Alike watched past past' schedule.agent schedule'.agent
  paused : List.Forall₂ (Pause.Alike watched past past') schedule.paused schedule'.paused
  /-- Hooks that wait take no time when they go on. -/
  proper : schedule.Proper Agent.SameTime

variable {watched : UInt64 → Prop} {past past' : Past} {schedule schedule' : Schedule κ ν}

/-- Up to a wait of their own choice, acts in step leave agents alike. -/
theorem goOn_alike {act act' : Act κ ν Unit} {agent agent' : Agent κ ν}
    (lockstep : Act.Lockstep (Agent.Alike watched past past') Eq act agent act' agent') :
    Option.Rel (fun ended ended' => Agent.Alike watched past past' ended.1 ended'.1 ∧
      Option.Rel (Pause.Alike watched past past') ended.2 ended'.2)
      (act.goOn agent) (act'.goOn agent') := by
  induction lockstep with
  | done same fit => exact .some ⟨same, .none⟩
  | get continued ih => exact ih
  | set continued ih => exact ih
  | fail => exact .none
  | @wait span ready ready' next next' agent agent' same told continued ih =>
    unfold Act.goOn
    rw [told agent agent' same]
    by_cases now : ready' agent'
    · rw [if_pos now, if_pos now]
      exact ih true agent agent' same
    · rw [if_neg now, if_neg now]
      by_cases brief : span = some 0
      · rw [if_pos brief, if_pos brief]
        exact ih false agent agent' same
      · rw [if_neg brief, if_neg brief]
        refine .some ⟨same, .some ⟨?_, told, continued⟩⟩
        have time := same.time
        cases span with
        | none => rfl
        | some span =>
          show some (agent.time + span - past.time) = some (agent'.time + span - past'.time)
          congr 1
          omega

/-- Hooks in step leave schedules alike. -/
theorem act_alike (alike : Alike watched past past' schedule schedule') {hook hook' : Act κ ν Unit}
    (inStep : Act.InStep (Agent.Alike watched past past') Eq hook hook')
    (led : Act.Leads Agent.SameTime hook) :
    Option.Rel (Alike watched past past') (schedule.act hook) (schedule'.act hook') := by
  have went := goOn_alike (inStep _ _ alike.agent)
  have timed (final : Schedule κ ν) (acted : schedule.act hook = some final) :=
    (act_leads alike.proper led acted).2
  unfold act at timed ⊢
  generalize hook.goOn schedule.agent = ended, hook'.goOn schedule'.agent = ended' at went timed ⊢
  cases went with
  | none => exact .none
  | @some ended ended' same =>
    obtain ⟨agent, pause⟩ := ended
    obtain ⟨agent', pause'⟩ := ended'
    obtain ⟨agents, pauses⟩ := same
    cases pauses with
    | none => exact .some ⟨agents, alike.paused, timed _ rfl⟩
    | some pauses =>
      exact .some ⟨agents, List.rel_append alike.paused (.cons pauses .nil), timed _ rfl⟩

/-- Without the hooks at the same place, schedules stay alike. -/
theorem Alike.eraseIdx (alike : Alike watched past past' schedule schedule') (index : Nat) :
    Alike watched past past' ⟨schedule.agent, schedule.paused.eraseIdx index⟩
      ⟨schedule'.agent, schedule'.paused.eraseIdx index⟩ where
  agent := alike.agent
  paused := by
    dsimp only
    rw [List.eraseIdx_eq_take_drop_succ, List.eraseIdx_eq_take_drop_succ]
    exact List.rel_append (List.forall₂_take index alike.paused) (List.forall₂_drop (index + 1) alike.paused)
  proper other member := alike.proper other (List.mem_of_mem_eraseIdx member)

/-- **Turns of the same place leave schedules alike.** -/
theorem take_alike {native : NativeHost κ ν} (watches : native.Watches watched) (depth : Nat)
    (alike : Alike watched past past' schedule schedule') (turn : Turn) :
    Option.Rel (Alike watched past past')
      (schedule.take (native.host past.events) depth (turn.after past))
      (schedule'.take (native.host past'.events) depth (turn.after past')) := by
  cases turn with
  | monitor id =>
    have woken : Alike watched past past'
        ⟨schedule.agent.modifyMonitor (past.monitor id) Hang.Monitor.wake, schedule.paused⟩
        ⟨schedule'.agent.modifyMonitor (past'.monitor id) Hang.Monitor.wake, schedule'.paused⟩ :=
      ⟨alike.agent.modifyMonitor id (fun origin monitor sight => monitor.wake_relativeTo origin sight)
        fun _ _ => rfl, alike.paused, alike.proper⟩
    have calling := woken.agent.isCalling id
    unfold take
    dsimp only [Turn.after] at calling ⊢
    rw [calling]
    by_cases inside : (schedule'.agent.modifyMonitor (past'.monitor id) Hang.Monitor.wake).isCalling
        (past'.monitor id)
    · rw [if_pos inside, if_pos inside]
      exact act_alike woken (Agent.hook_inStep watches depth id)
        (Agent.hook_sameTime native past.events depth (past.monitor id))
    · rw [if_neg inside, if_neg inside]
      exact .some woken
  | hook index =>
    have pauses := alike.paused
    unfold take
    dsimp only [Turn.after]
    rcases lt_or_ge index schedule.paused.length with bound | beyond
    · have bound' : index < schedule'.paused.length := pauses.length_eq ▸ bound
      have pause : Pause.Alike watched past past' schedule.paused[index] schedule'.paused[index] :=
        pauses.get bound bound'
      rw [List.getElem?_eq_getElem bound, List.getElem?_eq_getElem bound']
      dsimp only
      rw [pause.ready _ _ alike.agent]
      exact act_alike (alike.eraseIdx index) (pause.next _) (alike.proper _ (List.getElem_mem bound) _)
    · have beyond' : schedule'.paused.length ≤ index := pauses.length_eq ▸ beyond
      rw [List.getElem?_eq_none beyond, List.getElem?_eq_none beyond']
      exact .some alike

/-! ### Turns -/

/-- The turns of the hooks that wait. -/
def hookTurns (schedule : Schedule κ ν) : List (Int × Turn) :=
  schedule.paused.zipIdx.filterMap fun (pause, index) =>
    (pause.wakes? schedule.agent).map fun time => (time, Turn.hook index)

/-- All turns but those of the monitors of a past, counted from there. -/
def turnsAfter (past : Past) (schedule : Schedule κ ν) : List (Int × Turn) :=
  (schedule.agent.relativeTo past).monitorTurns ++
    schedule.hookTurns.map fun timed => (timed.1 - past.time, timed.2)

/-- The turns are those of the monitors of the past, and all others. -/
theorem turns_eq (settled : schedule.agent.Settled past) :
    schedule.turns = (schedule.agent.elders past).monitorTurns ++
      (schedule.turnsAfter past).map (Turn.timedAfter past) := by
  have hooks : (schedule.hookTurns.map fun timed => (timed.1 - past.time, timed.2)).map
      (Turn.timedAfter past) = schedule.hookTurns := by
    unfold hookTurns
    rw [List.map_filterMap, List.map_filterMap]
    refine List.filterMap_congr fun (pause, index) _ => ?_
    dsimp only
    cases pause.wakes? schedule.agent with
    | none => rfl
    | some time =>
      show some (time - past.time + past.time, Turn.hook index) = some (time, Turn.hook index)
      rw [Int.sub_add_cancel]
  have parts : schedule.turns = schedule.agent.monitorTurns ++ schedule.hookTurns := rfl
  rw [parts, Agent.monitorTurns_eq settled, turnsAfter, List.map_append, hooks, List.append_assoc]

/-- Apart from the monitors of the pasts, schedules that are alike have the same turns. -/
theorem turnsAfter_eq (alike : Alike watched past past' schedule schedule') :
    schedule.turnsAfter past = schedule'.turnsAfter past' := by
  have wakes {pause pause' : Pause κ ν} (same : Pause.Alike watched past past' pause pause') :
      (pause.wakes? schedule.agent).map (· - past.time) =
        (pause'.wakes? schedule'.agent).map (· - past'.time) := by
    unfold Pause.wakes?
    rw [same.ready _ _ alike.agent, apply_ite (Option.map _), apply_ite (Option.map _), same.due]
    exact congrArg (ite _ · _) (congrArg some alike.agent.time)
  have hooks {pauses pauses' : List (Pause κ ν)}
      (same : List.Forall₂ (Pause.Alike watched past past') pauses pauses') (start : Nat) :
      ((pauses.zipIdx start).filterMap fun (pause, index) =>
          ((pause.wakes? schedule.agent).map (· - past.time)).map fun time => (time, Turn.hook index)) =
        (pauses'.zipIdx start).filterMap fun (pause, index) =>
          ((pause.wakes? schedule'.agent).map (· - past'.time)).map fun time => (time, Turn.hook index) := by
    induction same generalizing start with
    | nil => rfl
    | cons pause _ ih =>
      rw [List.zipIdx_cons, List.zipIdx_cons, List.filterMap_cons, List.filterMap_cons, ih]
      dsimp only
      rw [wakes pause]
  have relative (past : Past) (schedule : Schedule κ ν) :
      schedule.hookTurns.map (fun timed => (timed.1 - past.time, timed.2)) =
        schedule.paused.zipIdx.filterMap fun (pause, index) =>
          ((pause.wakes? schedule.agent).map (· - past.time)).map fun time => (time, Turn.hook index) := by
    unfold hookTurns
    rw [List.map_filterMap]
    refine List.filterMap_congr fun (pause, index) _ => ?_
    dsimp only
    cases pause.wakes? schedule.agent <;> rfl
  unfold turnsAfter
  rw [alike.agent.same]
  rw [relative, relative, hooks alike.paused 0]

/-- The next turn is one at which a monitor of the past ends, or the next one of all others. -/
theorem next?_cases (settled : schedule.agent.Settled past) :
    (∃ id, schedule.next? = some (schedule.agent.time, .monitor id) ∧
      (schedule.agent.modifyMonitor id Hang.Monitor.wake).isCalling id = false ∧
      Agent.Fades past schedule.agent (schedule.agent.modifyMonitor id Hang.Monitor.wake)) ∨
    schedule.next? = (Turn.earliest? (schedule.turnsAfter past)).map (Turn.timedAfter past) := by
  unfold next?
  rw [turns_eq settled]
  rcases Turn.earliest?_append (schedule.agent.elders past).monitorTurns
    ((schedule.turnsAfter past).map (Turn.timedAfter past)) with ⟨⟨time, turn⟩, member, found⟩ | same
  · obtain ⟨rfl, id, rfl, quiet, fades⟩ := Agent.fades_of_turn settled member
    exact .inl ⟨id, found, quiet, fades⟩
  · exact .inr (same.trans (Turn.earliest?_timedAfter past _))

/-! ### Waits -/

/-- At times that are counted from the pasts, schedules stay alike. -/
theorem passTo_alike (alike : Alike watched past past' schedule schedule') {time time' : Int}
    (times : time - past.time = time' - past'.time) :
    Alike watched past past' (schedule.passTo time) (schedule'.passTo time') := by
  refine ⟨alike.agent.later ?_, alike.paused, alike.proper⟩
  have := alike.agent.time
  omega

/-- A turn takes no time. -/
theorem take_time {native : NativeHost κ ν} {events depth : Nat} {turn : Turn} {later : Schedule κ ν}
    (proper : schedule.Proper Agent.SameTime)
    (taken : schedule.take (native.host events) depth turn = some later) :
    later.agent.time = schedule.agent.time := by
  have wake (agent : Agent κ ν) (id : MonitorId) :
      Agent.SameTime agent (agent.modifyMonitor id Hang.Monitor.wake) := by
    unfold Agent.SameTime
    rw [(Agent.modifyMonitor_besides agent id _).2]
  exact (take_leads wake (Agent.hook_sameTime native events depth) proper taken).1

section Pass

variable {host : Host κ ν} {depth count : Nat} {limit : Option Int} {ready : Agent κ ν → Bool}

theorem passTo_now (schedule : Schedule κ ν) : schedule.passTo schedule.agent.time = schedule :=
  congrArg (fun time => Schedule.mk { schedule.agent with time := time } schedule.paused)
    (Int.max_self schedule.agent.time)

theorem pass_ready (now : ready schedule.agent = true) :
    pass host depth limit ready (count + 1) schedule = some (true, schedule) := by
  unfold pass
  rw [if_pos now]

/-- A wait without turns lasts to its limit. -/
theorem pass_idle (unready : ready schedule.agent = false) (next : schedule.next? = none) :
    pass host depth limit ready (count + 1) schedule =
      limit.map fun limit => (false, schedule.passTo limit) := by
  have waits : ¬ ready schedule.agent = true := by rw [unready]; exact Bool.false_ne_true
  conv_lhs => unfold pass
  rw [if_neg waits, next]
  cases limit <;> rfl

/-- A wait ends at its limit if the next turn is later. -/
theorem pass_over {time : Int} {turn : Turn} (unready : ready schedule.agent = false)
    (next : schedule.next? = some (time, turn)) (tooLate : limit.any (· < time) = true) :
    pass host depth limit ready (count + 1) schedule = some (false, schedule.passTo (limit.getD time)) := by
  have waits : ¬ ready schedule.agent = true := by rw [unready]; exact Bool.false_ne_true
  conv_lhs => unfold pass
  rw [if_neg waits, next]
  exact if_pos tooLate

/-- A wait goes on after a turn that is not too late. -/
theorem pass_turn {time : Int} {turn : Turn} (unready : ready schedule.agent = false)
    (next : schedule.next? = some (time, turn)) (early : limit.any (· < time) = false) :
    pass host depth limit ready (count + 1) schedule =
      ((schedule.passTo time).take host depth turn).bind (pass host depth limit ready count) := by
  have waits : ¬ ready schedule.agent = true := by rw [unready]; exact Bool.false_ne_true
  conv_lhs => unfold pass
  rw [if_neg waits, next]
  dsimp only
  rw [if_neg (by rw [early]; exact Bool.false_ne_true)]
  cases (schedule.passTo time).take host depth turn <;> rfl

/-- A turn at which a monitor of the past ends changes nothing else. -/
theorem pass_fading {id : MonitorId} (unready : ready schedule.agent = false)
    (next : schedule.next? = some (schedule.agent.time, .monitor id))
    (quiet : (schedule.agent.modifyMonitor id Hang.Monitor.wake).isCalling id = false)
    (early : limit.any (· < schedule.agent.time) = false) :
    pass host depth limit ready (count + 1) schedule =
      pass host depth limit ready count
        { schedule with agent := schedule.agent.modifyMonitor id Hang.Monitor.wake } := by
  rw [pass_turn unready next early, passTo_now]
  unfold take
  dsimp only
  rw [quiet]
  rfl

end Pass

/-- Two limits, counted from the pasts, are the same. -/
theorem late_iff {limit limit' : Option Int}
    (limits : limit.map (· - past.time) = limit'.map (· - past'.time)) {time time' : Int}
    (times : time - past.time = time' - past'.time) :
    limit.any (· < time) = limit'.any (· < time') := by
  cases rel_of_map_eq limits with
  | none => rfl
  | some same =>
    refine decide_eq_decide.mpr ?_
    omega

/-- What is not past the limit at two times is not past it at the later one. -/
theorem early_max {limit : Option Int} {time time' : Int} (early : limit.any (· < time) = false)
    (early' : limit.any (· < time') = false) : limit.any (· < max time time') = false := by
  cases limit with
  | none => rfl
  | some limit =>
    have first : ¬ limit < time := of_decide_eq_false early
    have second : ¬ limit < time' := of_decide_eq_false early'
    refine decide_eq_false ?_
    omega

/-- Where the limits are the same, so are the times at which waits end. -/
theorem getD_times {limit limit' : Option Int}
    (limits : limit.map (· - past.time) = limit'.map (· - past'.time)) {time time' : Int}
    (times : time - past.time = time' - past'.time) :
    limit.getD time - past.time = limit'.getD time' - past'.time := by
  cases rel_of_map_eq limits with
  | none => exact times
  | some same => exact same

section Waits

variable {native : NativeHost κ ν} (watches : native.Watches watched) {depth : Nat}
  {limit limit' : Option Int} (limits : limit.map (· - past.time) = limit'.map (· - past'.time))
  {ready ready' : Agent κ ν → Bool} {answer : Bool} {final : Schedule κ ν}

include watches limits

/-- Where no monitor of a past ends next, schedules that are alike take the same turn, or end the wait
alike. -/
theorem pass_alike_of_next {count budget : Nat} (alike : Alike watched past past' schedule schedule')
    (early : limit.any (· < schedule.agent.time) = false) (unready : ready schedule.agent = false)
    (unready' : ready' schedule'.agent = false)
    (next : schedule.next? = (Turn.earliest? (schedule.turnsAfter past)).map (Turn.timedAfter past))
    (next' : schedule'.next? = (Turn.earliest? (schedule'.turnsAfter past')).map (Turn.timedAfter past'))
    (further : ∀ {later later'}, Alike watched past past' later later' →
      limit.any (· < later.agent.time) = false →
      pass (native.host past.events) depth limit ready count later = some (answer, final) →
      ∃ final', pass (native.host past'.events) depth limit' ready' budget later' = some (answer, final') ∧
        Alike watched past past' final final')
    (passed : pass (native.host past.events) depth limit ready (count + 1) schedule =
      some (answer, final)) :
    ∃ final', pass (native.host past'.events) depth limit' ready' (budget + 1) schedule' =
        some (answer, final') ∧
      Alike watched past past' final final' := by
  rw [turnsAfter_eq alike] at next
  cases found : Turn.earliest? (schedule'.turnsAfter past') with
  | none =>
    rw [found] at next next'
    rw [pass_idle unready next] at passed
    rw [pass_idle unready' next']
    cases rel_of_map_eq limits with
    | none => cases passed
    | some same =>
      cases passed
      exact ⟨_, rfl, passTo_alike alike same⟩
  | some timed =>
    obtain ⟨time, turn⟩ := timed
    rw [found] at next next'
    have times : time + past.time - past.time = time + past'.time - past'.time := by omega
    cases tooLate : limit.any (· < time + past.time) with
    | true =>
      have tooLate' := (late_iff limits times).symm.trans tooLate
      rw [pass_over unready next tooLate] at passed
      rw [pass_over unready' next' tooLate']
      cases passed
      exact ⟨_, rfl, passTo_alike alike (getD_times limits times)⟩
    | false =>
      have tooLate' := (late_iff limits times).symm.trans tooLate
      rw [pass_turn unready next tooLate] at passed
      rw [pass_turn unready' next' tooLate']
      obtain ⟨later, taken, passed⟩ := Option.bind_eq_some_iff.mp passed
      have turns := take_alike watches depth (passTo_alike alike times) turn
      dsimp only [Turn.timedAfter] at taken ⊢
      rw [taken] at turns
      generalize (schedule'.passTo (time + past'.time)).take (native.host past'.events) depth
        (turn.after past') = taken' at turns ⊢
      cases turns with
      | some still =>
        have timed : later.agent.time = max schedule.agent.time (time + past.time) :=
          take_time (passTo_alike alike times).proper taken
        exact further still (timed ▸ early_max early tooLate) passed

/-- **What the one schedule comes to while its owner waits, the other one does**, if it may take turns enough
for the monitors of its past to end before each turn of another kind. -/
theorem pass_alike
    (told : ∀ agent agent', Agent.Alike watched past past' agent agent' → ready agent = ready' agent')
    {count : Nat} (alike : Alike watched past past' schedule schedule')
    (early : limit.any (· < schedule.agent.time) = false)
    (passed : pass (native.host past.events) depth limit ready count schedule = some (answer, final))
    {count' : Nat} (enough : count * (past'.lingering + 1) ≤ count') :
    ∃ final', pass (native.host past'.events) depth limit' ready' count' schedule' =
        some (answer, final') ∧
      Alike watched past past' final final' := by
  induction count generalizing schedule schedule' count' with
  | zero => cases passed
  | succ count ih =>
    -- The other schedule first lets monitors of its past end, of which there are fewer and fewer.
    have inner (lingering : Nat) : ∀ {schedule' count'}, Alike watched past past' schedule schedule' →
        (schedule'.agent.elders past').lingering = lingering →
        count * (past'.lingering + 1) + lingering < count' →
        ∃ final', pass (native.host past'.events) depth limit' ready' count' schedule' =
            some (answer, final') ∧
          Alike watched past past' final final' := by
      induction lingering using Nat.strongRecOn with
      | ind lingering fewer =>
        rintro schedule' count' alike rfl enough
        obtain ⟨budget, rfl⟩ : ∃ budget, count' = budget + 1 := ⟨count' - 1, by omega⟩
        cases now : ready schedule.agent with
        | true =>
          rw [pass_ready now] at passed
          cases passed
          exact ⟨schedule', pass_ready ((told _ _ alike.agent).symm.trans now), alike⟩
        | false =>
          have now' : ready' schedule'.agent = false := (told _ _ alike.agent).symm.trans now
          rcases next?_cases alike.agent.settled' with ⟨id, next', quiet, fades⟩ | next'
          · rw [pass_fading now' next' quiet ((late_iff limits alike.agent.time).symm.trans early)]
            have less := fades.fewer
            exact fewer _ less ⟨fades.alike' alike.agent, alike.paused, alike.proper⟩ rfl (by omega)
          · rcases next?_cases alike.agent.settled with ⟨id, next, quiet, fades⟩ | next
            · rw [pass_fading now next quiet early] at passed
              have still : Alike watched past past'
                  { schedule with agent := schedule.agent.modifyMonitor id Hang.Monitor.wake } schedule' :=
                ⟨fades.alike alike.agent, alike.paused, alike.proper⟩
              have time : (schedule.agent.modifyMonitor id Hang.Monitor.wake).time = schedule.agent.time := by
                rw [fades.besides]
              exact ih still (time ▸ early) passed (by omega)
            · exact pass_alike_of_next watches limits alike early now now' next next'
                (fun still early passed => ih still early passed (by omega)) passed
    have few := alike.agent.settled'.lingering
    refine inner _ alike rfl ?_
    rw [Nat.succ_mul] at enough
    omega

end Waits

/-- **What the owner does in step runs alike**, if the other schedule may take turns enough. -/
theorem run_alike {native : NativeHost κ ν} (watches : native.Watches watched) {depth count count' : Nat}
    (enough : count * (past'.lingering + 1) ≤ count') {fits : α → α → Prop} {act act' : Act κ ν α}
    {agent agent' : Agent κ ν}
    (lockstep : Act.Lockstep (Agent.Alike watched past past') fits act agent act' agent')
    {result : α} {final : Schedule κ ν} (here : schedule.agent = agent) (here' : schedule'.agent = agent')
    (paused : List.Forall₂ (Pause.Alike watched past past') schedule.paused schedule'.paused)
    (proper : schedule.Proper Agent.SameTime)
    (ran : (act.run (move (native.host past.events) depth count)).run schedule = some (result, final)) :
    ∃ result' final', (act'.run (move (native.host past'.events) depth count')).run schedule' =
        some (result', final') ∧
      fits result result' ∧ Alike watched past past' final final' := by
  induction lockstep generalizing schedule schedule' with
  | done same fit =>
    subst here here'
    cases ran
    exact ⟨_, _, rfl, fit, same, paused, proper⟩
  | get continued ih =>
    subst here here'
    exact ih rfl rfl paused proper ran
  | @set changed changed' next next' agent agent' continued ih =>
    have there : (Schedule.mk changed schedule.paused).agent = changed := rfl
    have there' : (Schedule.mk changed' schedule'.paused).agent = changed' := rfl
    exact ih there there' paused proper ran
  | @wait span ready ready' next next' agent agent' same told continued ih =>
    subst here here'
    obtain ⟨⟨answer, middle⟩, moved, further⟩ := Option.bind_eq_some_iff.mp ran
    have limits : (span.map fun span => schedule.agent.time + (span : Int)).map (· - past.time) =
        (span.map fun span => schedule'.agent.time + (span : Int)).map (· - past'.time) := by
      have time := same.time
      cases span with
      | none => rfl
      | some span =>
        refine congrArg some ?_
        dsimp only
        omega
    have early : (span.map fun span => schedule.agent.time + (span : Int)).any (· < schedule.agent.time) =
        false := by
      cases span with
      | none => rfl
      | some span =>
        have later : ¬ schedule.agent.time + (span : Int) < schedule.agent.time := by omega
        exact decide_eq_false later
    obtain ⟨middle', moved', alike⟩ :=
      pass_alike watches limits told ⟨same, paused, proper⟩ early moved enough
    obtain ⟨result', final', ran', fit, ends⟩ :=
      ih answer _ _ alike.agent rfl rfl alike.paused alike.proper further
    exact ⟨result', final', Option.bind_eq_some_iff.mpr ⟨_, moved', ran'⟩, fit, ends⟩
  | fail => cases ran

end Schedule

end CrashReporter
