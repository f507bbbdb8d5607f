/-
**Tours: what a record meets on its way past the callbacks.**

A `Visit` is the call of one callback: the record and the state that it was given, what it left of them,
the marks that it made meanwhile, and how it ended. A `Tour` says which visits make up a walk:

* they follow the callbacks from the first one on, each once, up to the first one that refuses;
* each is given the record and the state as the one before it left them;
* the walk accepts the record exactly if no visit refuses it.

`walk_tour` and `tour_of_runs`: whatever a walk gives, there is a tour that gives it.
-/

import CrashReporter.Proofs.Program.Runs
import CrashReporter.Registry.Basic

namespace CrashReporter.Registry

open Program (Meaning Runs)

/-- The call of one callback. -/
structure Visit (κ ρ σ μ : Type) where
  entry : CallbackId × κ
  /-- The record that it is shown. -/
  before : ρ
  /-- The state that it starts in. -/
  start : σ
  /-- What it leaves behind on its way. -/
  marks : List μ
  verdict : Verdict
  /-- The record as it leaves it. -/
  after : ρ
  /-- The state that it ends in. -/
  finish : σ

/-- The visits of a walk that takes a record and a state past the entries. -/
structure Tour {κ ρ σ μ : Type} (Genuine : Visit κ ρ σ μ → Prop) (entries : List (CallbackId × κ))
    (record : ρ) (state : σ) (visits : List (Visit κ ρ σ μ)) (accepted : Bool) (result : ρ)
    (final : σ) : Prop where
  genuine : ∀ visit ∈ visits, Genuine visit
  /-- The entries are visited in their order, all of them if the record is accepted. -/
  in_order : ∃ unvisited, entries = visits.map Visit.entry ++ unvisited ∧
    (accepted = true → unvisited = [])
  /-- The record is accepted exactly if no visit refuses it; a panic is no refusal. -/
  accepted_iff : accepted = true ↔ ∀ visit ∈ visits, visit.verdict ≠ .refuse
  /-- Nothing is visited after a refusal. -/
  refusal_last : ∀ earlier visit later, visits = earlier ++ visit :: later →
    visit.verdict = .refuse → later = []
  /-- Each visit is shown the record that the one before it left, the first one the given record. -/
  records : visits.map Visit.before ++ [result] = record :: visits.map Visit.after
  /-- Each visit starts in the state that the one before it ended in. -/
  states : visits.map Visit.start ++ [final] = state :: visits.map Visit.finish

namespace Tour

variable {κ ρ σ μ : Type} {Genuine : Visit κ ρ σ μ → Prop} {entries : List (CallbackId × κ)}
  {record result : ρ} {state final : σ} {visits : List (Visit κ ρ σ μ)} {accepted : Bool}

theorem nil : Tour Genuine [] record state [] true record state where
  genuine := by simp
  in_order := ⟨[], rfl, fun _ => rfl⟩
  accepted_iff := by simp
  refusal_last earlier visit later split := by simp at split
  records := rfl
  states := rfl

/-- A visit that refuses the record is the whole tour. -/
theorem refused (visit : Visit κ ρ σ μ) (genuine : Genuine visit)
    (refuses : visit.verdict = .refuse) (rest : List (CallbackId × κ)) :
    Tour Genuine (visit.entry :: rest) visit.before visit.start [visit] false visit.after
      visit.finish where
  genuine := by simpa using genuine
  in_order := ⟨rest, rfl, by simp⟩
  accepted_iff := by simp [refuses]
  refusal_last earlier other later split _ := by
    have lengths := congrArg List.length split
    simp only [List.length_append, List.length_cons, List.length_nil] at lengths
    exact List.eq_nil_of_length_eq_zero (by omega)
  records := rfl
  states := rfl

/-- A visit that does not refuse the record is followed by the tour of the other entries. -/
theorem cons (visit : Visit κ ρ σ μ) (genuine : Genuine visit) (passes : visit.verdict ≠ .refuse)
    (rest : Tour Genuine entries visit.after visit.finish visits accepted result final) :
    Tour Genuine (visit.entry :: entries) visit.before visit.start (visit :: visits) accepted
      result final where
  genuine := by
    intro other member
    rcases List.mem_cons.mp member with rfl | member
    · exact genuine
    · exact rest.genuine other member
  in_order := by
    obtain ⟨unvisited, split, all⟩ := rest.in_order
    exact ⟨unvisited, by rw [split]; rfl, all⟩
  accepted_iff := by
    rw [rest.accepted_iff, List.forall_mem_cons]
    exact (and_iff_right passes).symm
  refusal_last earlier other later split refuses := by
    cases earlier with
    | nil =>
      obtain ⟨rfl, _⟩ := List.cons.inj split
      exact absurd refuses passes
    | cons _ earlier =>
      exact rest.refusal_last earlier other later (List.cons.inj split).2 refuses
  records := congrArg (visit.before :: ·) rest.records
  states := congrArg (visit.start :: ·) rest.states

/-- A relation that leads from the start of every visit to its end, by what it is said to leave, leads from the
start of the tour to its end. -/
theorem leads {τ : Type} (left : Visit κ ρ σ μ → List τ) {Leads : σ → List τ → σ → Prop}
    (none : ∀ state, Leads state [] state)
    (append : ∀ {state middle final first rest}, Leads state first middle →
      Leads middle rest final → Leads state (first ++ rest) final)
    (one : ∀ visit, Genuine visit → Leads visit.start (left visit) visit.finish)
    (tour : Tour Genuine entries record state visits accepted result final) :
    Leads state (visits.flatMap left) final := by
  have genuine := tour.genuine
  have states := tour.states
  clear tour
  induction visits generalizing state with
  | nil =>
    obtain ⟨rfl, _⟩ := List.cons.inj states
    exact none final
  | cons visit visits ih =>
    obtain ⟨rfl, linked⟩ := List.cons.inj states
    rw [List.flatMap_cons]
    refine append (one visit (genuine visit List.mem_cons_self)) (ih ?_ linked)
    exact fun other member => genuine other (List.mem_cons_of_mem _ member)

end Tour

variable {κ ρ σ μ : Type}

/-- **A walk is a tour**, if every evaluation of a callback is a genuine visit. What is meant by the going of
a computation from a state to a result and another state is left open, as long as a sequence goes step by
step. -/
theorem walk_tour_of {m : Type → Type} [Monad m] {Genuine : Visit κ ρ σ μ → Prop}
    (Goes : ⦃α : Type⦄ → m α → σ → α → σ → Prop)
    (of_pure : ∀ {α : Type} {value result : α} {state final : σ},
      Goes (pure value) state result final → value = result ∧ state = final)
    (of_bind : ∀ {α β : Type} {first : m α} {next : α → m β} {state final : σ} {last : β},
      Goes (first >>= next) state last final →
        ∃ result middle, Goes first state result middle ∧ Goes (next result) middle last final)
    {evaluate : κ → ρ → m (Verdict × ρ)} {entries : List (CallbackId × κ)}
    (evaluated : ∀ entry ∈ entries, ∀ before start verdict after finish,
      Goes (evaluate entry.2 before) start (verdict, after) finish →
        ∃ marks, Genuine ⟨entry, before, start, marks, verdict, after, finish⟩)
    {record result : ρ} {state final : σ} {accepted : Bool}
    (walked : Goes (walk evaluate entries record) state (accepted, result) final) :
    ∃ visits, Tour Genuine entries record state visits accepted result final := by
  induction entries generalizing record state with
  | nil =>
    obtain ⟨ended, rfl⟩ := of_pure walked
    cases ended
    exact ⟨[], .nil⟩
  | cons entry entries ih =>
    obtain ⟨⟨verdict, after⟩, finish, answered, continued⟩ := of_bind walked
    obtain ⟨marks, genuine⟩ :=
      evaluated entry List.mem_cons_self record state verdict after finish answered
    have onward (passes : verdict ≠ .refuse)
        (walked : Goes (walk evaluate entries after) finish (accepted, result) final) :
        ∃ visits, Tour Genuine (entry :: entries) record state visits accepted result final := by
      obtain ⟨visits, tour⟩ :=
        ih (fun other member => evaluated other (List.mem_cons_of_mem _ member)) walked
      exact ⟨_, .cons _ genuine passes tour⟩
    cases verdict with
    | refuse =>
      obtain ⟨ended, rfl⟩ := of_pure continued
      cases ended
      exact ⟨_, .refused _ genuine rfl entries⟩
    | accept => exact onward (by simp) continued
    | panic => exact onward (by simp) continued

/-- A walk that may end without a result is a tour if it has one. -/
theorem walk_tour {Genuine : Visit κ ρ σ μ → Prop}
    {evaluate : κ → ρ → StateT σ Option (Verdict × ρ)} {entries : List (CallbackId × κ)}
    (evaluated : ∀ entry ∈ entries, ∀ before start verdict after finish,
      (evaluate entry.2 before).run start = some ((verdict, after), finish) →
        ∃ marks, Genuine ⟨entry, before, start, marks, verdict, after, finish⟩)
    {record result : ρ} {state final : σ} {accepted : Bool}
    (walked : (walk evaluate entries record).run state = some ((accepted, result), final)) :
    ∃ visits, Tour Genuine entries record state visits accepted result final := by
  refine walk_tour_of (m := StateT σ Option)
    (fun _ act state result final => act.run state = some (result, final)) ?_ ?_ evaluated walked
  · intro _ _ _ _ _ ended
    cases ended
    exact ⟨rfl, rfl⟩
  · intro _ _ _ _ _ _ _ ran
    obtain ⟨⟨result, middle⟩, first, second⟩ := Option.bind_eq_some_iff.mp ran
    exact ⟨result, middle, first, second⟩

/-- **A walk of a program is a tour** of runs of the callbacks, and its marks are theirs. -/
theorem tour_of_runs {Call : Type} {Answer : Call → Type} {meaning : Meaning Call Answer σ μ}
    {evaluate : κ → ρ → Program Call Answer (Verdict × ρ)} {entries : List (CallbackId × κ)}
    {record result : ρ} {state final : σ} {marks : List μ} {accepted : Bool}
    (runs : Runs meaning (walk evaluate entries record) state marks (accepted, result) final) :
    ∃ visits, Tour (fun visit => Runs meaning (evaluate visit.entry.2 visit.before) visit.start
        visit.marks (visit.verdict, visit.after) visit.finish) entries record state visits accepted
        result final ∧ marks = visits.flatMap Visit.marks := by
  induction entries generalizing record state marks with
  | nil =>
    cases runs
    exact ⟨[], .nil, rfl⟩
  | cons entry entries ih =>
    obtain ⟨earlier, later, ⟨verdict, after⟩, finish, rfl, evaluated, continued⟩ := Runs.of_bind runs
    cases verdict with
    | refuse =>
      cases continued
      refine ⟨_, .refused ⟨entry, record, state, earlier, .refuse, result, final⟩ evaluated rfl
        entries, ?_⟩
      simp
    | accept =>
      obtain ⟨visits, tour, rfl⟩ := ih continued
      refine ⟨_, .cons ⟨entry, record, state, earlier, .accept, after, finish⟩ evaluated (by simp) tour,
        ?_⟩
      simp
    | panic =>
      obtain ⟨visits, tour, rfl⟩ := ih continued
      refine ⟨_, .cons ⟨entry, record, state, earlier, .panic, after, finish⟩ evaluated (by simp) tour,
        ?_⟩
      simp

/-- A walk commutes with running the callbacks. -/
theorem run_walk {Call : Type} {Answer : Call → Type} {m : Type → Type} [Monad m] [LawfulMonad m]
    (perform : (call : Call) → m (Answer call))
    (evaluate : κ → ρ → Program Call Answer (Verdict × ρ)) (entries : List (CallbackId × κ))
    (record : ρ) :
    (walk evaluate entries record).run perform =
      walk (fun callback record => (evaluate callback record).run perform) entries record := by
  induction entries generalizing record with
  | nil => rfl
  | cons entry entries ih =>
    unfold walk
    rw [Program.run_bind]
    congr 1
    funext outcome
    obtain ⟨verdict, after⟩ := outcome
    cases verdict with
    | refuse => rfl
    | accept => exact ih after
    | panic => exact ih after

/-- A walk asks what the callbacks ask. -/
theorem asks_walk {Call : Type} {Answer : Call → Type} {allowed : Call → Prop}
    {evaluate : κ → ρ → Program Call Answer (Verdict × ρ)}
    (asks : ∀ callback record, (evaluate callback record).Asks allowed) (entries : List (CallbackId × κ))
    (record : ρ) : (walk evaluate entries record).Asks allowed := by
  induction entries generalizing record with
  | nil => trivial
  | cons entry entries ih =>
    refine (asks entry.2 record).bind ?_
    rintro ⟨verdict, after⟩
    cases verdict with
    | refuse => trivial
    | accept => exact ih after
    | panic => exact ih after

/-- **A walk comes to an end** if every evaluation of a callback does and leaves the record as it is told of it. -/
theorem walk_isSome_of (told : ρ → Prop) {evaluate : κ → ρ → StateT σ Option (Verdict × ρ)}
    {entries : List (CallbackId × κ)}
    (answers : ∀ entry ∈ entries, ∀ record state, told record →
      ∃ verdict after finish, (evaluate entry.2 record).run state = some ((verdict, after), finish) ∧ told after)
    {record : ρ} (holds : told record) (state : σ) : ((walk evaluate entries record).run state).isSome := by
  induction entries generalizing record state with
  | nil => rfl
  | cons entry entries ih =>
    obtain ⟨verdict, after, finish, answered, still⟩ := answers entry List.mem_cons_self record state holds
    have others := ih (fun other member => answers other (List.mem_cons_of_mem _ member)) still finish
    show (((evaluate entry.2 record).run state).bind _).isSome
    rw [answered]
    cases verdict with
    | refuse => rfl
    | accept => exact others
    | panic => exact others

/-- A walk comes to an end if every evaluation of a callback does. -/
theorem walk_isSome {evaluate : κ → ρ → StateT σ Option (Verdict × ρ)}
    {entries : List (CallbackId × κ)}
    (answers : ∀ entry ∈ entries, ∀ record state, ((evaluate entry.2 record).run state).isSome)
    (record : ρ) (state : σ) : ((walk evaluate entries record).run state).isSome := by
  refine walk_isSome_of (fun _ => True) (fun entry member record state _ => ?_) trivial state
  obtain ⟨⟨⟨verdict, after⟩, finish⟩, answered⟩ := Option.isSome_iff_exists.mp (answers entry member record state)
  exact ⟨verdict, after, finish, answered, trivial⟩

end CrashReporter.Registry
