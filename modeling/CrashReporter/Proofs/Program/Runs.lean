/-
**Runs of programs, and what they leave behind.**

A `Meaning` says what a question does to a state: the marks that it leaves, the state after it, and the
program whose result is the answer. `Runs` is the run that follows from it: a question is replaced by the
program of its meaning, so that a question that makes callbacks ask further questions contains their
runs, and the marks of a run are in the order in which they were left.

* `run_bind`: running is a morphism of monads, whoever answers;
* `Runs.of_run`: an interpreter whose answers follow a meaning has only runs of that meaning, however deep
  it counts;
* `Runs.preserves`: what every question does to the state by its marks, the run does by its own.
-/

import CrashReporter.Program
import Mathlib.Tactic.Common

namespace CrashReporter.Program

variable {Call : Type} {Answer : Call → Type} {α β γ : Type}

/-! ### Programs in sequence -/

theorem bind_done (program : Program Call Answer α) :
    program.bind Program.done = program := by
  induction program with
  | done result => rfl
  | ask call next ih =>
    show Program.ask call (fun answer => (next answer).bind Program.done) = Program.ask call next
    rw [funext ih]

theorem bind_bind (program : Program Call Answer α) (next : α → Program Call Answer β)
    (last : β → Program Call Answer γ) :
    (program.bind next).bind last = program.bind fun result => (next result).bind last := by
  induction program with
  | done result => rfl
  | ask call rest ih =>
    show Program.ask call (fun answer => ((rest answer).bind next).bind last) = _
    rw [funext ih]
    rfl

instance : LawfulMonad (Program Call Answer) :=
  LawfulMonad.mk' (Program Call Answer) (fun program => bind_done program) (fun _ _ => rfl)
    (fun program next last => bind_bind program next last)

section Run

variable {m : Type → Type} [Monad m] (perform : (call : Call) → m (Answer call))

@[simp] theorem run_request [LawfulMonad m] (call : Call) :
    (request call : Program Call Answer (Answer call)).run perform = perform call := by
  show (perform call >>= fun answer => pure answer) = perform call
  rw [bind_pure]

@[simp] theorem run_bind [LawfulMonad m] (program : Program Call Answer α)
    (next : α → Program Call Answer β) :
    (program >>= next).run perform = program.run perform >>= fun result =>
      (next result).run perform := by
  induction program with
  | done result =>
    show (next result).run perform = (pure result : m α) >>= _
    rw [pure_bind]
  | ask call rest ih =>
    show (perform call >>= fun answer => ((rest answer) >>= next).run perform) =
      (perform call >>= fun answer => (rest answer).run perform) >>= _
    rw [bind_assoc]
    exact congrArg (perform call >>= ·) (funext ih)

end Run

/-- Running a program by programs and then these is running it by what these do. -/
theorem run_run {m : Type → Type} [Monad m] [LawfulMonad m] {Move : Type} {Reply : Move → Type}
    (perform : (call : Call) → Program Move Reply (Answer call)) (act : (move : Move) → m (Reply move))
    (program : Program Call Answer α) :
    (program.run perform).run act = program.run fun call => (perform call).run act := by
  induction program with
  | done result => rfl
  | ask call next ih =>
    show (perform call >>= fun answer => (next answer).run perform).run act = _
    rw [run_bind]
    exact congrArg ((perform call).run act >>= ·) (funext ih)

/-! ### What programs may ask and give -/

/-- Every question that a program may come to ask is allowed. -/
def Asks (allowed : Call → Prop) : Program Call Answer α → Prop
  | .done _ => True
  | .ask call next => allowed call ∧ ∀ answer, (next answer).Asks allowed

theorem Asks.imp {allowed permitted : Call → Prop} (weaker : ∀ call, allowed call → permitted call)
    {program : Program Call Answer α} (asks : program.Asks allowed) : program.Asks permitted := by
  induction program with
  | done result => trivial
  | ask call next ih => exact ⟨weaker call asks.1, fun answer => ih answer (asks.2 answer)⟩

/-- Where everything is allowed, a program may ask anything. -/
theorem Asks.free (program : Program Call Answer α) : program.Asks fun _ => True := by
  induction program with
  | done result => trivial
  | ask call next ih => exact ⟨trivial, ih⟩

theorem Asks.bind {allowed : Call → Prop} {program : Program Call Answer α}
    {next : α → Program Call Answer β} (first : program.Asks allowed)
    (second : ∀ result, (next result).Asks allowed) : (program >>= next).Asks allowed := by
  induction program with
  | done result => exact second result
  | ask call rest ih => exact ⟨first.1, fun answer => ih answer (first.2 answer)⟩

/-- Every result that a program may come to give is as told. -/
def Gives (told : α → Prop) : Program Call Answer α → Prop
  | .done result => told result
  | .ask _ next => ∀ answer, (next answer).Gives told

/-! ### Runs -/

/-- What a question does to a state, and the program whose result is the answer. -/
structure Reply (Call : Type) (Answer : Call → Type) (σ μ α : Type) where
  marks : List μ
  state : σ
  program : Program Call Answer α

/-- What the questions mean in a state. -/
abbrev Meaning (Call : Type) (Answer : Call → Type) (σ μ : Type) :=
  (call : Call) → σ → Reply Call Answer σ μ (Answer call)

variable {σ μ ι : Type}

/-- The same meaning with other marks. -/
def Meaning.marked (meaning : Meaning Call Answer σ μ) (marks : Call → σ → List ι) :
    Meaning Call Answer σ ι :=
  fun call state => ⟨marks call state, (meaning call state).state, (meaning call state).program⟩

/-- A program runs from a state to a result and another state, and leaves marks on the way. -/
inductive Runs (meaning : Meaning Call Answer σ μ) :
    {α : Type} → Program Call Answer α → σ → List μ → α → σ → Prop
  | done {α : Type} (result : α) (state : σ) : Runs meaning (.done result) state [] result state
  | ask {α : Type} {call : Call} {next : Answer call → Program Call Answer α}
      {state middle final : σ} {marks rest : List μ} {answer : Answer call} {result : α}
      (answered : Runs meaning (meaning call state).program (meaning call state).state
        marks answer middle)
      (continued : Runs meaning (next answer) middle rest result final) :
      Runs meaning (.ask call next) state ((meaning call state).marks ++ marks ++ rest) result final

namespace Runs

variable {meaning : Meaning Call Answer σ μ} {state middle final : σ} {marks rest : List μ}

theorem bind {program : Program Call Answer α} {next : α → Program Call Answer β} {result : α}
    {last : β} (first : Runs meaning program state marks result middle)
    (second : Runs meaning (next result) middle rest last final) :
    Runs meaning (program >>= next) state (marks ++ rest) last final := by
  induction first with
  | done result state => exact second
  | ask answered continued _ ih =>
    rw [List.append_assoc]
    exact .ask answered (ih second)

theorem request {call : Call} {answer : Answer call}
    (answered : Runs meaning (meaning call state).program (meaning call state).state
      marks answer final) :
    Runs meaning (Program.request call) state ((meaning call state).marks ++ marks) answer final := by
  have whole := Runs.ask answered (.done answer final)
  rwa [List.append_nil] at whole

/-- The run of a single question is the run of the program of its meaning. -/
theorem of_request {call : Call} {answer : Answer call}
    (run : Runs meaning (Program.request call) state marks answer final) :
    ∃ inner, marks = (meaning call state).marks ++ inner ∧
      Runs meaning (meaning call state).program (meaning call state).state inner answer final := by
  cases run with
  | ask answered continued =>
    cases continued with
    | done => exact ⟨_, by rw [List.append_nil], answered⟩

/-- The run of two programs in sequence is a run of the first and then one of the second. -/
theorem of_bind {program : Program Call Answer α} {next : α → Program Call Answer β} {last : β}
    (run : Runs meaning (program >>= next) state marks last final) :
    ∃ earlier later result middle, marks = earlier ++ later ∧
      Runs meaning program state earlier result middle ∧
      Runs meaning (next result) middle later last final := by
  induction program generalizing state marks with
  | done result => exact ⟨[], marks, result, state, rfl, .done result state, run⟩
  | ask call rest ih =>
    change Runs meaning (.ask call fun answer => rest answer >>= next) state marks last final at run
    cases run with
    | ask answered continued =>
      obtain ⟨earlier, later, result, middle, rfl, first, second⟩ := ih _ continued
      refine ⟨_, later, result, middle, ?_, .ask answered first, second⟩
      simp only [List.append_assoc]

/-- **A relation between states and marks that every question respects is respected by every
run.** -/
theorem preserves {Leads : σ → List μ → σ → Prop} (none : ∀ state, Leads state [] state)
    (append : ∀ {state middle final marks rest}, Leads state marks middle →
      Leads middle rest final → Leads state (marks ++ rest) final)
    (one : ∀ call state, Leads state (meaning call state).marks (meaning call state).state)
    {program : Program Call Answer α} {result : α}
    (run : Runs meaning program state marks result final) : Leads state marks final := by
  induction run with
  | done result state => exact none state
  | ask _ _ answeredLeads continuedLeads =>
    exact append (append (one _ _) answeredLeads) continuedLeads

/-- What is run is run whatever marks it leaves. -/
theorem marked {program : Program Call Answer α} {result : α}
    (run : Runs meaning program state marks result final) (others : Call → σ → List ι) :
    ∃ left, Runs (meaning.marked others) program state left result final := by
  induction run with
  | done result state => exact ⟨[], .done result state⟩
  | ask _ _ answered continued =>
    obtain ⟨_, answered⟩ := answered
    obtain ⟨_, continued⟩ := continued
    exact ⟨_, .ask answered continued⟩

/-- **An interpreter whose answers follow a meaning has only runs of that meaning.** -/
theorem of_run {perform : (call : Call) → StateT σ Option (Answer call)}
    (follows : ∀ call state answer final, (perform call).run state = some (answer, final) →
      ∃ marks, Runs meaning (Program.request call) state marks answer final)
    {program : Program Call Answer α} {result : α}
    (ran : (program.run perform).run state = some (result, final)) :
    ∃ marks, Runs meaning program state marks result final := by
  induction program generalizing state with
  | done result =>
    cases ran
    exact ⟨[], .done _ _⟩
  | ask call next ih =>
    obtain ⟨⟨answer, middle⟩, answered, continued⟩ := Option.bind_eq_some_iff.mp ran
    obtain ⟨marks, first⟩ := follows call state answer middle answered
    obtain ⟨rest, second⟩ := ih answer continued
    have whole : Runs meaning (Program.request call >>= next) state (marks ++ rest) result final :=
      first.bind second
    exact ⟨marks ++ rest, whole⟩

end Runs

/-- A run gives one of the results that its program may give. -/
theorem gives_of_run {told : α → Prop} {perform : (call : Call) → StateT σ Option (Answer call)}
    {program : Program Call Answer α} (gives : program.Gives told) {state final : σ} {result : α}
    (ran : (program.run perform).run state = some (result, final)) : told result := by
  induction program generalizing state with
  | done result =>
    cases ran
    exact gives
  | ask call next ih =>
    obtain ⟨⟨answer, middle⟩, _, continued⟩ := Option.bind_eq_some_iff.mp ran
    exact ih answer (gives answer) continued

/-- **A program that asks only what is always answered comes to an end.** -/
theorem run_isSome {allowed : Call → Prop} {perform : (call : Call) → StateT σ Option (Answer call)}
    (answers : ∀ call, allowed call → ∀ state, ((perform call).run state).isSome)
    {program : Program Call Answer α} (asks : program.Asks allowed) (state : σ) :
    ((program.run perform).run state).isSome := by
  induction program generalizing state with
  | done result => rfl
  | ask call next ih =>
    obtain ⟨⟨answer, middle⟩, answered⟩ := Option.isSome_iff_exists.mp (answers call asks.1 state)
    have continued := ih answer (asks.2 answer) middle
    show (((perform call).run state).bind _).isSome
    rw [answered]
    exact continued

end CrashReporter.Program
