/-
**Paths through programs.**

Where others act between the questions of a program, a question may be answered in any way. A `Path` leads from a
program to what is left of it after some answers, and its marks are what was asked on the way. `Yields` is what
can be told of the marks and the result of a program whatever it is answered.

`of_path`, `of_paths`: what a program yields is what is so on each of its paths.
-/

import CrashReporter.Proofs.Program.Runs

namespace CrashReporter.Program

variable {Call : Type} {Answer : Call → Type} {α β μ : Type} {mark? : Call → Option μ}

/-- A way from a program to what is left of it, and what was asked on it. -/
inductive Path (mark? : Call → Option μ) : Program Call Answer α → List μ → Program Call Answer α → Prop
  | here (program : Program Call Answer α) : Path mark? program [] program
  | ask {call : Call} {next : Answer call → Program Call Answer α} {marks : List μ}
      {left : Program Call Answer α} (answer : Answer call) (onwards : Path mark? (next answer) marks left) :
      Path mark? (.ask call next) ((mark? call).toList ++ marks) left

namespace Path

theorem trans {program middle left : Program Call Answer α} {marks rest : List μ}
    (first : Path mark? program marks middle) (second : Path mark? middle rest left) :
    Path mark? program (marks ++ rest) left := by
  induction first with
  | here program => exact second
  | ask answer _ ih =>
    rw [List.append_assoc]
    exact .ask answer (ih second)

/-- A path of one step. -/
theorem step {call : Call} (next : Answer call → Program Call Answer α) (answer : Answer call) :
    Path mark? (.ask call next) (mark? call).toList (next answer) := by
  rw [← List.append_nil (mark? call).toList]
  exact .ask answer (.here (next answer))

theorem of_done {result : α} {marks : List μ} {left : Program Call Answer α}
    (path : Path mark? (.done result) marks left) : marks = [] ∧ left = .done result := by
  cases path
  exact ⟨rfl, rfl⟩

/-- A path to the end of two programs in sequence is one to the end of the first and then one to the end of the
second. -/
theorem of_bind {program : Program Call Answer α} {next : α → Program Call Answer β} {marks : List μ} {last : β}
    (path : Path mark? (program >>= next) marks (.done last)) :
    ∃ earlier later result, marks = earlier ++ later ∧ Path mark? program earlier (.done result) ∧
      Path mark? (next result) later (.done last) := by
  induction program generalizing marks with
  | done result => exact ⟨[], marks, result, rfl, .here _, path⟩
  | ask call rest ih =>
    change Path mark? (.ask call fun answer => rest answer >>= next) marks (.done last) at path
    cases path with
    | ask answer onwards =>
      obtain ⟨earlier, later, result, rfl, first, second⟩ := ih answer onwards
      exact ⟨_, later, result, (List.append_assoc _ _ _).symm, .ask answer first, second⟩

end Path

/-- Whatever is answered, the marks of a program and its result are as told. -/
def Yields (mark? : Call → Option μ) (told : List μ → α → Prop) : Program Call Answer α → Prop
  | .done result => told [] result
  | .ask call next => ∀ answer, (next answer).Yields mark? fun marks result =>
      told ((mark? call).toList ++ marks) result

namespace Yields

variable {told : List μ → α → Prop}

/-- **What a program yields is so on each of its paths.** -/
theorem of_path {program : Program Call Answer α} (yields : program.Yields mark? told) {marks : List μ} {result : α}
    (path : Path mark? program marks (.done result)) : told marks result := by
  induction program generalizing told marks with
  | done value =>
    cases path
    exact yields
  | ask call next ih =>
    cases path with
    | ask answer onwards => exact ih answer (yields answer) onwards

/-- What is so on each path of a program is what it yields. -/
theorem of_paths {program : Program Call Answer α}
    (each : ∀ marks result, Path mark? program marks (.done result) → told marks result) :
    program.Yields mark? told := by
  induction program generalizing told with
  | done result => exact each [] result (.here _)
  | ask call next ih => exact fun answer => ih answer fun marks result path => each _ result (.ask answer path)

theorem imp {weaker : List μ → α → Prop} (less : ∀ marks result, told marks result → weaker marks result)
    {program : Program Call Answer α} (yields : program.Yields mark? told) : program.Yields mark? weaker := by
  induction program generalizing told weaker with
  | done result => exact less [] result yields
  | ask call next ih => exact fun answer => ih answer (fun _ _ => less _ _) (yields answer)

theorem bind {program : Program Call Answer β} {next : β → Program Call Answer α}
    (yields : program.Yields mark? fun marks result =>
      (next result).Yields mark? fun rest last => told (marks ++ rest) last) :
    (program >>= next).Yields mark? told := by
  induction program generalizing told with
  | done result => exact yields
  | ask call rest ih =>
    intro answer
    refine ih answer ?_
    simp only [← List.append_assoc]
    exact yields answer

/-- A program that marks nothing may yield any result. -/
theorem silent {program : Program Call Answer α} (asks : program.Asks fun call => mark? call = none)
    (yields : ∀ result, told [] result) : program.Yields mark? told := by
  induction program generalizing told with
  | done result => exact yields result
  | ask call next ih =>
    intro answer
    rw [asks.1]
    exact ih answer (asks.2 answer) yields

end Yields

end CrashReporter.Program
