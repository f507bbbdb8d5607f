/-
**Programs that ask their surroundings.**

A `Program` is what a callback does, as a finite tree: it is done with a result, or it asks a question and
goes on according to the answer. Who answers is decided by whoever runs it (`Program.run`), so the
same callback can be run on its own and inside an agent that it calls back into.
-/

namespace CrashReporter

/-- A computation that asks questions of type `Call`; the answer to a question has the type
`Answer call`. -/
inductive Program (Call : Type) (Answer : Call → Type) (α : Type) where
  | done (result : α)
  | ask (call : Call) (next : Answer call → Program Call Answer α)

namespace Program

variable {Call : Type} {Answer : Call → Type} {α β : Type} {m : Type → Type}

/-- Goes on with the result of a program. -/
def bind : Program Call Answer α → (α → Program Call Answer β) → Program Call Answer β
  | .done result, next => next result
  | .ask call rest, next => .ask call fun answer => (rest answer).bind next

instance : Monad (Program Call Answer) where
  pure := .done
  bind := .bind

/-- Asks one question. -/
def request (call : Call) : Program Call Answer (Answer call) :=
  .ask call .done

/-- Runs a program, answering its questions in their order. -/
def run [Monad m] (perform : (call : Call) → m (Answer call)) : Program Call Answer α → m α
  | .done result => pure result
  | .ask call next => do
    let answer ← perform call
    (next answer).run perform

end Program

end CrashReporter
