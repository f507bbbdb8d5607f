/-
**Threads that share a client.**

What a thread does with a client that others use at the same time is one `Step` after the other (`stepwise`), and a
`Turn` takes the next step of one of the threads, no matter which. Adding a breadcrumb is a single step, because
the trail is locked meanwhile. Callbacks and deliveries belong to the thread that calls them, and take
their steps in its turns.

A thread that sets some part of a client leaves the others as they are meanwhile, whatever it has read of them
before. So no turn but one that adds a breadcrumb touches the trail, as long as nobody clears it, and `Turns` are
the runs in which nobody does.
-/

import CrashReporter.Client.Call
import CrashReporter.Program

namespace CrashReporter

/-- A call that was made, and what it answered. -/
structure ClientCall.Made (κ : Type) where
  call : ClientCall κ
  answer : call.Answer

namespace Client

/-- What a thread asks of a client. -/
inductive Step (κ : Type) where
  | get
  | set (changed : Client κ)
  | now
  | append (breadcrumb : Breadcrumb)
  | look (buffer : Hang.Buffer)
  | join (monitor : Nat)

/-- The answer to a step. -/
abbrev Step.Answer {κ : Type} : Step κ → Type
  | .get => Client κ
  | .now => Instant
  | .look _ => Hang.Sight
  | _ => Unit

/-- What a thread does. -/
abbrev Thread (κ α : Type) := Program (Step κ) Step.Answer α

/-- What callbacks and deliveries do in the thread that calls them. -/
structure Behaviour (κ : Type) where
  onError : κ → EventRecord → Thread κ (Verdict × EventRecord)
  onBreadcrumb : κ → Breadcrumb → Thread κ (Verdict × Breadcrumb)
  /-- There is no status if the delivery panics. -/
  deliver : Delivery κ → EventRecord → Thread κ (Option DeliveryStatus)

variable {κ α : Type} {m : Type → Type}

/-- The client as a thread uses it. -/
def stepwise (behaviour : Behaviour κ) : Access κ (Program (Step κ) Step.Answer) where
  get := Program.request Step.get
  set changed := Program.request (Step.set changed)
  now := Program.request Step.now
  append breadcrumb := Program.request (Step.append breadcrumb)
  look buffer := Program.request (Step.look buffer)
  consult := behaviour.onError
  notice := behaviour.onBreadcrumb
  deliver := behaviour.deliver
  join monitor := Program.request (Step.join monitor)

/-- Makes calls one after the other. -/
def Access.answerAll [Monad m] (access : Access κ m) : List (ClientCall κ) → m (List (ClientCall.Made κ))
  | [] => pure []
  | call :: calls => do
    let answer ← access.answer call
    let made ← access.answerAll calls
    pure (⟨call, answer⟩ :: made)

/-! ### Turns -/

/-- Other parts of a client may have changed, but its trail has the same breadcrumbs and size. -/
def SameTrail (client after : Client κ) : Prop :=
  after.template.trail.entries = client.template.trail.entries ∧
    after.template.trail.capacity = client.template.trail.capacity

/-- What a step may answer, and what it may leave of a client where nobody clears the trail: a breadcrumb is added at
some reading of the clock, and nothing else adds or removes one. -/
def Step.Allows (client : Client κ) : (step : Step κ) → step.Answer → Client κ → Prop
  | .get, answer, after => answer = client ∧ after = client
  | .append breadcrumb, _, after =>
    ∃ now, after = client.setTrail (client.template.trail.append now breadcrumb)
  | .set _, _, after => client.SameTrail after
  | .now, _, after => client.SameTrail after
  | .look _, _, after => client.SameTrail after
  | .join _, _, after => client.SameTrail after

/-- The breadcrumb that a step adds. -/
def Step.added? : Step κ → Option Breadcrumb
  | .append breadcrumb => some breadcrumb
  | _ => none

/-- A client, and what is left of each thread. -/
structure Pool (κ α : Type) where
  client : Client κ
  threads : List (Thread κ α)

/-- One of the threads takes its next step, and a breadcrumb that it adds is noted with the number of the
thread. -/
inductive Turn : Pool κ α → List (Nat × Breadcrumb) → Pool κ α → Prop
  | take {client after : Client κ} {threads : List (Thread κ α)} {number : Nat} {step : Step κ}
      {next : step.Answer → Thread κ α} {answer : step.Answer} (asks : threads[number]? = some (.ask step next))
      (allowed : step.Allows client answer after) :
      Turn ⟨client, threads⟩ (step.added?.toList.map (Prod.mk number))
        ⟨after, threads.set number (next answer)⟩

/-- Turns one after the other, and the breadcrumbs that were added in their order. -/
inductive Turns : Pool κ α → List (Nat × Breadcrumb) → Pool κ α → Prop
  | none (pool : Pool κ α) : Turns pool [] pool
  | next {start pool after : Pool κ α} {history added : List (Nat × Breadcrumb)}
      (turns : Turns start history pool) (turn : Turn pool added after) : Turns start (history ++ added) after

end Client

end CrashReporter
