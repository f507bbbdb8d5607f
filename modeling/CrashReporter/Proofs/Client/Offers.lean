/-
**What holds of everything that surroundings offer holds of every call.**

`Client.Access` is the only way in which a call touches its surroundings. What a call makes of its client
itself is one of few changes (`ClientCall.Makes`); everything else is done by callbacks, by adding
breadcrumbs and by reading. A property of computations that survives composition (`Composes`) therefore
holds of a call as soon as it holds of these changes and of what the surroundings offer
(`Client.Access.Offers`), whatever the call is: `answer_of_offers`.
-/

import CrashReporter.Client.Call
import Mathlib.Tactic.Common

namespace CrashReporter

variable {m : Type → Type} [Monad m]

/-- A property of computations that survives composition. -/
structure Composes (Good : ⦃α : Type⦄ → m α → Prop) : Prop where
  pure : ∀ {α : Type} (result : α), Good (pure result : m α)
  bind : ∀ {α β : Type} {first : m α} {next : α → m β}, Good first → (∀ result, Good (next result)) →
    Good (first >>= next)

variable {κ ρ : Type} {Good : ⦃α : Type⦄ → m α → Prop}

/-- A walk is as good as the evaluation of its callbacks. -/
theorem Registry.walk_of_composes (composes : Composes Good) {evaluate : κ → ρ → m (Verdict × ρ)}
    (evaluates : ∀ callback record, Good (evaluate callback record))
    (entries : List (CallbackId × κ)) (record : ρ) : Good (walk evaluate entries record) := by
  induction entries generalizing record with
  | nil => exact composes.pure _
  | cons entry entries ih =>
    refine composes.bind (evaluates entry.2 record) fun (verdict, after) => ?_
    cases verdict with
    | refuse => exact composes.pure _
    | accept => exact ih after
    | panic => exact ih after

/-- What a call makes of its client at once, breadcrumbs apart. -/
inductive ClientCall.Makes : ClientCall κ → (Client κ → Client κ) → Prop
  | clearTrail : Makes .clearTrail fun client => client.setTrail client.template.trail.clear
  | write (change : Write) : Makes (.write change) (·.write change)
  | setDelivery (delivery : Delivery κ) : Makes (.setDelivery delivery) (·.setDelivery delivery)
  | addOnError (callback : κ) : Makes (.addOnError callback) fun client => (client.addOnError callback).2
  | removeOnError (id : CallbackId) :
    Makes (.removeOnError id) fun client => (client.removeOnError id).2
  | addOnBreadcrumb (callback : κ) :
    Makes (.addOnBreadcrumb callback) fun client => (client.addOnBreadcrumb callback).2
  | removeOnBreadcrumb (id : CallbackId) :
    Makes (.removeOnBreadcrumb id) fun client => (client.removeOnBreadcrumb id).2
  | enableHangs (buffer : Hang.Buffer) (sight : Hang.Sight) :
    Makes (.enableHangs buffer) fun client => (client.enableHangs buffer sight).2
  | disableHangs : Makes .disableHangs fun client => client.disableHangs.2
  | close : Makes .close fun client => client.close.2

namespace Client.Access

/-- A property of everything that surroundings offer, and of the changes that a call makes. -/
structure Offers (Good : ⦃α : Type⦄ → m α → Prop) (call : ClientCall κ) (access : Access κ m) :
    Prop where
  get : Good access.get
  modify : ∀ {change}, call.Makes change → Good (access.modify change)
  modifyGet : ∀ {α} {change : Client κ → α × Client κ}, call.Makes (fun client => (change client).2) →
    Good (access.modifyGet change)
  now : Good access.now
  append : ∀ breadcrumb, Good (access.append breadcrumb)
  look : ∀ buffer, Good (access.look buffer)
  consult : ∀ callback event, Good (access.consult callback event)
  notice : ∀ callback breadcrumb, Good (access.notice callback breadcrumb)
  deliver : ∀ delivery event, Good (access.deliver delivery event)
  join : ∀ index, Good (access.join index)

variable {access : Access κ m} {call : ClientCall κ} (composes : Composes Good)
  (offers : access.Offers Good call)

include composes offers

theorem stop_of_offers {change : Client κ → Option Nat × Client κ}
    (made : call.Makes fun client => (change client).2) : Good (access.stop change) := by
  refine composes.bind (offers.modifyGet made) fun stopped => ?_
  cases stopped with
  | none => exact composes.pure _
  | some monitor => exact composes.bind (offers.join monitor) fun _ => composes.pure _

theorem push_of_offers (breadcrumb : Breadcrumb) : Good (access.trail.push breadcrumb) := by
  refine composes.bind (composes.bind offers.get fun _ => composes.pure _) fun trail => ?_
  refine composes.bind (Registry.walk_of_composes composes offers.notice _ _) fun (accepted, after) => ?_
  cases accepted with
  | false => exact composes.pure _
  | true => exact composes.bind (offers.append after) fun _ => composes.pure _

theorem leave_of_offers (message : String) (kind : BreadcrumbKind) :
    Good (access.trail.leave message kind) := by
  refine composes.bind offers.now fun now => ?_
  cases Breadcrumb.make now message kind with
  | error cause => exact composes.pure _
  | ok breadcrumb => exact push_of_offers composes offers breadcrumb

theorem conclude_of_offers (status : DeliveryStatus) (breadcrumb : Option Breadcrumb) :
    Good (access.conclude status breadcrumb) := by
  unfold conclude
  split
  · exact composes.bind (offers.append _) fun _ => composes.pure _
  · exact composes.pure _

theorem report_of_offers (event : EventRecord) : Good (access.report event) := by
  refine composes.bind offers.get fun client => ?_
  cases client.gate? event with
  | some outcome => exact composes.pure _
  | none =>
    refine composes.bind (Registry.walk_of_composes composes offers.consult _ _)
      fun (accepted, last) => ?_
    cases accepted with
    | false => exact composes.pure _
    | true =>
      refine composes.bind offers.now fun now => ?_
      refine composes.bind (composes.bind offers.get fun _ => offers.deliver _ _) fun status => ?_
      cases status with
      | none => exact composes.pure _
      | some status =>
        exact composes.bind (conclude_of_offers composes offers status _) fun _ => composes.pure _

theorem notify_of_offers (errorClass : String) (message : Option String) (severity : Severity) :
    Good (access.notify errorClass message severity) := by
  refine composes.bind offers.get fun client => ?_
  split
  · exact composes.pure _
  · refine composes.bind offers.now fun now => ?_
    cases (client.template.snapshot now).setError errorClass message with
    | error cause => exact composes.pure _
    | ok event =>
      exact composes.bind (report_of_offers composes offers _) fun _ => composes.pure _

theorem reportHang_of_offers : Good access.reportHang := by
  refine composes.bind offers.get fun client => composes.bind offers.now fun now => ?_
  dsimp only
  split
  · exact composes.pure _
  · exact report_of_offers composes offers _

end Client.Access

/-- **A call is as good as what its surroundings offer.** -/
theorem Client.Access.answer_of_offers {access : Access κ m} (composes : Composes Good)
    (call : ClientCall κ) (offers : access.Offers Good call) : Good (access.answer call) := by
  cases call with
  | notify errorClass message severity =>
    exact notify_of_offers composes offers errorClass message severity
  | report event => exact report_of_offers composes offers event
  | reportHang => exact reportHang_of_offers composes offers
  | leave message kind => exact leave_of_offers composes offers message kind
  | push breadcrumb => exact push_of_offers composes offers breadcrumb
  | clearTrail => exact offers.modify .clearTrail
  | write change => exact offers.modify (.write change)
  | inspect => exact offers.get
  | setDelivery delivery => exact offers.modify (.setDelivery delivery)
  | addOnError callback => exact offers.modifyGet (.addOnError callback)
  | removeOnError id => exact offers.modifyGet (.removeOnError id)
  | addOnBreadcrumb callback => exact offers.modifyGet (.addOnBreadcrumb callback)
  | removeOnBreadcrumb id => exact offers.modifyGet (.removeOnBreadcrumb id)
  | enableHangs buffer =>
    exact composes.bind (offers.look buffer) fun sight => offers.modifyGet (.enableHangs buffer sight)
  | disableHangs => exact stop_of_offers composes offers .disableHangs
  | close => exact composes.bind (stop_of_offers composes offers .close) fun _ => composes.pure _

end CrashReporter
