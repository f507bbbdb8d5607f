/-
**What holds of small acts holds of every request.**

An agent answers a request by reading itself, changing itself, waiting or failing; the callbacks of its host
are made of requests again. A property of acts that survives composition, and that holds of reading, waiting
and failing and of every change that leads on in a given way (`Act.Admits`), therefore holds of a script if
it holds of what the script asks for (`run_of_asks`), and of a request if the changes that the request makes
of the agent lead on, and those of a call in particular (`access_offers`, `perform_of_admits`).
-/

import CrashReporter.Agent.Perform
import CrashReporter.Proofs.Client.Offers
import CrashReporter.Proofs.Program.Runs

namespace CrashReporter

variable {κ ν α : Type}

/-- Everything that a host asks for is allowed. -/
structure Host.Asks (host : Host κ ν) (allowed : Request κ ν → Prop) : Prop where
  onError : ∀ callback event, (host.onError callback event).Asks allowed
  onBreadcrumb : ∀ callback breadcrumb, (host.onBreadcrumb callback breadcrumb).Asks allowed
  deliver : ∀ callback event, (host.deliver callback event).Asks allowed
  deliverNative : ∀ callback event, (host.deliverNative callback event).Asks allowed

/-- The client that a happening is about. -/
def Happening.client : Happening κ → ClientId
  | .consulted client .. => client
  | .noticed client .. => client
  | .added client _ => client
  | .delivered client .. => client

/-- A callback or a delivery was called. -/
def Happening.IsCall : Happening κ → Prop
  | .added .. => False
  | _ => True

namespace Agent

/-- What a call does to the agent itself leads on. -/
structure Bears (leads : Agent κ ν → Agent κ ν → Prop) (id : ClientId) (call : ClientCall κ) :
    Prop where
  tick : ∀ agent, leads agent agent.readClock.2
  change : ∀ {agent client change}, agent.client? id = some client → call.Makes change →
    leads agent (agent.setClient id (change client))
  breadcrumb : ∀ agent breadcrumb, leads agent (agent.addBreadcrumb id breadcrumb)
  note : ∀ agent happening, happening.IsCall → happening.client = id → leads agent (agent.note happening)

end Agent

/-- A property of acts that survives composition, and holds of small acts if the changes that they make
lead on. -/
structure Act.Admits (Good : ⦃α : Type⦄ → Act κ ν α → Prop) (leads : Agent κ ν → Agent κ ν → Prop) :
    Prop where
  composes : Composes Good
  gets : ∀ {α : Type} (read : Agent κ ν → α), Good (gets read)
  modify : ∀ {change : Agent κ ν → Agent κ ν}, (∀ agent, leads agent (change agent)) →
    Good (modify change : Act κ ν PUnit)
  modifyGet : ∀ {α : Type} {change : Agent κ ν → α × Agent κ ν}, (∀ agent, leads agent (change agent).2) →
    Good (modifyGet change : Act κ ν α)
  /-- Whoever changes a client finds it as the agent has it. -/
  withClient : ∀ {α : Type} {host : Host κ ν} {caller : Option MonitorId}
    {run : {α : Type} → Script κ ν α → Act κ ν α} {id : ClientId} {change : Client κ → Client κ}
    (answer : Client κ → α),
    (∀ {agent : Agent κ ν} {client}, agent.client? id = some client →
      leads agent (agent.setClient id (change client))) →
    Good ((Agent.access host caller run id).get >>= fun client =>
      (Agent.access host caller run id).set (change client) >>= fun _ => pure (answer client))
  wait : ∀ span ready, Good (wait span ready)
  fail : ∀ {α : Type}, Good (fail : Act κ ν α)

namespace Agent

variable {Good : ⦃α : Type⦄ → Act κ ν α → Prop} {leads : Agent κ ν → Agent κ ν → Prop} {host : Host κ ν}
  {caller : Option MonitorId} {allowed : Request κ ν → Prop}

/-- A script is as good as the answers to what it asks for. -/
theorem run_of_asks (composes : Composes Good) {answer : (request : Request κ ν) → Act κ ν request.Answer}
    (answers : ∀ request, allowed request → Good (answer request)) {script : Script κ ν α}
    (asks : script.Asks allowed) : Good (script.run answer) := by
  induction script with
  | done result => exact composes.pure result
  | ask request next ih =>
    exact composes.bind (answers request asks.1) fun result => ih result (asks.2 result)

section Access

variable {run : {α : Type} → Script κ ν α → Act κ ν α} {id : ClientId}

theorem access_get (host : Host κ ν) (caller : Option MonitorId)
    (run : {α : Type} → Script κ ν α → Act κ ν α) (id : ClientId) :
    (access host caller run id).get =
      (get >>= fun agent => (agent.client? id).elim Act.fail pure : Act κ ν (Client κ)) := by
  unfold access
  refine congrArg (get >>= ·) (funext fun agent => ?_)
  cases agent.client? id <;> rfl

variable (admits : Act.Admits Good leads)

include admits

/-- What surrounds a call is good if what the call does to the agent leads on, and the callbacks are
good. -/
theorem access_offers {call : ClientCall κ} (bears : Bears leads id call)
    (onError : ∀ callback event, Good (run (host.onError callback event)))
    (onBreadcrumb : ∀ callback breadcrumb, Good (run (host.onBreadcrumb callback breadcrumb)))
    (deliver : ∀ callback event, Good (run (host.deliver callback event)))
    (deliverNative : ∀ callback event, Good (run (host.deliverNative callback event))) :
    (access host caller run id).Offers Good call where
  get := by
    rw [access_get]
    refine admits.composes.bind (admits.gets _) fun agent => ?_
    cases agent.client? id with
    | none => exact admits.fail
    | some client => exact admits.composes.pure client
  modify made := admits.withClient (fun _ => ()) fun held => bears.change held made
  modifyGet {_ change} made := admits.withClient (fun client => (change client).1) fun held =>
    bears.change held made
  now := admits.modifyGet bears.tick
  append breadcrumb := admits.modify fun agent => bears.breadcrumb agent breadcrumb
  look buffer := admits.gets _
  consult callback event :=
    admits.composes.bind (admits.modify fun agent => bears.note agent _ trivial rfl)
      fun _ => onError callback event
  notice callback breadcrumb :=
    admits.composes.bind (admits.modify fun agent => bears.note agent _ trivial rfl)
      fun _ => onBreadcrumb callback breadcrumb
  deliver delivery event := by
    refine admits.composes.bind (admits.modify fun agent => bears.note agent _ trivial rfl) fun _ => ?_
    cases delivery with
    | log => exact admits.composes.pure _
    | host function => exact deliver function event
    | native function =>
      exact admits.composes.bind (deliverNative function event) fun _ => admits.composes.pure _
  join index := by
    show Good (if _ then _ else _)
    split
    · exact admits.composes.pure ()
    · exact admits.composes.bind (admits.wait _ _) fun _ => admits.composes.pure ()

/-- **A request is good**, however deep calls are nested, if what it does to the agent itself leads on, and
everything that the host asks for when it is called is allowed. -/
theorem perform_of_admits (bears : ∀ id task, allowed (.call id task) → Bears leads id task)
    (asks : ∀ id task, allowed (.call id task) → host.Asks allowed)
    (install : ∀ agent client, allowed (.install client) → leads agent (agent.install client))
    (besides : ∀ {agent final : Agent κ ν}, final.clients = agent.clients →
      final.journal = agent.journal → leads agent final) (caller : Option MonitorId) (depth : Nat) :
    ∀ request : Request κ ν, allowed request → Good (perform host caller depth request) := by
  -- Callbacks are run one level below.
  induction depth with
  | zero => exact fun _ _ => admits.fail
  | succ depth ih =>
    intro request permitted
    have beside {result : Type} {change : Agent κ ν → result × Agent κ ν}
        (clients : ∀ agent, (change agent).2.clients = agent.clients)
        (journal : ∀ agent, (change agent).2.journal = agent.journal) :
        Good (modifyGet change : Act κ ν result) :=
      admits.modifyGet fun agent => besides (clients agent) (journal agent)
    cases request with
    | «recall» => exact admits.gets _
    | remember notes => exact admits.modify fun agent => besides rfl rfl
    | now => exact beside (fun _ => rfl) fun _ => rfl
    | call id task =>
      have below {α : Type} {script : Script κ ν α} (permitted : script.Asks allowed) :
          Good (script.run (perform host caller depth)) := run_of_asks admits.composes ih permitted
      have called := asks id task permitted
      exact Client.Access.answer_of_offers admits.composes task
        (access_offers admits (bears id task permitted)
          (fun callback event => below (called.onError callback event))
          (fun callback breadcrumb => below (called.onBreadcrumb callback breadcrumb))
          (fun callback event => below (called.deliver callback event))
          (fun callback event => below (called.deliverNative callback event)))
    | current => exact admits.gets _
    | install client => exact admits.modify fun agent => install agent client permitted
    | uninstall => exact beside (fun _ => rfl) fun _ => rfl
    | addEvent event => exact beside (fun _ => rfl) fun _ => rfl
    | event handle => exact admits.gets _
    | setEvent handle event => exact admits.modify fun agent => besides rfl rfl
    | load address => exact admits.gets _
    | store address value => exact admits.modify fun agent => besides rfl rfl
    | caller => exact admits.composes.pure caller
    | wait span ready => exact admits.wait _ _

end Access

end Agent

end CrashReporter
