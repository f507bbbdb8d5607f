/-
**Deliveries: who takes an event over, and what becomes of it.**
-/

namespace CrashReporter

/-- What became of an event that was handed over. -/
inductive DeliveryStatus where
  | delivered
  /-- It could not be sent now and was kept for later. -/
  | undelivered
  /-- It was lost. -/
  | failure
  deriving DecidableEq, Repr

/-- What became of a report. -/
inductive Outcome where
  | delivered
  | undelivered
  | failed
  /-- A callback refused it. -/
  | vetoed
  /-- Its error class is never reported. -/
  | discarded
  /-- Its release stage is not enabled. -/
  | filtered
  /-- The client was closed. -/
  | closed
  deriving DecidableEq, Repr

/-- Who takes events over. -/
inductive Delivery (κ : Type) where
  /-- The agent's own log, which takes every event. -/
  | log
  /-- A function of the host. -/
  | host (function : κ)
  /-- A native function, which answers with a code. -/
  | native (function : κ)

namespace DeliveryStatus

/-- The name of a status. -/
def name : DeliveryStatus → String
  | .delivered => "delivered"
  | .undelivered => "undelivered"
  | .failure => "failure"

/-- The code of a status. -/
def code : DeliveryStatus → Int32
  | .delivered => 0
  | .undelivered => 1
  | .failure => 2

/-- The status of a code. An unknown code is a failure. -/
def ofCode (code : Int32) : DeliveryStatus :=
  if code = 0 then .delivered else if code = 1 then .undelivered else .failure

/-- What a status means for a report. -/
def outcome : DeliveryStatus → Outcome
  | .delivered => .delivered
  | .undelivered => .undelivered
  | .failure => .failed

end DeliveryStatus

/-- The name of an outcome. -/
def Outcome.name : Outcome → String
  | .delivered => "Delivered"
  | .undelivered => "Undelivered"
  | .failed => "Failed"
  | .vetoed => "Vetoed"
  | .discarded => "Discarded"
  | .filtered => "Filtered"
  | .closed => "Closed"

/-- The event of a report was taken over, now or for later. -/
def Outcome.isSent : Outcome → Bool
  | .delivered => true
  | .undelivered => true
  | _ => false

end CrashReporter
