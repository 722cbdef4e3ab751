import Courier.Broker.State

namespace Courier

/-! # Errors of the bus

A bus call fails for one of a few reasons: a topic or subscription is missing
and may not be created, a broker call failed, a subscription already has a
handler, or the bus is shutting down. A failed broker call keeps the name of
the call and the broker's own error. -/

inductive BusError where
  | topicNotFound (name : String)
  | subscriptionNotFound (name : String)
  /-- A broker call failed; `operation` names the call. -/
  | transport (operation : String) (source : GatewayError)
  | serialization (reason : String)
  | alreadySubscribed (name : String)
  | shuttingDown
  deriving DecidableEq, Repr

namespace BusError

def kind : BusError → String
  | .topicNotFound _ => "TopicNotFound"
  | .subscriptionNotFound _ => "SubscriptionNotFound"
  | .transport _ _ => "Transport"
  | .serialization _ => "Serialization"
  | .alreadySubscribed _ => "AlreadySubscribed"
  | .shuttingDown => "ShuttingDown"

def message : BusError → String
  | .topicNotFound name => "Topic not found: " ++ name
  | .subscriptionNotFound name => "Subscription not found: " ++ name
  | .transport operation source => "Broker call " ++ operation ++ " failed: " ++ source.message
  | .serialization reason => "Serialization error: " ++ reason
  | .alreadySubscribed name => "Subscription " ++ name ++ " already has an active handler"
  | .shuttingDown => "Event bus is shutting down"

/-- Whether the error says that a resource is missing and may not be created. -/
def isProvisioning : BusError → Bool
  | .topicNotFound _ | .subscriptionNotFound _ => true
  | _ => false

end BusError

end Courier
