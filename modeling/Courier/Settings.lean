import Courier.Time.Duration

namespace Courier

/-! What a subscription promises about delivery: how long a delivered message is
leased before it counts as refused, how long messages are kept, how long to wait
before a refused message comes again, and after how many attempts it moves to
the dead-letter topic. -/

-- Powers of numbers are those of the core library, also where more algebra is
-- in scope; a literal exponent is given its type so that no default instance picks it.
attribute [local instance (high)] instPowNat

/-- Whether missing topics and subscriptions may be created on demand. -/
inductive ProvisioningPolicy where
  | requireExisting
  | autoProvision
  deriving DecidableEq, Repr, Inhabited

namespace ProvisioningPolicy

/-- Whether the policy lets the bus create what is missing. -/
def allowsCreate : ProvisioningPolicy → Bool
  | .autoProvision => true
  | .requireExisting => false

def name : ProvisioningPolicy → String
  | .requireExisting => "require_existing"
  | .autoProvision => "auto_provision"

def ofName? : String → Option ProvisioningPolicy
  | "require_existing" => some .requireExisting
  | "auto_provision" => some .autoProvision
  | _ => none

end ProvisioningPolicy

/-- The wait before a refused message is delivered again: the shortest wait,
doubled for each earlier attempt, and never more than the longest wait. -/
structure RetryBackoff where
  min : Duration
  max : Duration
  deriving DecidableEq, Repr

/-- Ten seconds at first, ten minutes at most. -/
def RetryBackoff.standard : RetryBackoff := ⟨.ofSecs 10, .ofSecs 600⟩

/-- The power of two that scales the wait, held in a 32-bit word that stops at
its largest value. -/
def backoffFactor (attempt : Nat) : Nat :=
  if 32 ≤ attempt - 1 then 2 ^ (32 : Nat) - 1 else Nat.min (2 ^ (attempt - 1)) (2 ^ (32 : Nat) - 1)

/-- The wait after a delivery attempt (attempts count from 1). -/
def RetryBackoff.delayAfter (backoff : RetryBackoff) (attempt : Nat) : Duration :=
  ((backoff.min.mulSaturating (backoffFactor attempt)).min backoff.max).max backoff.min

example : RetryBackoff.standard.delayAfter 3 = .ofSecs 40 := by decide
example : RetryBackoff.standard.delayAfter 0 = .ofSecs 10 := by decide
example : RetryBackoff.standard.delayAfter 4294967295 = .ofSecs 600 := by decide

/-- The topic that takes messages a subscription of `topic` gives up on. -/
def deadLetterTopic (topic : String) : String := topic ++ "-dlq"

structure DeadLetterPolicy where
  topic : String
  maxDeliveryAttempts : Nat
  deriving DecidableEq, Repr

structure SubscriptionSettings where
  ackDeadline : Duration
  retention : Duration
  retryBackoff : RetryBackoff
  deadLetter : DeadLetterPolicy
  deriving DecidableEq, Repr

def defaultAckDeadline : Duration := .ofSecs 30

def messageRetention : Duration := .ofSecs (7 * 24 * 60 * 60)

/-- A message is given up after five attempts. -/
def maxDeliveryAttempts : Nat := 5

/-- The standard settings of a subscription to a topic, with an optional ack deadline. -/
def SubscriptionSettings.forTopic (topic : String) (ackDeadline : Option Duration) :
    SubscriptionSettings :=
  { ackDeadline := ackDeadline.getD defaultAckDeadline
    retention := messageRetention
    retryBackoff := .standard
    deadLetter := ⟨deadLetterTopic topic, maxDeliveryAttempts⟩ }

end Courier
