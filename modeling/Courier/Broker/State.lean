import Courier.Settings

namespace Courier

/-! The state of an in-memory broker.

Topics keep every message published to them, in order, and the names of the
subscriptions attached to them. Each subscription keeps its own copies of the
messages published after it attached: waiting in its backlog, leased to a
consumer, waiting out a backoff after a refusal, acknowledged or dead-lettered.
A subscription leases at most `maxOutstanding` copies at a time, and never two
copies with the same ordering key.

Leased copies travel to the consumer through a delivery channel; each carries a
reply slot in which the consumer settles it. Channels and reply slots are
numbered by the broker. -/

inductive GatewayError where
  | alreadyExists (name : String)
  | notFound (name : String)
  | unavailable (reason : String)
  | rejected (reason : String)
  | closed (name : String)
  deriving DecidableEq, Repr

namespace GatewayError

def kind : GatewayError → String
  | .alreadyExists _ => "AlreadyExists"
  | .notFound _ => "NotFound"
  | .unavailable _ => "Unavailable"
  | .rejected _ => "Rejected"
  | .closed _ => "Closed"

def message : GatewayError → String
  | .alreadyExists name => "Resource already exists: " ++ name
  | .notFound name => "Resource not found: " ++ name
  | .unavailable reason => "Broker unavailable: " ++ reason
  | .rejected reason => "Request rejected: " ++ reason
  | .closed name => "Resource closed: " ++ name

end GatewayError

structure StoredMessage where
  messageId : String
  data : ByteArray
  attributes : List (String × String)
  orderingKey : Option String

/-- A subscription's copy of a message, with the delivery attempts made so far. -/
structure Pending where
  message : StoredMessage
  attempts : Nat

structure TopicState where
  name : String
  messages : List StoredMessage
  /-- Attached subscriptions, in the order they attached; a name attached twice
  appears twice. -/
  subscriptions : List String

structure SubscriptionState where
  name : String
  topic : String
  settings : SubscriptionSettings
  backlog : List Pending
  /-- The channel the broker delivers on, while it holds its sending end. -/
  sender : Option Nat
  busyKeys : List String
  outstanding : Nat
  maxOutstanding : Nat
  retrying : Nat
  acknowledged : List String
  deadLettered : List String

/-- A fresh subscription of a topic: nothing queued, one lease at a time. -/
def SubscriptionState.fresh (name topic : String) (settings : SubscriptionSettings) :
    SubscriptionState :=
  ⟨name, topic, settings, [], none, [], 0, 1, 0, [], []⟩

/-- A copy of a message handed to a consumer. -/
structure Delivery where
  messageId : String
  data : ByteArray
  attributes : List (String × String)
  attempt : Nat
  /-- The reply slot the consumer settles the delivery in. -/
  slot : Nat

/-- A delivery channel: a bounded buffer from the broker to one consumer. -/
structure Channel where
  id : Nat
  capacity : Nat
  buffer : List Delivery
  /-- Whether the consumer still receives; false once it closed or dropped its end. -/
  receiving : Bool
  /-- Whether the broker still holds the sending end. -/
  sending : Bool

inductive Reply where
  | waiting
  | ack
  | nack
  /-- The delivery was dropped unsettled. -/
  | dropped
  deriving DecidableEq, Repr

structure Faults where
  unavailable : Bool
  /-- Topics whose publishes fail once the given number more have succeeded. -/
  publish : List (String × Nat)
  flush : List String
  close : List String
  /-- Topics that appear, as if created by someone else, at the next existence check. -/
  racingTopics : List String
  lookupDelay : Option Duration

structure Counters where
  topicExists : Nat
  subscriptionExists : Nat
  createTopic : Nat
  createSubscription : Nat
  flush : Nat
  close : Nat
  /-- Publish calls by topic. -/
  publish : List (String × Nat)

/-- A lease: a copy of a message sent to a consumer, to be settled in a slot
before the ack deadline. -/
structure Lease where
  subscription : String
  pending : Pending
  slot : Nat
  ackDeadline : Duration

/-- What a broker call did that others must hear of. -/
inductive Notice where
  /-- An item was put on a channel. -/
  | delivered (channel : Nat)
  /-- A lease began; its deadline must be watched. -/
  | leased (lease : Lease)
  /-- A reply slot was settled or dropped. -/
  | replied (slot : Nat)
  /-- The broker let go of a channel's sending end. -/
  | senderGone (channel : Nat)

structure Broker where
  topics : List TopicState
  subscriptions : List SubscriptionState
  channels : List Channel
  replies : List (Nat × Reply)
  faults : Faults
  counters : Counters
  /-- The number of the last message id given out. -/
  nextId : Nat
  /-- The next number of a channel or reply slot. -/
  nextObject : Nat
  /-- A fixed wait before redelivery, replacing the subscription's backoff. -/
  retryDelay : Option Duration

namespace Broker

def empty (retryDelay : Option Duration) : Broker :=
  ⟨[], [], [], [], ⟨false, [], [], [], [], none⟩, ⟨0, 0, 0, 0, 0, 0, []⟩, 0, 0, retryDelay⟩

def topic? (b : Broker) (name : String) : Option TopicState := b.topics.find? (·.name == name)

def subscription? (b : Broker) (name : String) : Option SubscriptionState :=
  b.subscriptions.find? (·.name == name)

def channel? (b : Broker) (id : Nat) : Option Channel := b.channels.find? (·.id == id)

def hasTopic (b : Broker) (name : String) : Bool := (b.topic? name).isSome

def hasSubscription (b : Broker) (name : String) : Bool := (b.subscription? name).isSome

def modifyTopic (b : Broker) (name : String) (f : TopicState → TopicState) : Broker :=
  { b with topics := b.topics.map fun t => if t.name == name then f t else t }

def modifySubscription (b : Broker) (name : String) (f : SubscriptionState → SubscriptionState) :
    Broker :=
  { b with subscriptions := b.subscriptions.map fun s => if s.name == name then f s else s }

def modifyChannel (b : Broker) (id : Nat) (f : Channel → Channel) : Broker :=
  { b with channels := b.channels.map fun c => if c.id == id then f c else c }

/-- Put a subscription in place of the one of the same name, or add it. -/
def putSubscription (b : Broker) (s : SubscriptionState) : Broker :=
  if b.hasSubscription s.name then
    { b with subscriptions := b.subscriptions.map fun old => if old.name == s.name then s else old }
  else { b with subscriptions := b.subscriptions ++ [s] }

def unsettled (b : Broker) (name : String) : Nat :=
  match b.subscription? name with
  | some s => s.backlog.length + s.outstanding + s.retrying
  | none => 0

/-- Whether a subscription is delivering: the broker holds the sending end of a
channel whose consumer still receives. -/
def isDelivering (b : Broker) (name : String) : Bool :=
  match (b.subscription? name).bind (·.sender) with
  | some id => match b.channel? id with
    | some c => c.receiving
    | none => false
  | none => false

def reply? (b : Broker) (slot : Nat) : Option Reply := b.replies.lookup slot

/-- Settle a reply slot that still waits; a slot that is gone or settled is left. -/
def settle (b : Broker) (slot : Nat) (reply : Reply) : Broker × List Notice :=
  match b.reply? slot with
  | some .waiting =>
    ({ b with replies := b.replies.map fun (s, r) => if s == slot then (s, reply) else (s, r) },
      [.replied slot])
  | _ => (b, [])

/-- Forget a reply slot once its watcher is done with it. -/
def forgetSlot (b : Broker) (slot : Nat) : Broker :=
  { b with replies := b.replies.filter (·.1 != slot) }

end Broker

end Courier
