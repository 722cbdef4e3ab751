import Courier.Broker.State
import Courier.Decimal.Layout

namespace Courier

/-! The calls of the in-memory broker.

Each call changes the broker at once, as one atomic step, and returns the
notices that other parties must hear: items put on channels, leases begun,
reply slots settled, sending ends let go. Only the existence checks of topics
and subscriptions may pause first; their counters move before the pause and
the rest happens after it.

Publishing appends the message to its topic under a new id, queues one copy on
each attached subscription, and lets each of them lease. Leasing walks a
subscription's backlog in order and takes every copy whose ordering key is
free, while leases are left and the channel takes items. -/

/-- Put an attribute into attributes sorted by key, replacing an equal key. -/
def putAttribute (key value : String) : List (String × String) → List (String × String)
  | [] => [(key, value)]
  | (k, v) :: rest =>
    if key < k then (key, value) :: (k, v) :: rest
    else if key = k then (key, value) :: rest
    else (k, v) :: putAttribute key value rest

example : (putAttribute "b" "2" [("a", "1"), ("c", "3")]).map (·.1) = ["a", "b", "c"] := by decide

/-- The name of the attribute that tells which subscription gave up on a
dead-lettered message. -/
def deadLetterSourceAttribute : String := "deadLetterSourceSubscription"

/-- Release a lease's slot and its ordering key. -/
def SubscriptionState.release (s : SubscriptionState) (p : Pending) : SubscriptionState :=
  { s with outstanding := s.outstanding - 1,
           busyKeys := match p.message.orderingKey with
             | some key => s.busyKeys.filter (· != key)
             | none => s.busyKeys }

namespace Broker

/-- The broker refuses every call while it is unavailable. -/
def checkAvailable (b : Broker) : Except GatewayError Unit :=
  if b.faults.unavailable then .error (.unavailable "in-memory broker offline") else .ok ()

def dropSender (b : Broker) (channel : Option Nat) : Broker × List Notice :=
  match channel with
  | none => (b, [])
  | some id =>
    match b.channel? id with
    | some c => if c.sending then (b.modifyChannel id ({ · with sending := false }), [.senderGone id])
      else (b, [])
    | none => (b, [])

structure Leasing where
  sub : SubscriptionState
  channel : Channel
  nextObject : Nat
  slots : List Nat
  notices : List Notice

/-- Lease from a backlog: `kept` are the copies passed over so far. -/
def leaseFrom (acc : Leasing) (kept : List Pending) : List Pending → Leasing
  | [] => { acc with sub := { acc.sub with backlog := kept } }
  | p :: rest =>
    let s := acc.sub
    let c := acc.channel
    if s.maxOutstanding ≤ s.outstanding then { acc with sub := { s with backlog := kept ++ p :: rest } }
    else if p.message.orderingKey.any s.busyKeys.contains then leaseFrom acc (kept ++ [p]) rest
    else if !c.receiving then
      { acc with sub := { s with backlog := kept ++ p :: rest, sender := none } }
    else if c.capacity ≤ c.buffer.length then
      { acc with sub := { s with backlog := kept ++ p :: rest } }
    else
      let leased : Pending := { p with attempts := p.attempts + 1 }
      let slot := acc.nextObject
      let delivery : Delivery :=
        ⟨p.message.messageId, p.message.data, p.message.attributes, leased.attempts, slot⟩
      let busy := match p.message.orderingKey with
        | some key => s.busyKeys ++ [key]
        | none => s.busyKeys
      let s := { s with busyKeys := busy, outstanding := s.outstanding + 1 }
      leaseFrom
        { sub := s
          channel := { c with buffer := c.buffer ++ [delivery] }
          nextObject := slot + 1
          slots := acc.slots ++ [slot]
          notices := acc.notices ++
            [.delivered c.id, .leased ⟨s.name, leased, slot, s.settings.ackDeadline⟩] }
        kept rest

def pump (b : Broker) (name : String) : Broker × List Notice :=
  match b.subscription? name with
  | none => (b, [])
  | some s =>
    match s.sender.bind b.channel? with
    | none => (b, [])
    | some c =>
      let acc := leaseFrom ⟨{ s with backlog := [] }, c, b.nextObject, [], []⟩ [] s.backlog
      let b := (b.putSubscription acc.sub).modifyChannel c.id fun _ => acc.channel
      let b := { b with nextObject := acc.nextObject,
                        replies := b.replies ++ acc.slots.map (·, .waiting) }
      -- a closed channel makes the broker let go of its sending end
      if acc.sub.sender.isNone then
        let (b, gone) := b.dropSender (some c.id)
        (b, acc.notices ++ gone)
      else (b, acc.notices)

/-- Let each of several subscriptions lease, in order. -/
def pumpAll (b : Broker) (names : List String) : Broker × List Notice :=
  names.foldl (fun (b, ns) name => let (b, more) := b.pump name; (b, ns ++ more)) (b, [])

/-- Append a message to a topic under a new id and queue a copy on each attached
subscription; the id is used up even when the topic is missing. Returns the id
and the attached subscriptions. -/
def append (b : Broker) (topic : String) (data : ByteArray) (attributes : List (String × String))
    (orderingKey : Option String) : Broker × Except GatewayError (String × List String) :=
  let b := { b with nextId := b.nextId + 1 }
  let id := digitString b.nextId
  match b.topic? topic with
  | none => (b, .error (.notFound topic))
  | some t =>
    let message : StoredMessage := ⟨id, data, attributes, orderingKey⟩
    let b := b.modifyTopic topic fun t => { t with messages := t.messages ++ [message] }
    let b := t.subscriptions.foldl
      (fun b name => b.modifySubscription name fun s => { s with backlog := s.backlog ++ [⟨message, 0⟩] })
      b
    (b, .ok (id, t.subscriptions))

/-- An append to a missing topic still uses up an id. -/
example : ((Broker.empty none).append "t" ByteArray.empty [] none).1.nextId = 1 := by decide

def appendAndPump (b : Broker) (topic : String) (data : ByteArray)
    (attributes : List (String × String)) (orderingKey : Option String) :
    Broker × Except GatewayError String × List Notice :=
  match b.append topic data attributes orderingKey with
  | (b, .error e) => (b, .error e, [])
  | (b, .ok (id, targets)) =>
    let (b, notices) := b.pumpAll targets
    (b, .ok id, notices)

def addTopic (b : Broker) (name : String) : Broker :=
  if b.hasTopic name then b else { b with topics := b.topics ++ [⟨name, [], []⟩] }

/-- Attach a new subscription to an existing topic, replacing any subscription of
that name; nothing happens when the topic is missing. -/
def addSubscription (b : Broker) (name topic : String) (settings : SubscriptionSettings) :
    Broker × List Notice :=
  if !b.hasTopic topic then (b, []) else
  let (b, gone) := b.dropSender ((b.subscription? name).bind (·.sender))
  let b := b.modifyTopic topic fun t => { t with subscriptions := t.subscriptions ++ [name] }
  (b.putSubscription (.fresh name topic settings), gone)

/-- Publish straight to a topic, without counting the call or checking availability. -/
def publishRaw (b : Broker) (topic : String) (data : ByteArray)
    (attributes : List (String × String)) : Broker × Except GatewayError String × List Notice :=
  b.appendAndPump topic data attributes none

def setUnavailable (b : Broker) (value : Bool) : Broker :=
  { b with faults := { b.faults with unavailable := value } }

/-- Let publishes to a topic fail once `successes` more have succeeded. -/
def failPublishAfter (b : Broker) (topic : String) (successes : Nat) : Broker :=
  { b with faults := { b.faults with
      publish := (b.faults.publish.filter fun (p : String × Nat) => p.1 != topic) ++ [(topic, successes)] } }

def failFlush (b : Broker) (topic : String) : Broker :=
  { b with faults := { b.faults with flush := b.faults.flush ++ [topic] } }

def failClose (b : Broker) (subscription : String) : Broker :=
  { b with faults := { b.faults with close := b.faults.close ++ [subscription] } }

/-- Let a topic appear at its next existence check. -/
def raceTopicCreation (b : Broker) (topic : String) : Broker :=
  { b with faults := { b.faults with racingTopics := b.faults.racingTopics ++ [topic] } }

def delayLookups (b : Broker) (delay : Duration) : Broker :=
  { b with faults := { b.faults with lookupDelay := some delay } }

/-- Count an existence check of a topic, before its pause. -/
def countTopicExists (b : Broker) : Broker :=
  { b with counters := { b.counters with topicExists := b.counters.topicExists + 1 } }

/-- Count an existence check of a subscription, before its pause. -/
def countSubscriptionExists (b : Broker) : Broker :=
  { b with counters := { b.counters with subscriptionExists := b.counters.subscriptionExists + 1 } }

/-- Whether a topic exists, after the pause; a racing topic appears now and is
reported missing this once. -/
def topicExists (b : Broker) (name : String) : Broker × Except GatewayError Bool :=
  match b.checkAvailable with
  | .error e => (b, .error e)
  | .ok () =>
    if b.faults.racingTopics.contains name then
      let b := { b with faults := { b.faults with racingTopics := b.faults.racingTopics.filter (· != name) } }
      (b.addTopic name, .ok false)
    else (b, .ok (b.hasTopic name))

def createTopic (b : Broker) (name : String) : Broker × Except GatewayError Unit :=
  let b := { b with counters := { b.counters with createTopic := b.counters.createTopic + 1 } }
  match b.checkAvailable with
  | .error e => (b, .error e)
  | .ok () =>
    if b.hasTopic name then (b, .error (.alreadyExists name)) else (b.addTopic name, .ok ())

def topicHandle (b : Broker) (name : String) : Except GatewayError Unit := do
  b.checkAvailable
  if !b.hasTopic name then throw (.notFound name)

def publish (b : Broker) (topic : String) (data : ByteArray) (attributes : List (String × String))
    (orderingKey : Option String) : Broker × Except GatewayError String × List Notice :=
  let calls := ((b.counters.publish.lookup topic).getD 0) + 1
  let b := { b with counters := { b.counters with
    publish := (b.counters.publish.filter fun (p : String × Nat) => p.1 != topic) ++ [(topic, calls)] } }
  match b.checkAvailable with
  | .error e => (b, .error e, [])
  | .ok () =>
    match b.faults.publish.lookup topic with
    | some 0 => (b, .error (.rejected ("publish to " ++ topic ++ " refused")), [])
    | some (n + 1) =>
      let b := { b with faults := { b.faults with
        publish := b.faults.publish.map fun (t, k) => if t == topic then (t, n) else (t, k) } }
      b.appendAndPump topic data attributes orderingKey
    | none => b.appendAndPump topic data attributes orderingKey

def flush (b : Broker) (topic : String) : Broker × Except GatewayError Unit :=
  let b := { b with counters := { b.counters with flush := b.counters.flush + 1 } }
  match b.checkAvailable with
  | .error e => (b, .error e)
  | .ok () =>
    if b.faults.flush.contains topic then (b, .error (.unavailable ("flush of " ++ topic ++ " timed out")))
    else if !b.hasTopic topic then (b, .error (.notFound topic))
    else (b, .ok ())

def subscriptionExists (b : Broker) (name : String) : Except GatewayError Bool := do
  b.checkAvailable
  return b.hasSubscription name

def createSubscription (b : Broker) (name topic : String) (settings : SubscriptionSettings) :
    Broker × Except GatewayError Unit :=
  let b := { b with counters := { b.counters with createSubscription := b.counters.createSubscription + 1 } }
  match b.checkAvailable with
  | .error e => (b, .error e)
  | .ok () =>
    if b.hasSubscription name then (b, .error (.alreadyExists name))
    else if !b.hasTopic topic then (b, .error (.notFound topic))
    else
      let b := b.modifyTopic topic fun t => { t with subscriptions := t.subscriptions ++ [name] }
      (b.putSubscription (.fresh name topic settings), .ok ())

/-- A handle of an existing subscription: its topic and ack deadline. -/
def subscriptionHandle (b : Broker) (name : String) : Except GatewayError (String × Duration) := do
  b.checkAvailable
  match b.subscription? name with
  | some s => return (s.topic, s.settings.ackDeadline)
  | none => throw (.notFound name)

/-- Open a new delivery channel of a subscription, replacing its old one, and let
it lease; returns the channel's number. -/
def openDelivery (b : Broker) (name : String) (maxOutstanding : Nat) :
    Broker × Except GatewayError Nat × List Notice :=
  match b.checkAvailable with
  | .error e => (b, .error e, [])
  | .ok () =>
    match b.subscription? name with
    | none => (b, .error (.notFound name), [])
    | some s =>
      let limit := Nat.max maxOutstanding 1
      let id := b.nextObject
      let fresh : Channel := ⟨id, limit, [], true, true⟩
      let b := { b with nextObject := id + 1, channels := b.channels ++ [fresh] }
      let (b, gone) := b.dropSender s.sender
      let b := b.modifySubscription name fun s => { s with sender := some id, maxOutstanding := limit }
      let (b, notices) := b.pump name
      (b, .ok id, gone ++ notices)

/-- Close a subscription: the broker lets go of its channel. -/
def close (b : Broker) (name : String) : Broker × Except GatewayError Unit × List Notice :=
  let b := { b with counters := { b.counters with close := b.counters.close + 1 } }
  match b.checkAvailable with
  | .error e => (b, .error e, [])
  | .ok () =>
    if b.faults.close.contains name then (b, .error (.rejected ("close of " ++ name ++ " refused")), [])
    else match b.subscription? name with
      | none => (b, .error (.notFound name), [])
      | some s =>
        let (b, gone) := b.dropSender s.sender
        (b.modifySubscription name ({ · with sender := none }), .ok (), gone)

/-! The consumer's end of a channel. -/

/-- Take the next item of a channel: an item, the end once the channel is empty
and no longer fed, or nothing yet. -/
def receive (b : Broker) (id : Nat) : Option (Broker × Option Delivery) :=
  match b.channel? id with
  | none => some (b, none)
  | some c =>
    match c.buffer with
    | d :: rest => some (b.modifyChannel id ({ · with buffer := rest }), some d)
    | [] => if c.sending && c.receiving then none else some (b, none)

/-- The consumer stops receiving; items already buffered stay. -/
def closeReceiver (b : Broker) (id : Nat) : Broker := b.modifyChannel id ({ · with receiving := false })

/-- The consumer drops its end: buffered items are dropped unsettled, in order. -/
def dropReceiver (b : Broker) (id : Nat) : Broker × List Notice :=
  match b.channel? id with
  | none => (b, [])
  | some c =>
    let b := b.modifyChannel id ({ · with receiving := false, buffer := [] })
    c.buffer.foldl (fun (b, ns) d => let (b, more) := b.settle d.slot .dropped; (b, ns ++ more)) (b, [])

/-! Settling leases. -/

/-- An acknowledged lease: released and recorded, then the subscription leases again. -/
def acknowledge (b : Broker) (sub : String) (p : Pending) : Broker × List Notice :=
  let b := b.modifySubscription sub fun s =>
    { s.release p with acknowledged := s.acknowledged ++ [p.message.messageId] }
  b.pump sub

/-- What follows a refused lease: the wait before redelivery and, once the
attempts are used up, the dead-letter topic instead. None when the subscription
is gone. -/
def retryPlan (b : Broker) (sub : String) (p : Pending) : Option (Duration × Option String) := do
  let s ← b.subscription? sub
  let delay := b.retryDelay.getD (s.settings.retryBackoff.delayAfter p.attempts)
  let exhausted := s.settings.deadLetter.maxDeliveryAttempts ≤ p.attempts
  return (delay, if exhausted then some s.settings.deadLetter.topic else none)

/-- Give up on a lease: release and record it, copy the message to the
dead-letter topic when that exists, and let the subscription lease again. -/
def deadLetter (b : Broker) (sub : String) (p : Pending) (topic : String) : Broker × List Notice :=
  let b := b.modifySubscription sub fun s =>
    { s.release p with deadLettered := s.deadLettered ++ [p.message.messageId] }
  let attributes := putAttribute deadLetterSourceAttribute sub p.message.attributes
  let (b, copied) := match b.append topic p.message.data attributes none with
    | (b, .ok (_, targets)) => b.pumpAll targets
    | (b, .error _) => (b, [])
  let (b, more) := b.pump sub
  (b, copied ++ more)

/-- A refused lease starts its backoff: the lease is released but the ordering
key stays held. -/
def beginBackoff (b : Broker) (sub : String) : Broker × List Notice :=
  let b := b.modifySubscription sub fun s =>
    { s with outstanding := s.outstanding - 1, retrying := s.retrying + 1 }
  b.pump sub

/-- A backoff ends: the copy goes back to the front of the backlog and its key is
released. -/
def endBackoff (b : Broker) (sub : String) (p : Pending) : Broker × List Notice :=
  let b := b.modifySubscription sub fun s =>
    { s with retrying := s.retrying - 1,
             busyKeys := match p.message.orderingKey with
               | some key => s.busyKeys.filter (· != key)
               | none => s.busyKeys,
             backlog := p :: s.backlog }
  b.pump sub

end Broker

end Courier
