import Courier.Broker.Operations
import Courier.Tasks.Future

namespace Courier.Broker

/-! # The broker under any interleaving of its calls

Every party that holds the broker calls it: publishers, consumers, the setup
code of tests, and the tasks the broker starts itself to settle its leases. A
broker call is one atomic section, and so is each section of a settlement task;
anything may run between two sections. This module states that concurrency as a
transition system whose state is the broker beside its settlement tasks, and a
run is any sequence of calls and task sections, in any order.

A settlement task watches one lease, section by section as `watchLease` does.
Once the lease is answered it either acknowledges the copy or plans what follows
a refusal. A refusal with attempts left releases the lease, waits out the backoff
and puts the copy back; one without moves the copy to the dead-letter topic.
Which answer comes, and when, is left open: the consumer's reply, a dropped
delivery and an expired deadline can each come at any time, so the laws proved
over these runs hold whatever the consumers and the clock do. The clock only
guards the end of a backoff.

Reads that change nothing (handles, existence checks of subscriptions, the
inspection helpers) are left out of the calls. The state also keeps a log of
every lease made, a ghost that no call reads. -/

inductive Stage where
  /-- The lease is out; the task waits for its answer. -/
  | awaiting
  /-- Refused with no attempts left; the move to the dead-letter topic is next. -/
  | exhausted (topic : String)
  /-- Refused with attempts left; releasing the lease is next. -/
  | refused (delay : Duration)
  /-- Waiting out the backoff until the instant `wake`; then the copy goes back. -/
  | backingOff (wake : Nat)
  deriving DecidableEq, Repr

/-- A settlement task: the lease it watches and how far it has got. -/
structure Watch where
  lease : Lease
  stage : Stage

/-- The broker beside the settlement tasks it has started. -/
structure System where
  broker : Broker
  watches : List Watch
  /-- Every lease made so far, in order: one for each delivery. -/
  leases : List Lease
  /-- Virtual milliseconds since the start. -/
  now : Nat

/-- A call on the broker, or a section of one of its settlement tasks (named by
its position among the tasks). -/
inductive Call where
  | addTopic (name : String)
  | addSubscription (name topic : String) (settings : SubscriptionSettings)
  | createTopic (name : String)
  | createSubscription (name topic : String) (settings : SubscriptionSettings)
  | publish (topic : String) (data : ByteArray) (attributes : List (String × String))
      (orderingKey : Option String)
  | publishRaw (topic : String) (data : ByteArray) (attributes : List (String × String))
  | openDelivery (name : String) (maxOutstanding : Nat)
  | close (name : String)
  | flush (topic : String)
  | countTopicExists
  | countSubscriptionExists
  | topicExists (name : String)
  | setUnavailable (value : Bool)
  | failPublishAfter (topic : String) (successes : Nat)
  | failFlush (topic : String)
  | failClose (subscription : String)
  | raceTopicCreation (topic : String)
  | delayLookups (delay : Duration)
  /-- A consumer takes the next item of a channel. -/
  | receive (channel : Nat)
  | closeReceiver (channel : Nat)
  | dropReceiver (channel : Nat)
  /-- A consumer settles a delivery. -/
  | settle (slot : Nat) (reply : Reply)
  /-- A task's lease is answered: acknowledged, or refused. -/
  | answer (task : Nat) (acknowledged : Bool)
  | giveUp (task : Nat)
  | releaseLease (task : Nat)
  | requeue (task : Nat)
  /-- Time passes. -/
  | elapse (millis : Nat)

def leasesOf (notices : List Notice) : List Lease :=
  notices.filterMap fun
    | .leased l => some l
    | _ => none

/-- The messages of a topic, none when it is missing. -/
def messagesOf (b : Broker) (topic : String) : List StoredMessage :=
  ((b.topic? topic).map (·.messages)).getD []

namespace System

/-- The start: an empty broker, with a fixed redelivery wait if one is set. -/
def start (retryDelay : Option Duration) : System := ⟨Broker.empty retryDelay, [], [], 0⟩

/-- Take up a broker call's result: every lease it began gets its task. -/
def absorb (σ : System) (result : Broker × List Notice) : System :=
  { σ with broker := result.1
           watches := σ.watches ++ (leasesOf result.2).map (⟨·, .awaiting⟩)
           leases := σ.leases ++ leasesOf result.2 }

/-- Change the broker by a call that begins no lease. -/
def alter (σ : System) (b : Broker) : System := { σ with broker := b }

/-- The tasks without the one at a position. -/
def dropWatch (σ : System) (task : Nat) : System := { σ with watches := σ.watches.eraseIdx task }

/-- Move the task at a position to a stage. -/
def moveWatch (σ : System) (task : Nat) (stage : Stage) : System :=
  { σ with watches := σ.watches.modify task ({ · with stage := stage }) }

/-- What follows a refused lease, planned on the broker as it stands. -/
def afterRefusal (σ : System) (task : Nat) (l : Lease) (b : Broker) : System :=
  match b.retryPlan l.subscription l.pending with
  | none => (σ.alter b).dropWatch task
  | some (_, some topic) => (σ.alter b).moveWatch task (.exhausted topic)
  | some (delay, none) => (σ.alter b).moveWatch task (.refused delay)

/-- One call or task section. A section whose task is not at the stage it
needs, and a backoff that has not ended, change nothing. -/
def apply (σ : System) : Call → System
  | .addTopic name => σ.alter (σ.broker.addTopic name)
  | .addSubscription name topic settings => σ.absorb (σ.broker.addSubscription name topic settings)
  | .createTopic name => σ.alter (σ.broker.createTopic name).1
  | .createSubscription name topic settings =>
    σ.alter (σ.broker.createSubscription name topic settings).1
  | .publish topic data attributes key =>
    let (b, _, notices) := σ.broker.publish topic data attributes key
    σ.absorb (b, notices)
  | .publishRaw topic data attributes =>
    let (b, _, notices) := σ.broker.publishRaw topic data attributes
    σ.absorb (b, notices)
  | .openDelivery name limit =>
    let (b, _, notices) := σ.broker.openDelivery name limit
    σ.absorb (b, notices)
  | .close name =>
    let (b, _, notices) := σ.broker.close name
    σ.absorb (b, notices)
  | .flush topic => σ.alter (σ.broker.flush topic).1
  | .countTopicExists => σ.alter σ.broker.countTopicExists
  | .countSubscriptionExists => σ.alter σ.broker.countSubscriptionExists
  | .topicExists name => σ.alter (σ.broker.topicExists name).1
  | .setUnavailable value => σ.alter (σ.broker.setUnavailable value)
  | .failPublishAfter topic successes => σ.alter (σ.broker.failPublishAfter topic successes)
  | .failFlush topic => σ.alter (σ.broker.failFlush topic)
  | .failClose subscription => σ.alter (σ.broker.failClose subscription)
  | .raceTopicCreation topic => σ.alter (σ.broker.raceTopicCreation topic)
  | .delayLookups delay => σ.alter (σ.broker.delayLookups delay)
  | .receive channel =>
    match σ.broker.receive channel with
    | some (b, _) => σ.alter b
    | none => σ
  | .closeReceiver channel => σ.alter (σ.broker.closeReceiver channel)
  | .dropReceiver channel => σ.absorb (σ.broker.dropReceiver channel)
  | .settle slot reply => σ.absorb (σ.broker.settle slot reply)
  | .answer task acknowledged =>
    match σ.watches[task]? with
    | some ⟨l, .awaiting⟩ =>
      let b := σ.broker.forgetSlot l.slot
      if acknowledged then (σ.dropWatch task).absorb (b.acknowledge l.subscription l.pending)
      else σ.afterRefusal task l b
    | _ => σ
  | .giveUp task =>
    match σ.watches[task]? with
    | some ⟨l, .exhausted topic⟩ =>
      (σ.dropWatch task).absorb (σ.broker.deadLetter l.subscription l.pending topic)
    | _ => σ
  | .releaseLease task =>
    match σ.watches[task]? with
    | some ⟨l, .refused delay⟩ =>
      (σ.moveWatch task (.backingOff (σ.now + delay.waitTicks))).absorb
        (σ.broker.beginBackoff l.subscription)
    | _ => σ
  | .requeue task =>
    match σ.watches[task]? with
    | some ⟨l, .backingOff wake⟩ =>
      if wake ≤ σ.now then (σ.dropWatch task).absorb (σ.broker.endBackoff l.subscription l.pending)
      else σ
    | _ => σ
  | .elapse millis => { σ with now := σ.now + millis }

def run (σ : System) (calls : List Call) : System := calls.foldl apply σ

/-! Runs that do not re-register a subscription.

Adding a subscription out of band under a name that exists replaces its state
and attaches the name to the topic once more, while the old state's settlement
tasks go on and later act on the new one. The laws of this development hold for
every subscription that no call of the run re-registers. -/

/-- Whether a call adds a subscription under the name `s` while `s` exists. -/
def reregisters (σ : System) (s : String) : Call → Bool
  | .addSubscription name topic _ =>
    name == s && σ.broker.hasSubscription s && σ.broker.hasTopic topic
  | _ => false

/-- Whether no call of a run re-registers `s`. -/
def keeps (s : String) : System → List Call → Bool
  | _, [] => true
  | σ, c :: cs => !σ.reregisters s c && keeps s (σ.apply c) cs

/-! The copies a run queues on a subscription. -/

/-- The messages that reached a subscription's topic during one call, while the
subscription existed. -/
def arrivedDuring (σ : System) (s : String) (c : Call) : List StoredMessage :=
  match σ.broker.subscription? s with
  | none => []
  | some sub => ((σ.apply c).broker.messagesOf sub.topic).drop (σ.broker.messagesOf sub.topic).length

/-- The messages that reached a subscription's topic during a run, while the
subscription existed: one copy of each is queued on the subscription. -/
def arrivals (s : String) : System → List Call → List StoredMessage
  | _, [] => []
  | σ, c :: cs => σ.arrivedDuring s c ++ arrivals s (σ.apply c) cs

/-! What the laws of one subscription read. -/

def watchesOf (σ : System) (s : String) : List Watch :=
  σ.watches.filter (·.lease.subscription == s)

/-- The leases made for a subscription, in order. -/
def leaseLog (σ : System) (s : String) : List Lease :=
  σ.leases.filter (·.subscription == s)

end System

def Stage.isBackingOff : Stage → Bool
  | .backingOff _ => true
  | _ => false

@[simp] theorem Stage.isBackingOff_awaiting : Stage.awaiting.isBackingOff = false := rfl

@[simp] theorem Stage.isBackingOff_exhausted (topic : String) :
    (Stage.exhausted topic).isBackingOff = false := rfl

@[simp] theorem Stage.isBackingOff_refused (delay : Duration) :
    (Stage.refused delay).isBackingOff = false := rfl

@[simp] theorem Stage.isBackingOff_backingOff (wake : Nat) :
    (Stage.backingOff wake).isBackingOff = true := rfl

/-- One subscription as its laws see it: its state, the settlement tasks of its
leases, the leases made for it, the messages of its topic and the clock. -/
structure View where
  sub : SubscriptionState
  watches : List Watch
  leases : List Lease
  messages : List StoredMessage
  now : Nat

namespace View

/-- The copies leased out and not yet released: the task waits for the answer or
acts on it. -/
def leased (v : View) : List Pending :=
  (v.watches.filter (!·.stage.isBackingOff)).map (·.lease.pending)

def retrying (v : View) : List Pending :=
  (v.watches.filter (·.stage.isBackingOff)).map (·.lease.pending)

/-- The identifiers of a subscription's copies, wherever they are: waiting in the
backlog, leased, waiting out a backoff, acknowledged or dead-lettered. -/
def holdings (v : View) : List String :=
  v.sub.backlog.map (·.message.messageId) ++ v.leased.map (·.message.messageId) ++
    v.retrying.map (·.message.messageId) ++ v.sub.acknowledged ++ v.sub.deadLettered

end View

namespace System

/-- A subscription as its laws see it, once it exists. -/
def view (σ : System) (s : String) : Option View :=
  (σ.broker.subscription? s).map fun sub =>
    ⟨sub, σ.watchesOf s, σ.leaseLog s, σ.broker.messagesOf sub.topic, σ.now⟩

/-- The identifiers of a subscription's copies, none before it exists. -/
def holdings (σ : System) (s : String) : List String :=
  ((σ.view s).map View.holdings).getD []

end System

end Courier.Broker
