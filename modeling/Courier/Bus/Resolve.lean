import Courier.Bus.Calls

namespace Courier

/-! # Resolving topics and subscriptions

A name is resolved from the cache when it is there. Otherwise the broker is
asked whether it exists; a missing resource is created when the provisioning
policy allows it and reported missing when it does not. A creation that finds
the resource already made by someone else counts as a success. The handle is
then fetched and cached, the first resolution of a name winning: every
resolution gets the handle cached first. The other tasks may run after each
look at a cache and each change of it.

A subscription is created with the standard settings for its topic, after its
topic and its dead-letter topic have been resolved under the same policy. -/

/-- A step of a bus program that may fail with a bus error. -/
abbrev BusProg := ExceptT BusError Prog

namespace BusProg

def lift {α : Type} (p : Prog α) : BusProg α := ExceptT.lift p

/-- Turn the error of a broker call into a bus error naming the call. -/
def transport {α : Type} (operation : String) : Except GatewayError α → BusProg α
  | .ok a => pure a
  | .error e => throw (.transport operation e)

end BusProg

open BusProg in
/-- Whether the broker has a topic, counted before the lookup pause. -/
def topicExists (name : String) : BusProg Bool := do
  lift (Prog.quietly fun b => (b.countTopicExists, ()))
  lift Prog.lookupPause
  transport "topic_exists" (← lift (Prog.quietly (·.topicExists name)))

/-- Cache a topic handle just fetched, in a new allocation; returns the handle
the registry gives out. -/
def World.cacheTopic (w : World) (o : Outlet) (name : String) : World × TopicRef :=
  let (w, id) := w.allocate
  let (cache, handle) := (w.publishing o).topics.insert ⟨name, id⟩
  (w.modifyPublishing o ({ · with topics := cache }), handle)

open BusProg in
/-- Resolve a topic through the registry of an outlet's publisher, creating it
under `policy` when it is missing; returns the handle the registry gives out. -/
def resolveTopicWith (o : Outlet) (name : String) (policy : ProvisioningPolicy) : BusProg TopicRef := do
  let cached ← lift (Prog.view (·.publishing o |>.topics.find? name))
  lift Async.yieldNow
  if let some handle := cached then return handle
  if !(← topicExists name) then
    if !policy.allowsCreate then throw (.topicNotFound name)
    match ← lift (Prog.quietly (·.createTopic name)) with
    | .ok () => lift (Prog.note (·.noteProvisioned "topic"))
    | .error (.alreadyExists _) => pure ()
    | .error e => throw (.transport "create_topic" e)
  transport "topic_handle" (← lift (Prog.query (·.topicHandle name)))
  let handle ← lift (Async.act (·.cacheTopic o name))
  lift Async.yieldNow
  return handle

/-- Resolve a topic under the policy of an outlet's publisher. -/
def resolveTopic (o : Outlet) (name : String) : BusProg TopicRef := do
  let policy ← BusProg.lift (Prog.view (·.publishing o |>.policy))
  resolveTopicWith o name policy

open BusProg in
/-- Whether the broker has a subscription, counted before the lookup pause. -/
def subscriptionExists (name : String) : BusProg Bool := do
  lift (Prog.quietly fun b => (b.countSubscriptionExists, ()))
  lift Prog.lookupPause
  transport "subscription_exists" (← lift (Prog.query (·.subscriptionExists name)))

open BusProg in
/-- Create a subscription of a topic with the standard settings, after
resolving its topic and dead-letter topic. -/
def createSubscription (bus : Nat) (topic name : String) (ackDeadline : Option Duration)
    (policy : ProvisioningPolicy) : BusProg Unit := do
  let settings := SubscriptionSettings.forTopic topic ackDeadline
  let _ ← resolveTopicWith (.bus bus) topic policy
  let _ ← resolveTopicWith (.bus bus) settings.deadLetter.topic policy
  match ← lift (Prog.quietly (·.createSubscription name topic settings)) with
  | .ok () => lift (Prog.note (·.noteProvisioned "subscription"))
  | .error (.alreadyExists _) => pure ()
  | .error e => throw (.transport "create_subscription" e)

open BusProg in
/-- Resolve a subscription of a bus, creating it on `topic` when it is missing
and the bus's policy allows. -/
def resolveSubscription (bus : Nat) (topic name : String) (ackDeadline : Option Duration) :
    BusProg SubscriptionHandle := do
  let b ← lift (Prog.view (·.bus bus))
  lift Async.yieldNow
  if let some handle := SubscriptionCache.find? b.subscriptions name then return handle
  if !(← subscriptionExists name) then
    if !b.config.provisioning.allowsCreate then throw (.subscriptionNotFound name)
    createSubscription bus topic name ackDeadline b.config.provisioning
  let (owner, ackDeadline) ← transport "subscription_handle" (← lift (Prog.query (·.subscriptionHandle name)))
  let handle ← lift (Async.act fun w =>
    let (cache, kept) := SubscriptionCache.insert (w.bus bus).subscriptions ⟨name, owner, ackDeadline⟩
    (w.modifyBus bus ({ · with subscriptions := cache }), kept))
  lift Async.yieldNow
  return handle

end Courier
