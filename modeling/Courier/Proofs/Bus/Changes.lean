import Courier.Proofs.Broker.Registry
import Courier.Bus.Lifecycle

namespace Courier

/-! # The changes bus tasks make to the world

Every step of every bus task, callers and background jobs alike, is one of a
few changes: a broker call that creates nothing, one of the two creations, a
change of the metrics, of the numbers handed out, of the delivery loops or of
the record of handler calls, a change of a publisher (its gate, its topic
cache, its closing), or of a bus's table of bindings and cache of
subscriptions. A creation is made only under a policy that allows it, and a
subscription only with the standard settings, on a topic that exists beside its
dead-letter topic.

Whatever the change, topics and subscriptions stay at the broker, each
subscription with its settings, and no policy, configuration or handler's bus
changes. -/

namespace World

theorem bus_modifyBus (w : World) (i j : Nat) (f : BusState → BusState) :
    (w.modifyBus i f).bus j = w.bus j ∨ (j = i ∧ (w.modifyBus i f).bus j = f (w.bus j)) := by
  unfold bus modifyBus
  simp only [List.getElem?_mapIdx]
  by_cases same : j = i
  · subst same
    cases found : w.buses[j]? with
    | none => exact .inl rfl
    | some b => exact .inr ⟨rfl, by simp⟩
  · exact .inl (by cases w.buses[j]? <;> simp [same])

theorem publishing_modifyPublishing (w : World) (o o' : Outlet) (f : Publishing → Publishing) :
    (w.modifyPublishing o f).publishing o' = w.publishing o' ∨
      (o' = o ∧ (w.modifyPublishing o f).publishing o' = f (w.publishing o')) := by
  cases o with
  | bus i =>
    cases o' with
    | bus j =>
      rcases bus_modifyBus w i j (fun b => { b with publishing := f b.publishing }) with
        same | ⟨rfl, changed⟩
      · exact .inl (by simp only [publishing, modifyPublishing, same])
      · exact .inr ⟨rfl, by simp only [publishing, modifyPublishing, changed]⟩
    | standalone => exact .inl rfl
  | standalone =>
    cases o' with
    | bus j => exact .inl rfl
    | standalone => exact .inr ⟨rfl, rfl⟩

theorem config_modifyBus (w : World) (i j : Nat) {f : BusState → BusState}
    (keeps : ∀ b, (f b).config = b.config) : ((w.modifyBus i f).bus j).config = (w.bus j).config := by
  rcases bus_modifyBus w i j f with same | ⟨-, changed⟩
  · rw [same]
  · rw [changed, keeps]

theorem publishing_modifyBus (w : World) (i : Nat) {f : BusState → BusState}
    (keeps : ∀ b, (f b).publishing = b.publishing) (o : Outlet) :
    (w.modifyBus i f).publishing o = w.publishing o := by
  cases o with
  | bus j =>
    rcases bus_modifyBus w i j f with same | ⟨-, changed⟩
    · simp only [publishing, same]
    · simp only [publishing, changed, keeps]
  | standalone => rfl

theorem config_modifyPublishing (w : World) (o : Outlet) (f : Publishing → Publishing) (j : Nat) :
    ((w.modifyPublishing o f).bus j).config = (w.bus j).config := by
  cases o with
  | bus i => exact config_modifyBus w i j fun _ => rfl
  | standalone => rfl

theorem policy_modifyPublishing (w : World) (o : Outlet) {f : Publishing → Publishing}
    (keeps : ∀ p, (f p).policy = p.policy) (o' : Outlet) :
    ((w.modifyPublishing o f).publishing o').policy = (w.publishing o').policy := by
  rcases publishing_modifyPublishing w o o' f with same | ⟨-, changed⟩
  · rw [same]
  · rw [changed, keeps]

theorem length_modifyBus (w : World) (i : Nat) (f : BusState → BusState) :
    (w.modifyBus i f).buses.length = w.buses.length := by
  simp [modifyBus]

theorem length_modifyPublishing (w : World) (o : Outlet) (f : Publishing → Publishing) :
    (w.modifyPublishing o f).buses.length = w.buses.length := by
  cases o with
  | bus i => exact length_modifyBus w i _
  | standalone => rfl

theorem bus_modifyBus_self (w : World) {i : Nat} (within : i < w.buses.length) (f : BusState → BusState) :
    (w.modifyBus i f).bus i = f (w.bus i) := by
  unfold bus modifyBus
  simp [List.getElem?_mapIdx, List.getElem?_eq_getElem within]

/-- Changing a bus depends only on what the change does to that bus. -/
theorem modifyBus_congr (w : World) (i : Nat) {f g : BusState → BusState} (same : f (w.bus i) = g (w.bus i)) :
    w.modifyBus i f = w.modifyBus i g := by
  unfold modifyBus
  congr 1
  apply List.ext_getElem (by simp)
  intro j within _
  have inside : j < w.buses.length := by simpa using within
  simp only [List.getElem_mapIdx]
  split
  · next here =>
    subst here
    have found : w.bus j = w.buses[j] := by simp [bus, List.getElem?_eq_getElem inside]
    rw [found] at same
    exact same
  · rfl

/-- Changing a publisher depends only on what the change does to it. -/
theorem modifyPublishing_congr (w : World) (o : Outlet) {f g : Publishing → Publishing}
    (same : f (w.publishing o) = g (w.publishing o)) : w.modifyPublishing o f = w.modifyPublishing o g := by
  cases o with
  | bus i => exact modifyBus_congr w i (congrArg ({ w.bus i with publishing := · }) same)
  | standalone => exact congrArg ({ w with standalone := · }) same

/-- Caching a topic takes a new number and inserts a handle of that number into
the cache of one publisher. -/
theorem cacheTopic_fst (w : World) (o : Outlet) (name : String) :
    (w.cacheTopic o name).1 = w.allocate.1.modifyPublishing o
      fun p => { p with topics := (p.topics.insert ⟨name, w.nextObject⟩).1 } := by
  show w.allocate.1.modifyPublishing o ({ · with topics := ((w.publishing o).topics.insert ⟨name, w.nextObject⟩).1 }) = _
  exact modifyPublishing_congr _ o rfl

theorem cacheTopic_snd (w : World) (o : Outlet) (name : String) :
    (w.cacheTopic o name).2 = ((w.publishing o).topics.insert ⟨name, w.nextObject⟩).2 := rfl

@[simp] theorem broker_cacheTopic (w : World) (o : Outlet) (name : String) :
    (w.cacheTopic o name).1.broker = w.broker := by
  cases o <;> rfl

@[simp] theorem broker_modifyBus (w : World) (i : Nat) (f : BusState → BusState) :
    (w.modifyBus i f).broker = w.broker := rfl

@[simp] theorem handlers_modifyBus (w : World) (i : Nat) (f : BusState → BusState) :
    (w.modifyBus i f).handlers = w.handlers := rfl

@[simp] theorem broker_modifyPublishing (w : World) (o : Outlet) (f : Publishing → Publishing) :
    (w.modifyPublishing o f).broker = w.broker := by
  cases o <;> rfl

@[simp] theorem handlers_modifyPublishing (w : World) (o : Outlet) (f : Publishing → Publishing) :
    (w.modifyPublishing o f).handlers = w.handlers := by
  cases o <;> rfl

end World

/-- The outlet names a publisher the world has: the standalone one, or that of
one of its buses. -/
def Outlet.Within (o : Outlet) (w : World) : Prop :=
  match o with
  | .bus i => i < w.buses.length
  | .standalone => True

theorem World.publishing_modifyPublishing_self (w : World) {o : Outlet} (within : o.Within w)
    (f : Publishing → Publishing) : (w.modifyPublishing o f).publishing o = f (w.publishing o) := by
  cases o with
  | bus i =>
    show ((w.modifyBus i fun b => { b with publishing := f b.publishing }).bus i).publishing = _
    rw [World.bus_modifyBus_self w within]
    rfl
  | standalone => rfl

theorem Outlet.within_modifyPublishing {w : World} {o o' : Outlet} {f : Publishing → Publishing}
    (within : o'.Within (w.modifyPublishing o f)) : o'.Within w := by
  cases o' with
  | bus i =>
    show i < w.buses.length
    rw [← w.length_modifyPublishing o f]
    exact within
  | standalone => trivial

/-- A broker call of a bus task that creates nothing. -/
inductive BrokerCall where
  | countTopicExists
  | countSubscriptionExists
  | topicExists (name : String)
  | publish (topic : String) (data : ByteArray) (attributes : List (String × String))
      (orderingKey : Option String)
  | openDelivery (name : String) (limit : Nat)
  | close (name : String)
  | flush (topic : String)
  | forgetSlot (slot : Nat)
  | settle (slot : Nat) (reply : Reply)
  | acknowledge (subscription : String) (pending : Pending)
  | deadLetter (subscription : String) (pending : Pending) (topic : String)
  | beginBackoff (subscription : String)
  | endBackoff (subscription : String) (pending : Pending)
  | closeReceiver (channel : Nat)
  | dropReceiver (channel : Nat)

namespace BrokerCall

def apply : BrokerCall → Broker → Broker
  | .countTopicExists, b => b.countTopicExists
  | .countSubscriptionExists, b => b.countSubscriptionExists
  | .topicExists name, b => (b.topicExists name).1
  | .publish topic data attributes orderingKey, b => (b.publish topic data attributes orderingKey).1
  | .openDelivery name limit, b => (b.openDelivery name limit).1
  | .close name, b => (b.close name).1
  | .flush topic, b => (b.flush topic).1
  | .forgetSlot slot, b => b.forgetSlot slot
  | .settle slot reply, b => (b.settle slot reply).1
  | .acknowledge subscription pending, b => (b.acknowledge subscription pending).1
  | .deadLetter subscription pending topic, b => (b.deadLetter subscription pending topic).1
  | .beginBackoff subscription, b => (b.beginBackoff subscription).1
  | .endBackoff subscription pending, b => (b.endBackoff subscription pending).1
  | .closeReceiver channel, b => b.closeReceiver channel
  | .dropReceiver channel, b => (b.dropReceiver channel).1

/-- Whether background jobs make the call: they watch leases, run delivery
loops and dispatch deliveries, whose handlers may publish; opening, closing and
flushing, and checking for a subscription, are left to callers. -/
def byJob : BrokerCall → Bool
  | .countSubscriptionExists | .openDelivery _ _ | .close _ | .flush _ => false
  | _ => true

theorem retains (c : BrokerCall) (b : Broker) : b.Retains (c.apply b) := by
  cases c with
  | countTopicExists => exact b.retains_countTopicExists
  | countSubscriptionExists => exact b.retains_countSubscriptionExists
  | topicExists name => exact b.retains_topicExists name
  | publish topic data attributes orderingKey => exact b.retains_publish topic data attributes orderingKey
  | openDelivery name limit => exact b.retains_openDelivery name limit
  | close name => exact b.retains_close name
  | flush topic => exact b.retains_flush topic
  | forgetSlot slot => exact b.retains_forgetSlot slot
  | settle slot reply => exact b.retains_settle slot reply
  | acknowledge subscription pending => exact b.retains_acknowledge subscription pending
  | deadLetter subscription pending topic => exact b.retains_deadLetter subscription pending topic
  | beginBackoff subscription => exact b.retains_beginBackoff subscription
  | endBackoff subscription pending => exact b.retains_endBackoff subscription pending
  | closeReceiver channel => exact b.retains_closeReceiver channel
  | dropReceiver channel => exact b.retains_dropReceiver channel

end BrokerCall

/-- A change a bus task acting under `policy` makes to the world in one step;
those with `caller = false` are the changes background jobs make. -/
inductive Change (policy : ProvisioningPolicy) : Bool → World → World → Prop
  | call {caller : Bool} (w : World) (c : BrokerCall) : (c.byJob || caller) = true →
      Change policy caller w { w with broker := c.apply w.broker }
  | receive {caller : Bool} {w : World} {b : Broker} {d : Option Delivery} (channel : Nat) :
      w.broker.receive channel = some (b, d) → Change policy caller w { w with broker := b }
  | createTopic {caller : Bool} (w : World) (name : String) : policy.allowsCreate →
      Change policy caller w { w with broker := (w.broker.createTopic name).1 }
  | createSubscription (w : World) (name topic : String) (ackDeadline : Option Duration) :
      policy.allowsCreate → w.broker.hasTopic topic → w.broker.hasTopic (deadLetterTopic topic) →
      Change policy true w
        { w with broker := (w.broker.createSubscription name topic (.forTopic topic ackDeadline)).1 }
  | metrics {caller : Bool} (w : World) (f : Metrics → Metrics) :
      Change policy caller w { w with metrics := f w.metrics }
  | allocate {caller : Bool} (w : World) : Change policy caller w w.allocate.1
  | mint {caller : Bool} (w : World) : Change policy caller w w.mint.1
  | loops {caller : Bool} (w : World) (loops : List LoopState) :
      Change policy caller w { w with loops := loops }
  | handle {caller : Bool} (w : World) (handler calls : Nat) (record : HandledRecord) :
      Change policy caller w
        { w with handlers := w.handlers.mapIdx fun i s => if i = handler then { s with calls := calls } else s,
                 handled := w.handled ++ [record] }
  | gate {caller : Bool} (w : World) (o : Outlet) (g : Gate) :
      Change policy caller w (w.modifyPublishing o ({ · with gate := g }))
  | cacheTopic {caller : Bool} (w : World) (o : Outlet) (name : String) : w.broker.hasTopic name →
      Change policy caller w (w.cacheTopic o name).1
  | closePublisher (w : World) (o : Outlet) :
      Change policy true w (w.modifyPublishing o ({ · with closed := true }))
  | drainTopics (w : World) (o : Outlet) :
      Change policy true w (w.modifyPublishing o fun p => { p with topics := p.topics.drain.2 })
  | cacheSubscription (w : World) (i : Nat) (handle : SubscriptionHandle) :
      w.broker.hasSubscription handle.name →
      Change policy true w (w.modifyBus i fun b => { b with subscriptions := (b.subscriptions.insert handle).1 })
  | table (w : World) (i : Nat) (f : BusState → BusState) :
      (∀ b, (f b).config = b.config ∧ (f b).publishing = b.publishing ∧
        ∀ h ∈ (f b).subscriptions, h ∈ b.subscriptions) →
      Change policy true w (w.modifyBus i f)

namespace Change

variable {policy : ProvisioningPolicy}

theorem widen {caller : Bool} {w w' : World} (change : Change policy caller w w') :
    Change policy true w w' := by
  cases change with
  | call w c _ => exact .call w c (by simp)
  | receive channel received => exact .receive channel received
  | createTopic w name allowed => exact .createTopic w name allowed
  | createSubscription w name topic ackDeadline allowed present dead =>
    exact .createSubscription w name topic ackDeadline allowed present dead
  | metrics w f => exact .metrics w f
  | allocate w => exact .allocate w
  | mint w => exact .mint w
  | loops w loops => exact .loops w loops
  | handle w handler calls record => exact .handle w handler calls record
  | gate w o g => exact .gate w o g
  | cacheTopic w o name present => exact .cacheTopic w o name present
  | closePublisher w o => exact .closePublisher w o
  | drainTopics w o => exact .drainTopics w o
  | cacheSubscription w i handle present => exact .cacheSubscription w i handle present
  | table w i f keeps => exact .table w i f keeps

/-- What a background job does, a task of any kind may do. -/
theorem ofJob {caller : Bool} {w w' : World} (change : Change policy false w w') :
    Change policy caller w w' := by
  cases change with
  | call w c byJob =>
    rw [Bool.or_false] at byJob
    exact .call w c (by rw [byJob, Bool.true_or])
  | receive channel received => exact .receive channel received
  | createTopic w name allowed => exact .createTopic w name allowed
  | metrics w f => exact .metrics w f
  | allocate w => exact .allocate w
  | mint w => exact .mint w
  | loops w loops => exact .loops w loops
  | handle w handler calls record => exact .handle w handler calls record
  | gate w o g => exact .gate w o g
  | cacheTopic w o name present => exact .cacheTopic w o name present

end Change

/-- The changes the bus programs make to a bus's table of bindings, its
registrations, its cache of subscriptions and its refusal of subscribers, each
under the condition the program checks just before, in the same stretch: a
subscribe reserves a name that has no entry on a bus that accepts subscribers,
then promotes its reservation while the bus still accepts them, drops it, or
withdraws it and then forgets the subscription; an unsubscribe unbinds a name
that is not reserved and then forgets the subscription; a shutdown refuses
subscribers, clears the table and then drains the cache. -/
inductive TableChange : BusState → BusState → Prop
  | reserve {b : BusState} (name : String) : b.binding? name = none → b.shuttingDown = false →
      TableChange b { b with bindings := b.bindings ++ [(name, .reserved)] }
  | promote {b : BusState} (name : String) (active : ActiveSubscription) (registration : Registration) :
      b.isReserved name = true → b.shuttingDown = false → active.handle.name = name →
      registration.subscription = name →
      TableChange b
        { b with bindings := b.bindings.map fun (n, e) => if n == name then (n, .running active) else (n, e),
                 registrations := b.registrations ++ [registration] }
  | release {b : BusState} (name : String) : TableChange b (if b.isReserved name then b.unbind name else b)
  | withdraw {b : BusState} (name : String) : b.isReserved name = true → TableChange b (b.unbind name)
  | forget {b : BusState} (name : String) :
      TableChange b { b with subscriptions := (b.subscriptions.remove name).1 }
  | unsubscribe {b : BusState} (name : String) : b.isReserved name = false →
      TableChange b { b.unbind name with registrations := b.registrations.filter (·.subscription != name) }
  | refuse {b : BusState} : TableChange b { b with shuttingDown := true }
  | clear {b : BusState} : TableChange b { b with bindings := [], registrations := [] }
  | drain {b : BusState} : TableChange b { b with subscriptions := [] }

/-- A change of a table keeps the bus's configuration and publisher, and caches
no subscription. -/
theorem TableChange.keeps {b b' : BusState} (change : TableChange b b') :
    b'.config = b.config ∧ b'.publishing = b.publishing ∧ ∀ h ∈ b'.subscriptions, h ∈ b.subscriptions := by
  cases change with
  | release name =>
    split
    · exact ⟨rfl, rfl, fun _ cached => cached⟩
    · exact ⟨rfl, rfl, fun _ cached => cached⟩
  | forget name => exact ⟨rfl, rfl, fun _ kept => (List.mem_filter.mp kept).1⟩
  | drain => exact ⟨rfl, rfl, fun _ none => by cases none⟩
  | _ => exact ⟨rfl, rfl, fun _ cached => cached⟩

/-- A guarantee of bus tasks under `policy`: a relation on worlds that allows
every change a background job makes, and only changes some bus task may make.
The specifications of the bus programs hold for every guarantee that allows
their steps, so that one proof of a program serves every invariant that such a
guarantee keeps. -/
class Guarantee (policy : outParam ProvisioningPolicy) (G : World → World → Prop) : Prop where
  ofJob : ∀ {w w' : World}, Change policy false w w' → G w w'
  toChange : ∀ {w w' : World}, G w w' → Change policy true w w'

/-- A guarantee that also allows what callers do: any broker call, a creation
of a subscription the policy allows on a topic that exists beside its
dead-letter topic, caching a subscription that exists, closing a publisher,
draining its topics, and the changes of a bus's table that `TableChange` lists. -/
class Guarantee.Caller (policy : outParam ProvisioningPolicy) (G : World → World → Prop) : Prop
    extends Guarantee policy G where
  call : ∀ (w : World) (c : BrokerCall), G w { w with broker := c.apply w.broker }
  createSubscription : ∀ (w : World) (name topic : String) (ackDeadline : Option Duration),
    policy.allowsCreate → w.broker.hasTopic topic → w.broker.hasTopic (deadLetterTopic topic) →
    G w { w with broker := (w.broker.createSubscription name topic (.forTopic topic ackDeadline)).1 }
  cacheSubscription : ∀ (w : World) (i : Nat) (handle : SubscriptionHandle),
    w.broker.hasSubscription handle.name →
    G w (w.modifyBus i fun b => { b with subscriptions := (b.subscriptions.insert handle).1 })
  closePublisher : ∀ (w : World) (o : Outlet), G w (w.modifyPublishing o ({ · with closed := true }))
  drainTopics : ∀ (w : World) (o : Outlet),
    G w (w.modifyPublishing o fun p => { p with topics := p.topics.drain.2 })
  table : ∀ (w : World) (i : Nat) (f : BusState → BusState), TableChange (w.bus i) (f (w.bus i)) →
    G w (w.modifyBus i f)

namespace Guarantee

variable {policy : ProvisioningPolicy}

/-- The changes of bus tasks, of jobs or of any task, are a guarantee. -/
instance changes {caller : Bool} : Guarantee policy (Change policy caller) :=
  ⟨Change.ofJob, Change.widen⟩

/-- The changes of any bus task allow what callers do. -/
instance callers : Guarantee.Caller policy (Change policy true) where
  call w c := .call w c (Bool.or_true _)
  createSubscription := .createSubscription
  cacheSubscription := .cacheSubscription
  closePublisher := .closePublisher
  drainTopics := .drainTopics
  table w i f change := by
    classical
    -- a change of the table on the bus it is made to, and no change elsewhere
    let f' : BusState → BusState := fun b => if TableChange b (f b) then f b else b
    have same : w.modifyBus i f' = w.modifyBus i f := World.modifyBus_congr w i (if_pos change)
    rw [← same]
    refine .table w i f' fun b => ?_
    by_cases tabled : TableChange b (f b)
    · have changed : f' b = f b := if_pos tabled
      rw [changed]
      exact tabled.keeps
    · have kept : f' b = b := if_neg tabled
      rw [kept]
      exact ⟨rfl, rfl, fun _ cached => cached⟩

end Guarantee

/-- A change of a bus task that leaves every bus's table alone: a change a
background job makes, any broker call, a creation of a subscription the policy
allows on a topic that exists beside its dead-letter topic, caching a
subscription that exists, closing a publisher, or draining its topics. -/
inductive TableFree (policy : ProvisioningPolicy) : World → World → Prop
  | job {w w' : World} : Change policy false w w' → TableFree policy w w'
  | call (w : World) (c : BrokerCall) : TableFree policy w { w with broker := c.apply w.broker }
  | createSubscription (w : World) (name topic : String) (ackDeadline : Option Duration) :
      policy.allowsCreate → w.broker.hasTopic topic → w.broker.hasTopic (deadLetterTopic topic) →
      TableFree policy w
        { w with broker := (w.broker.createSubscription name topic (.forTopic topic ackDeadline)).1 }
  | cacheSubscription (w : World) (i : Nat) (handle : SubscriptionHandle) :
      w.broker.hasSubscription handle.name →
      TableFree policy w (w.modifyBus i fun b => { b with subscriptions := (b.subscriptions.insert handle).1 })
  | closePublisher (w : World) (o : Outlet) :
      TableFree policy w (w.modifyPublishing o ({ · with closed := true }))
  | drainTopics (w : World) (o : Outlet) :
      TableFree policy w (w.modifyPublishing o fun p => { p with topics := p.topics.drain.2 })

/-- Every guarantee of callers allows the changes that leave tables alone. -/
theorem TableFree.guarantee {policy : ProvisioningPolicy} {G : World → World → Prop} [Guarantee.Caller policy G]
    {w w' : World} (change : TableFree policy w w') : G w w' := by
  cases change with
  | job change => exact Guarantee.ofJob change
  | call c => exact Guarantee.Caller.call w c
  | createSubscription name topic ackDeadline allowed present dead =>
    exact Guarantee.Caller.createSubscription w name topic ackDeadline allowed present dead
  | cacheSubscription i handle present => exact Guarantee.Caller.cacheSubscription w i handle present
  | closePublisher o => exact Guarantee.Caller.closePublisher w o
  | drainTopics o => exact Guarantee.Caller.drainTopics w o

namespace Guarantee

variable {policy : ProvisioningPolicy} {G : World → World → Prop}

theorem allows_jobs [Guarantee policy G] : ∀ w w', Change policy false w w' → G w w' :=
  fun _ _ change => Guarantee.ofJob change

/-- Every guarantee of callers allows the changes that leave tables alone. -/
theorem allows_tableFree [Guarantee.Caller policy G] : ∀ w w', TableFree policy w w' → G w w' :=
  fun _ _ change => change.guarantee

/-- The changes that leave tables alone are a guarantee. -/
instance untabled : Guarantee policy (TableFree policy) :=
  ⟨.job, fun change => change.guarantee⟩

end Guarantee

/-- The steps of callers, and no more: a change that leaves every table alone,
or one of the changes of a bus's table that `TableChange` lists. -/
inductive Stepped (policy : ProvisioningPolicy) : World → World → Prop
  | free {w w' : World} : TableFree policy w w' → Stepped policy w w'
  | table (w : World) (i : Nat) (f : BusState → BusState) : TableChange (w.bus i) (f (w.bus i)) →
      Stepped policy w (w.modifyBus i f)

/-- The steps of callers are the least guarantee of callers. -/
instance Guarantee.stepped {policy : ProvisioningPolicy} : Guarantee.Caller policy (Stepped policy) where
  ofJob change := .free (.job change)
  toChange step := by
    cases step with
    | free change => exact change.guarantee
    | table i f change => exact Guarantee.Caller.table _ i f change
  call w c := .free (.call w c)
  createSubscription w name topic ackDeadline allowed present dead :=
    .free (.createSubscription w name topic ackDeadline allowed present dead)
  cacheSubscription w i handle present := .free (.cacheSubscription w i handle present)
  closePublisher w o := .free (.closePublisher w o)
  drainTopics w o := .free (.drainTopics w o)
  table := .table

/-- A change a background job makes that leaves every publisher's gate alone:
each change of `Change policy false` but passing a gate. Jobs that watch leases,
run delivery loops or stop them take only such steps. -/
inductive UngatedJob (policy : ProvisioningPolicy) : World → World → Prop
  | call (w : World) (c : BrokerCall) : c.byJob = true → UngatedJob policy w { w with broker := c.apply w.broker }
  | receive {w : World} {b : Broker} {d : Option Delivery} (channel : Nat) :
      w.broker.receive channel = some (b, d) → UngatedJob policy w { w with broker := b }
  | createTopic (w : World) (name : String) : policy.allowsCreate →
      UngatedJob policy w { w with broker := (w.broker.createTopic name).1 }
  | metrics (w : World) (f : Metrics → Metrics) : UngatedJob policy w { w with metrics := f w.metrics }
  | allocate (w : World) : UngatedJob policy w w.allocate.1
  | mint (w : World) : UngatedJob policy w w.mint.1
  | loops (w : World) (loops : List LoopState) : UngatedJob policy w { w with loops := loops }
  | handle (w : World) (handler calls : Nat) (record : HandledRecord) :
      UngatedJob policy w
        { w with handlers := w.handlers.mapIdx fun i s => if i = handler then { s with calls := calls } else s,
                 handled := w.handled ++ [record] }
  | cacheTopic (w : World) (o : Outlet) (name : String) : w.broker.hasTopic name →
      UngatedJob policy w (w.cacheTopic o name).1

/-- A change of a bus task that leaves every table, every gate, and every
publisher's closing and draining alone: a change of `UngatedJob`, any broker
call, a creation of a subscription the policy allows on a topic that exists
beside its dead-letter topic, or caching a subscription that exists. -/
inductive Ungated (policy : ProvisioningPolicy) : World → World → Prop
  | job {w w' : World} : UngatedJob policy w w' → Ungated policy w w'
  | call (w : World) (c : BrokerCall) : Ungated policy w { w with broker := c.apply w.broker }
  | createSubscription (w : World) (name topic : String) (ackDeadline : Option Duration) :
      policy.allowsCreate → w.broker.hasTopic topic → w.broker.hasTopic (deadLetterTopic topic) →
      Ungated policy w
        { w with broker := (w.broker.createSubscription name topic (.forTopic topic ackDeadline)).1 }
  | cacheSubscription (w : World) (i : Nat) (handle : SubscriptionHandle) :
      w.broker.hasSubscription handle.name →
      Ungated policy w (w.modifyBus i fun b => { b with subscriptions := (b.subscriptions.insert handle).1 })

section Ungated

variable {policy : ProvisioningPolicy} {w w' : World}

theorem UngatedJob.change (change : UngatedJob policy w w') : Change policy false w w' := by
  cases change with
  | call c byJob => exact .call w c (by rw [byJob, Bool.true_or])
  | receive channel received => exact .receive channel received
  | createTopic name allowed => exact .createTopic w name allowed
  | metrics f => exact .metrics w f
  | allocate => exact .allocate w
  | mint => exact .mint w
  | loops loops => exact .loops w loops
  | handle handler calls record => exact .handle w handler calls record
  | cacheTopic o name present => exact .cacheTopic w o name present

theorem Ungated.tableFree (change : Ungated policy w w') : TableFree policy w w' := by
  cases change with
  | job change => exact .job change.change
  | call c => exact .call w c
  | createSubscription name topic ackDeadline allowed present dead =>
    exact .createSubscription w name topic ackDeadline allowed present dead
  | cacheSubscription i handle present => exact .cacheSubscription w i handle present

end Ungated

/-- A guarantee of bus tasks that pass no gate: a relation on worlds that allows
every change of `UngatedJob`, and only changes some bus task may make. The
specifications of programs that pass no gate hold for every such guarantee, so
that they are read as well in a protocol that follows who is inside a gate. -/
class Guarantee.Ungated (policy : outParam ProvisioningPolicy) (G : World → World → Prop) : Prop where
  ofJob : ∀ {w w' : World}, UngatedJob policy w w' → G w w'
  toChange : ∀ {w w' : World}, G w w' → Change policy true w w'

/-- A guarantee of callers that pass no gate, close no publisher and drain no
cache: it also allows any broker call, a creation of a subscription the policy
allows on a topic that exists beside its dead-letter topic, caching a
subscription that exists, and the changes of a bus's table that `TableChange`
lists. -/
class Guarantee.UngatedCaller (policy : outParam ProvisioningPolicy) (G : World → World → Prop) : Prop
    extends Guarantee.Ungated policy G where
  call : ∀ (w : World) (c : BrokerCall), G w { w with broker := c.apply w.broker }
  createSubscription : ∀ (w : World) (name topic : String) (ackDeadline : Option Duration),
    policy.allowsCreate → w.broker.hasTopic topic → w.broker.hasTopic (deadLetterTopic topic) →
    G w { w with broker := (w.broker.createSubscription name topic (.forTopic topic ackDeadline)).1 }
  cacheSubscription : ∀ (w : World) (i : Nat) (handle : SubscriptionHandle),
    w.broker.hasSubscription handle.name →
    G w (w.modifyBus i fun b => { b with subscriptions := (b.subscriptions.insert handle).1 })
  table : ∀ (w : World) (i : Nat) (f : BusState → BusState), TableChange (w.bus i) (f (w.bus i)) →
    G w (w.modifyBus i f)

namespace Guarantee

variable {policy : ProvisioningPolicy} {G : World → World → Prop}

/-- Every guarantee of bus tasks is one of tasks that pass no gate. -/
instance ungated [Guarantee policy G] : Guarantee.Ungated policy G :=
  ⟨fun change => Guarantee.ofJob change.change, Guarantee.toChange⟩

/-- Every guarantee of callers is one of callers that pass no gate. -/
instance ungatedCaller [Guarantee.Caller policy G] : Guarantee.UngatedCaller policy G where
  call := Guarantee.Caller.call
  createSubscription := Guarantee.Caller.createSubscription
  cacheSubscription := Guarantee.Caller.cacheSubscription
  table := Guarantee.Caller.table

/-- The changes of jobs that pass no gate are such a guarantee. -/
instance ungatedJobs : Guarantee.Ungated policy (UngatedJob policy) :=
  ⟨id, fun change => change.change.widen⟩

/-- The changes of callers that pass no gate are a guarantee of tasks that pass no gate. -/
instance ungatedCallers : Guarantee.Ungated policy (Courier.Ungated policy) :=
  ⟨.job, fun change => change.tableFree.guarantee⟩

theorem allows_ungatedJobs [Guarantee.Ungated policy G] : ∀ w w', UngatedJob policy w w' → G w w' :=
  fun _ _ change => Guarantee.Ungated.ofJob change

theorem allows_ungated [Guarantee.UngatedCaller policy G] : ∀ w w', Courier.Ungated policy w w' → G w w' := by
  intro w w' change
  cases change with
  | job change => exact Guarantee.Ungated.ofJob change
  | call c => exact Guarantee.UngatedCaller.call w c
  | createSubscription name topic ackDeadline allowed present dead =>
    exact Guarantee.UngatedCaller.createSubscription w name topic ackDeadline allowed present dead
  | cacheSubscription i handle present => exact Guarantee.UngatedCaller.cacheSubscription w i handle present

end Guarantee

/-- What no change of a bus task touches: every topic and every subscription,
with its settings, stays at the broker, and no publisher's policy, bus
configuration or handler's bus changes. -/
structure Steady (w w' : World) : Prop where
  topics : ∀ t, w.broker.hasTopic t → w'.broker.hasTopic t
  subscriptions : ∀ n s, w.broker.subscription? n = some s →
    ∃ s', w'.broker.subscription? n = some s' ∧ s'.settings = s.settings
  policy : ∀ o, (w'.publishing o).policy = (w.publishing o).policy
  config : ∀ i, (w'.bus i).config = (w.bus i).config
  handlers : w'.handlers.map (·.bus) = w.handlers.map (·.bus)

namespace Steady

theorem refl (w : World) : Steady w w :=
  ⟨fun _ present => present, fun _ s found => ⟨s, found, rfl⟩, fun _ => rfl, fun _ => rfl, rfl⟩

theorem trans {w₁ w₂ w₃ : World} (first : Steady w₁ w₂) (second : Steady w₂ w₃) : Steady w₁ w₃ where
  topics t present := second.topics t (first.topics t present)
  subscriptions n s found := by
    obtain ⟨s₂, found₂, same₂⟩ := first.subscriptions n s found
    obtain ⟨s₃, found₃, same₃⟩ := second.subscriptions n s₂ found₂
    exact ⟨s₃, found₃, same₃.trans same₂⟩
  policy o := (second.policy o).trans (first.policy o)
  config i := (second.config i).trans (first.config i)
  handlers := second.handlers.trans first.handlers

theorem hasSubscription {w w' : World} (steady : Steady w w') {n : String}
    (present : w.broker.hasSubscription n = true) : w'.broker.hasSubscription n = true := by
  obtain ⟨s, found⟩ := (Broker.hasSubscription_iff _ _).mp present
  obtain ⟨s', found', -⟩ := steady.subscriptions n s found
  exact (Broker.hasSubscription_iff _ _).mpr ⟨s', found'⟩

/-- A change of the broker alone that keeps topics and subscriptions. -/
theorem of_broker {w : World} {b : Broker}
    (topics : ∀ t, w.broker.hasTopic t → b.hasTopic t)
    (subscriptions : ∀ n s, w.broker.subscription? n = some s →
      ∃ s', b.subscription? n = some s' ∧ s'.settings = s.settings) :
    Steady w { w with broker := b } :=
  ⟨topics, subscriptions, fun o => by cases o <;> rfl, fun _ => rfl, rfl⟩

/-- A change of the broker that keeps topics, and subscriptions with their
settings. -/
theorem of_registry {w : World} {b : Broker} (topics : ∀ t, w.broker.hasTopic t → b.hasTopic t)
    (settings : ∀ n, (b.subscription? n).map (·.settings) = (w.broker.subscription? n).map (·.settings)) :
    Steady w { w with broker := b } := by
  refine of_broker topics fun n s found => ?_
  have same := settings n
  rw [found] at same
  cases found' : b.subscription? n with
  | none => simp [found'] at same
  | some s' => exact ⟨s', rfl, by simpa [found'] using same⟩

theorem of_retains {w : World} {b : Broker} (retains : w.broker.Retains b) :
    Steady w { w with broker := b } :=
  of_registry retains.topics retains.settings

theorem of_publishing {w : World} (o : Outlet) {f : Publishing → Publishing}
    (keeps : ∀ p, (f p).policy = p.policy) : Steady w (w.modifyPublishing o f) :=
  ⟨fun _ present => by simpa using present, fun _ s found => ⟨s, by simpa using found, rfl⟩,
    World.policy_modifyPublishing w o keeps, World.config_modifyPublishing w o f, by simp⟩

/-- A change of a bus that keeps its configuration and publisher. -/
theorem of_bus {w : World} (i : Nat) {f : BusState → BusState}
    (config : ∀ b, (f b).config = b.config) (publishing : ∀ b, (f b).publishing = b.publishing) :
    Steady w (w.modifyBus i f) :=
  ⟨fun _ present => present, fun _ s found => ⟨s, found, rfl⟩,
    fun o => by rw [World.publishing_modifyBus w i publishing],
    fun j => World.config_modifyBus w i j config, rfl⟩

/-- A change of what no bus task reads of the others: metrics, numbers, loops. -/
theorem of_bookkeeping {w w' : World} (broker : w'.broker = w.broker) (buses : w'.buses = w.buses)
    (standalone : w'.standalone = w.standalone) (handlers : w'.handlers = w.handlers) : Steady w w' := by
  refine ⟨fun _ present => broker ▸ present, fun _ s found => ⟨s, broker ▸ found, rfl⟩,
    fun o => ?_, fun i => ?_, by rw [handlers]⟩
  · cases o <;> simp [World.publishing, World.bus, buses, standalone]
  · simp [World.bus, buses]

end Steady

/-- A subscription created by a bus: its settings are the standard ones. -/
theorem subscription?_createSubscription (b : Broker) (name topic : String)
    (settings : SubscriptionSettings) (n : String) {s' : SubscriptionState}
    (found : (b.createSubscription name topic settings).1.subscription? n = some s') :
    (∃ s, b.subscription? n = some s ∧ s.settings = s'.settings) ∨ (n = name ∧ s'.settings = settings) := by
  unfold Broker.createSubscription at found
  dsimp only at found
  split at found
  · exact .inl ⟨s', found, rfl⟩
  · split at found
    · exact .inl ⟨s', found, rfl⟩
    · split at found
      · exact .inl ⟨s', found, rfl⟩
      · rw [Broker.subscription?_putSubscription] at found
        split at found
        · next same =>
          cases found
          exact .inr ⟨same.symm, rfl⟩
        · exact .inl ⟨s', found, rfl⟩

theorem steady_createSubscription (w : World) (name topic : String) (settings : SubscriptionSettings) :
    Steady w { w with broker := (w.broker.createSubscription name topic settings).1 } := by
  refine .of_broker (fun t present => ?_) fun n s found => ?_
  · unfold Broker.createSubscription
    dsimp only
    split
    · exact present
    · split
      · exact present
      · split
        · exact present
        · -- attaching the name to its topic keeps every topic's name
          rw [Broker.hasTopic, Broker.topic?_putSubscription,
            Broker.topic?_modifyTopic _ _ _ (fun t => { t with subscriptions := t.subscriptions ++ [name] })
              fun _ => rfl]
          split
          · rw [Option.isSome_map]
            exact present
          · exact present
  · unfold Broker.createSubscription
    dsimp only
    split
    · exact ⟨s, found, rfl⟩
    · split
      · exact ⟨s, found, rfl⟩
      · split
        · exact ⟨s, found, rfl⟩
        · rename_i absent _
          have other : name ≠ n := by
            rintro rfl
            exact absent (Option.isSome_iff_exists.mpr ⟨s, found⟩)
          rw [Broker.subscription?_putSubscription]
          simp only [SubscriptionState.fresh, other, if_false, Broker.subscription?_modifyTopic]
          exact ⟨s, found, rfl⟩

theorem steady_createTopic (w : World) (name : String) :
    Steady w { w with broker := (w.broker.createTopic name).1 } :=
  -- counting the call touches no topic or subscription
  .of_registry (w.broker.retains_createTopic name).topics (w.broker.retains_createTopic name).settings

namespace Change

variable {policy : ProvisioningPolicy}

theorem steady {caller : Bool} {w w' : World} (change : Change policy caller w w') : Steady w w' := by
  cases change with
  | call w c _ => exact .of_retains (c.retains w.broker)
  | receive channel received => exact .of_retains (w.broker.retains_receive received)
  | createTopic w name _ => exact steady_createTopic w name
  | createSubscription w name topic ackDeadline _ _ _ => exact steady_createSubscription w name topic _
  | metrics w f => exact .of_bookkeeping rfl rfl rfl rfl
  | allocate w => exact .of_bookkeeping rfl rfl rfl rfl
  | mint w => exact .of_bookkeeping rfl rfl rfl rfl
  | loops w loops => exact .of_bookkeeping rfl rfl rfl rfl
  | handle w handler calls record =>
    refine ⟨fun _ present => present, fun _ s found => ⟨s, found, rfl⟩, fun o => ?_, fun _ => rfl, ?_⟩
    · cases o <;> rfl
    · apply List.ext_getElem (by simp)
      intro i _ _
      simp only [List.getElem_map, List.getElem_mapIdx]
      split <;> rfl
  | gate w o g => exact .of_publishing o fun _ => rfl
  | cacheTopic w o name _ =>
    rw [World.cacheTopic_fst]
    have allocated : Steady w w.allocate.1 := .of_bookkeeping rfl rfl rfl rfl
    exact allocated.trans (.of_publishing o fun _ => rfl)
  | closePublisher w o => exact .of_publishing o fun _ => rfl
  | drainTopics w o => exact .of_publishing o fun _ => rfl
  | cacheSubscription w i handle _ => exact .of_bus i (fun _ => rfl) fun _ => rfl
  | table w i f keeps => exact .of_bus i (fun b => (keeps b).1) fun b => (keeps b).2.1

end Change

theorem Steady.of_changes {policy : ProvisioningPolicy} {caller : Bool} {w w' : World}
    (changes : Relation.ReflTransGen (Change policy caller) w w') : Steady w w' := by
  induction changes with
  | refl => exact .refl w
  | tail _ change steady => exact steady.trans change.steady

/-- Whatever the others do while a task waits keeps what `Steady` keeps, when
each of their steps is a change of a bus task. -/
theorem Steady.of_rely {policy : ProvisioningPolicy} {R : World → World → Prop}
    (others : ∀ w w', R w w' → Change policy true w w') {w w' : World} (related : Relation.ReflTransGen R w w') :
    Steady w w' :=
  .of_changes (Relation.ReflTransGen.mono others _ _ related)

end Courier
