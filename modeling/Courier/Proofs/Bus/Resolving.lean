import Courier.Proofs.Bus.Specs

namespace Courier

/-! # Resolving under a provisioning policy

A bus resolves a topic or a subscription from its cache, or asks the broker and
creates what is missing when its policy allows. Whatever is cached exists at the
broker: a name is cached only once its handle was fetched. A subscription is
created only after its topic and its dead-letter topic were resolved, and no
change of a bus task removes a topic, so a subscription the buses create keeps
its dead-letter topic. Every change of a bus task keeps these facts.

A resolution ends with the resource at the broker, or fails: the resource is
missing and the policy forbids creating it, or the broker is down. A creation
that finds its resource made already is never a failure. -/

namespace TopicCache

theorem find?_some {c : TopicCache} {name : String} {h : TopicRef} (found : c.find? name = some h) :
    h.name = name ∧ h ∈ c.handles :=
  ⟨by simpa using List.find?_some found, List.mem_of_find?_eq_some found⟩

/-- The cache holds `h` under its name, or it is sealed: what stays true of a
handle a resolution returned, whatever happens to the cache afterwards. -/
def Holds (c : TopicCache) (h : TopicRef) : Prop := c.find? h.name = some h ∨ c.sealed = true

theorem contains_of_find? {c : TopicCache} {name : String} {h : TopicRef} (found : c.find? name = some h) :
    c.contains name = true := by
  obtain ⟨named, cached⟩ := find?_some found
  simpa [contains, names] using ⟨h, cached, named⟩

theorem sealed_insert (c : TopicCache) (fresh : TopicRef) : (c.insert fresh).1.sealed = c.sealed := by
  unfold insert
  split
  · rfl
  · split <;> rfl

/-- A sealed cache takes nothing in, and gives the new handle back. -/
theorem insert_of_sealed {c : TopicCache} (sealed : c.sealed = true) (fresh : TopicRef) :
    c.insert fresh = (c, fresh) := by
  simp [insert, sealed]

theorem handles_prefix_insert (c : TopicCache) (fresh : TopicRef) : c.handles <+: (c.insert fresh).1.handles := by
  unfold insert
  split
  · exact List.prefix_refl _
  · split
    · exact List.prefix_refl _
    · exact List.prefix_append _ _

theorem find?_insert_of_find? {c : TopicCache} {name : String} {h : TopicRef} (found : c.find? name = some h)
    (fresh : TopicRef) : (c.insert fresh).1.find? name = some h := by
  obtain ⟨rest, grown⟩ := handles_prefix_insert c fresh
  unfold find? at found ⊢
  rw [← grown, List.find?_append, found]
  rfl

/-- An insertion into an open cache returns the handle the cache then holds
under its name: the first of that name to be cached. -/
theorem find?_insert_self {c : TopicCache} (unsealed : c.sealed = false) (fresh : TopicRef) :
    (c.insert fresh).1.find? fresh.name = some (c.insert fresh).2 := by
  unfold insert
  rw [if_neg (by simp [unsealed])]
  split
  · next kept found => exact found
  · next missing =>
    unfold find? at missing ⊢
    simp [List.find?_append, missing]

/-- The handle an insertion returns has the name of the handle inserted. -/
theorem name_insert (c : TopicCache) (fresh : TopicRef) : (c.insert fresh).2.name = fresh.name := by
  cases sealed : c.sealed with
  | true => rw [insert_of_sealed sealed]
  | false => exact (find?_some (find?_insert_self sealed fresh)).1

/-- An insertion returns a handle the cache then holds, unless it is sealed. -/
theorem holds_insert (c : TopicCache) (fresh : TopicRef) : (c.insert fresh).1.Holds (c.insert fresh).2 := by
  cases sealed : c.sealed with
  | true => exact .inr ((sealed_insert c fresh).trans sealed)
  | false =>
    left
    rw [name_insert]
    exact find?_insert_self sealed fresh

theorem contains_insert {c : TopicCache} {fresh : TopicRef} {n : String}
    (found : (c.insert fresh).1.contains n = true) : c.contains n = true ∨ n = fresh.name := by
  unfold insert at found
  split at found
  · exact .inl found
  · split at found
    · exact .inl found
    · simpa [contains, names] using found

theorem contains_drain (c : TopicCache) (n : String) : c.drain.2.contains n = false := rfl

/-- What one step may do to a cache: leave it, insert a handle, or drain it. -/
def Step (c c' : TopicCache) : Prop := c' = c ∨ (∃ fresh, c' = (c.insert fresh).1) ∨ c' = c.drain.2

theorem Holds.step {c c' : TopicCache} {h : TopicRef} (holds : c.Holds h) (step : Step c c') : c'.Holds h := by
  rcases step with rfl | ⟨fresh, rfl⟩ | rfl
  · exact holds
  · rcases holds with found | sealed
    · exact .inl (find?_insert_of_find? found fresh)
    · exact .inr ((sealed_insert c fresh).trans sealed)
  · exact .inr rfl

end TopicCache

namespace SubscriptionCache

theorem mem_insert {c : SubscriptionCache} {handle h : SubscriptionHandle} (found : h ∈ (c.insert handle).1) :
    h ∈ c ∨ h = handle := by
  unfold insert at found
  split at found
  · exact .inl found
  · simpa using found

/-- The handle an insertion keeps has the name of the handle inserted. -/
theorem name_insert (c : SubscriptionCache) (handle : SubscriptionHandle) :
    (c.insert handle).2.name = handle.name := by
  unfold insert
  split
  · next kept found => simpa using List.find?_some found
  · rfl

/-- An insertion returns the handle the cache then holds under its name: the
first of that name to be cached. -/
theorem find?_insert_self (c : SubscriptionCache) (handle : SubscriptionHandle) :
    find? (c.insert handle).1 handle.name = some (c.insert handle).2 := by
  unfold insert
  split
  · next kept found => exact found
  · next missing =>
    rw [find?] at missing ⊢
    simp [List.find?_append, missing]

end SubscriptionCache

/-- What the buses resolved exists at the broker. -/
structure Provisioned (w : World) : Prop where
  topics : ∀ o n, (w.publishing o).topics.contains n = true → w.broker.hasTopic n = true
  subscriptions : ∀ i h, h ∈ (w.bus i).subscriptions → w.broker.hasSubscription h.name = true

namespace World

theorem subscriptions_modifyPublishing (w : World) (o : Outlet) (f : Publishing → Publishing) (i : Nat) :
    ((w.modifyPublishing o f).bus i).subscriptions = (w.bus i).subscriptions := by
  cases o with
  | bus j =>
    show ((w.modifyBus j fun b => { b with publishing := f b.publishing }).bus i).subscriptions = _
    rcases bus_modifyBus w j i (fun b => { b with publishing := f b.publishing }) with same | ⟨-, changed⟩
    · rw [same]
    · rw [changed]
  | standalone => rfl

end World

namespace Provisioned

variable {w : World}

theorem of_steady (holds : Provisioned w) {b : Broker} (steady : Steady w { w with broker := b }) :
    Provisioned { w with broker := b } where
  topics o n cached := steady.topics n (holds.topics o n cached)
  subscriptions i h cached := steady.hasSubscription (holds.subscriptions i h cached)

/-- A change of the broker that keeps every topic and every subscription with
its settings. -/
theorem of_registry (holds : Provisioned w) {b : Broker} (topics : ∀ t, w.broker.hasTopic t → b.hasTopic t)
    (settings : ∀ n, (b.subscription? n).map (·.settings) = (w.broker.subscription? n).map (·.settings)) :
    Provisioned { w with broker := b } :=
  holds.of_steady (Steady.of_registry topics settings)

theorem of_retains (holds : Provisioned w) {b : Broker} (retains : w.broker.Retains b) :
    Provisioned { w with broker := b } :=
  holds.of_registry retains.topics retains.settings

/-- A change of one publisher that caches only topics of the broker. -/
theorem of_publishing (holds : Provisioned w) (o : Outlet) {f : Publishing → Publishing}
    (topics : ∀ p n, (f p).topics.contains n = true → p.topics.contains n = true ∨ w.broker.hasTopic n = true) :
    Provisioned (w.modifyPublishing o f) where
  topics o' n cached := by
    rw [World.broker_modifyPublishing]
    rcases World.publishing_modifyPublishing w o o' f with same | ⟨-, changed⟩
    · rw [same] at cached
      exact holds.topics o' n cached
    · rw [changed] at cached
      exact (topics _ n cached).elim (holds.topics o' n) id
  subscriptions i h cached := by
    rw [World.subscriptions_modifyPublishing] at cached
    simpa using holds.subscriptions i h cached

/-- A change of one bus that keeps its publisher and caches only subscriptions
of the broker. -/
theorem of_bus (holds : Provisioned w) (i : Nat) {f : BusState → BusState}
    (publishing : ∀ b, (f b).publishing = b.publishing)
    (subscriptions : ∀ b h, h ∈ (f b).subscriptions → h ∈ b.subscriptions ∨ w.broker.hasSubscription h.name = true) :
    Provisioned (w.modifyBus i f) where
  topics o n cached := by
    rw [World.publishing_modifyBus w i publishing] at cached
    exact holds.topics o n cached
  subscriptions j h cached := by
    rcases World.bus_modifyBus w i j f with same | ⟨-, changed⟩
    · rw [same] at cached
      exact holds.subscriptions j h cached
    · rw [changed] at cached
      exact (subscriptions _ h cached).elim (holds.subscriptions j h) id

/-- A change of what provisioning does not read: metrics, numbers, loops, handlers. -/
theorem of_bookkeeping (holds : Provisioned w) {w' : World} (broker : w'.broker = w.broker)
    (buses : w'.buses = w.buses) (standalone : w'.standalone = w.standalone) : Provisioned w' where
  topics o n cached := by
    have same : w'.publishing o = w.publishing o := by
      cases o <;> simp [World.publishing, World.bus, buses, standalone]
    rw [same] at cached
    exact broker ▸ holds.topics o n cached
  subscriptions i h cached := by
    have same : w'.bus i = w.bus i := by simp [World.bus, buses]
    rw [same] at cached
    exact broker ▸ holds.subscriptions i h cached

end Provisioned

/-! What the broker answers a resolving bus. -/

/-- An answer of the broker that gives a value with `done`, or says the broker
is down. -/
def Answers {α : Type} (done : α → Prop) : Except GatewayError α → Prop
  | .ok a => done a
  | .error (.unavailable _) => True
  | .error _ => False

/-- The answer to a creation: made, or made already, and in place either way;
or the broker is down. -/
def Created (present : Prop) : Except GatewayError Unit → Prop
  | .ok () => present
  | .error (.alreadyExists _) => present
  | .error (.unavailable _) => True
  | .error _ => False

theorem Answers.mono {α : Type} {done done' : α → Prop} (weaker : ∀ a, done a → done' a)
    {r : Except GatewayError α} (answers : Answers done r) : Answers done' r := by
  cases r with
  | ok a => exact weaker a answers
  | error e => cases e <;> exact answers

theorem Created.mono {present present' : Prop} (weaker : present → present') {r : Except GatewayError Unit}
    (created : Created present r) : Created present' r := by
  cases r with
  | ok u => exact weaker created
  | error e => cases e <;> first | exact weaker created | exact created

namespace Broker

variable (b : Broker)

theorem checkAvailable_error {e : GatewayError} (down : b.checkAvailable = .error e) :
    ∃ reason, e = .unavailable reason := by
  unfold checkAvailable at down
  split at down <;> cases down
  exact ⟨_, rfl⟩

theorem answers_topicExists (name : String) :
    Answers (fun found => found = true → (b.topicExists name).1.hasTopic name = true) (b.topicExists name).2 := by
  unfold topicExists
  cases available : b.checkAvailable with
  | error e =>
    obtain ⟨_, rfl⟩ := b.checkAvailable_error available
    trivial
  | ok u =>
    dsimp only
    split
    · exact fun wrong => by cases wrong
    · exact id

theorem answers_topicHandle {name : String} (present : b.hasTopic name = true) :
    Answers (fun _ => True) (b.topicHandle name) := by
  unfold topicHandle
  cases available : b.checkAvailable with
  | error e =>
    obtain ⟨_, rfl⟩ := b.checkAvailable_error available
    trivial
  | ok u => simp [present]; trivial

theorem created_createTopic (name : String) :
    Created ((b.createTopic name).1.hasTopic name = true) (b.createTopic name).2 := by
  unfold createTopic
  dsimp only
  split
  · next down =>
    obtain ⟨_, rfl⟩ := checkAvailable_error _ down
    trivial
  · split
    · next present => exact present
    · simp [Created, hasTopic_addTopic]

theorem answers_subscriptionExists (name : String) :
    Answers (fun found => found = true → b.hasSubscription name = true) (b.subscriptionExists name) := by
  unfold subscriptionExists
  cases available : b.checkAvailable with
  | error e =>
    obtain ⟨_, rfl⟩ := b.checkAvailable_error available
    trivial
  | ok u => exact id

theorem answers_subscriptionHandle {name : String} (present : b.hasSubscription name = true) :
    Answers (fun _ => True) (b.subscriptionHandle name) := by
  obtain ⟨s, found⟩ := (b.hasSubscription_iff name).mp present
  unfold subscriptionHandle
  cases available : b.checkAvailable with
  | error e =>
    obtain ⟨_, rfl⟩ := b.checkAvailable_error available
    trivial
  | ok u => simp [found]; trivial

theorem created_createSubscription {name topic : String} (settings : SubscriptionSettings)
    (present : b.hasTopic topic = true) :
    Created ((b.createSubscription name topic settings).1.hasSubscription name = true)
      (b.createSubscription name topic settings).2 := by
  unfold createSubscription
  dsimp only
  split
  · next down =>
    obtain ⟨_, rfl⟩ := checkAvailable_error _ down
    trivial
  · split
    · next made => exact made
    · split
      · next missing =>
        -- counting the call keeps the topics
        change (!b.hasTopic topic) = true at missing
        simp [present] at missing
      · simp [Created, SubscriptionState.fresh]

end Broker

theorem World.topics_modifyPublishing (w : World) (o o' : Outlet) {f : Publishing → Publishing}
    (keeps : ∀ p, (f p).topics = p.topics) :
    ((w.modifyPublishing o f).publishing o').topics = (w.publishing o').topics := by
  rcases publishing_modifyPublishing w o o' f with same | ⟨-, changed⟩
  · rw [same]
  · rw [changed, keeps]

namespace Change

variable {policy : ProvisioningPolicy} {caller : Bool} {w w' : World}

theorem provisioned (change : Change policy caller w w') (holds : Provisioned w) : Provisioned w' := by
  cases change with
  | call w c _ => exact holds.of_retains (c.retains w.broker)
  | receive channel received => exact holds.of_retains (w.broker.retains_receive received)
  | createTopic w name _ => exact holds.of_steady (steady_createTopic w name)
  | createSubscription w name topic ackDeadline _ _ _ =>
    exact holds.of_steady (steady_createSubscription w name topic _)
  | metrics w f => exact holds.of_bookkeeping rfl rfl rfl
  | allocate w => exact holds.of_bookkeeping rfl rfl rfl
  | mint w => exact holds.of_bookkeeping rfl rfl rfl
  | loops w loops => exact holds.of_bookkeeping rfl rfl rfl
  | handle w handler calls record => exact holds.of_bookkeeping rfl rfl rfl
  | gate w o g => exact holds.of_publishing o fun _ _ cached => .inl cached
  | cacheTopic w o name present =>
    rw [World.cacheTopic_fst]
    have allocated : Provisioned w.allocate.1 := holds.of_bookkeeping rfl rfl rfl
    refine allocated.of_publishing o fun _ n cached => ?_
    rcases TopicCache.contains_insert cached with old | rfl
    · exact .inl old
    · exact .inr present
  | closePublisher w o => exact holds.of_publishing o fun _ _ cached => .inl cached
  | drainTopics w o => exact holds.of_publishing o fun p n cached => by simp [TopicCache.contains_drain] at cached
  | cacheSubscription w i handle present =>
    refine holds.of_bus i (fun _ => rfl) fun _ h cached => ?_
    rcases SubscriptionCache.mem_insert cached with old | rfl
    · exact .inl old
    · exact .inr present
  | table w i f keeps => exact holds.of_bus i (fun b => (keeps b).2.1) fun b h cached => .inl ((keeps b).2.2 h cached)

/-- A step of a bus task leaves each cache of topics as it is, inserts a handle
into it, or drains it. -/
theorem topicCache (change : Change policy caller w w') (o : Outlet) :
    TopicCache.Step (w.publishing o).topics (w'.publishing o).topics := by
  cases change with
  | gate w o' g => exact .inl (w.topics_modifyPublishing o' o fun _ => rfl)
  | closePublisher w o' => exact .inl (w.topics_modifyPublishing o' o fun _ => rfl)
  | cacheTopic w o' name _ =>
    rw [World.cacheTopic_fst]
    rcases World.publishing_modifyPublishing w.allocate.1 o' o _ with same | ⟨-, changed⟩
    · exact .inl (by rw [same]; rfl)
    · exact .inr (.inl ⟨_, by rw [changed]; rfl⟩)
  | drainTopics w o' =>
    rcases World.publishing_modifyPublishing w o' o _ with same | ⟨-, changed⟩
    · exact .inl (by rw [same])
    · exact .inr (.inr (by rw [changed]))
  | cacheSubscription w i handle _ =>
    have keeps : ∀ b : BusState, { b with subscriptions := (b.subscriptions.insert handle).1 }.publishing =
        b.publishing := fun _ => rfl
    exact .inl (by rw [World.publishing_modifyBus w i keeps])
  | table w i f keeps => exact .inl (by rw [World.publishing_modifyBus w i fun b => (keeps b).2.1])
  | _ => exact .inl rfl

/-- No change of a bus task adds or removes a bus. -/
theorem length (change : Change policy caller w w') : w'.buses.length = w.buses.length := by
  cases change with
  | gate w o g => exact w.length_modifyPublishing o _
  | cacheTopic w o name _ =>
    rw [World.cacheTopic_fst]
    exact w.allocate.1.length_modifyPublishing o _
  | closePublisher w o => exact w.length_modifyPublishing o _
  | drainTopics w o => exact w.length_modifyPublishing o _
  | cacheSubscription w i handle _ => exact w.length_modifyBus i _
  | table w i f _ => exact w.length_modifyBus i f
  | _ => rfl

theorem within (change : Change policy caller w w') {o : Outlet} (within : o.Within w') : o.Within w := by
  cases o with
  | bus i =>
    show i < w.buses.length
    rw [← change.length]
    exact within
  | standalone => trivial

end Change

/-- What a resolution of `name` through the cache of outlet `o` leaves, when it
returns the handle `h`: a handle of that name, the topic at the broker, and the
handle held in the cache under its name unless the cache is sealed. -/
structure TopicResolved (o : Outlet) (name : String) (h : TopicRef) (w : World) : Prop where
  named : h.name = name
  present : w.broker.hasTopic name = true
  held : o.Within w → (w.publishing o).topics.Holds h

namespace TopicResolved

variable {o : Outlet} {name : String} {h : TopicRef} {w w' : World}

theorem change {policy : ProvisioningPolicy} {caller : Bool} (resolved : TopicResolved o name h w)
    (change : Change policy caller w w') : TopicResolved o name h w' :=
  ⟨resolved.named, change.steady.topics _ resolved.present,
    fun within => (resolved.held (change.within within)).step (change.topicCache o)⟩

theorem rely {policy : ProvisioningPolicy} {R : World → World → Prop}
    (others : ∀ w w', R w w' → Change policy true w w') (resolved : TopicResolved o name h w)
    (related : Relation.ReflTransGen R w w') : TopicResolved o name h w' :=
  rely_keeps (fun _ _ held other => held.change (others _ _ other)) resolved related

/-- A handle found in the cache of a world where what is cached exists. -/
theorem of_find? (holds : Provisioned w) (found : (w.publishing o).topics.find? name = some h) :
    TopicResolved o name h w :=
  ⟨(TopicCache.find?_some found).1, holds.topics o name (TopicCache.contains_of_find? found),
    fun _ => .inl ((TopicCache.find?_some found).1 ▸ found)⟩

/-- The handle a caching of a topic the broker has returns. -/
theorem cacheTopic (present : w.broker.hasTopic name = true) :
    TopicResolved o name (w.cacheTopic o name).2 (w.cacheTopic o name).1 := by
  refine ⟨TopicCache.name_insert _ _, by simpa using present, fun within => ?_⟩
  rw [World.cacheTopic_fst, World.publishing_modifyPublishing_self _ (Outlet.within_modifyPublishing
    (by rwa [World.cacheTopic_fst] at within))]
  exact TopicCache.holds_insert _ _

/-- Two resolutions of a name that hold their handles in the same open cache
hold the same handle: the one cached first. -/
theorem same {h' : TopicRef} (first : TopicResolved o name h w) (second : TopicResolved o name h' w)
    (within : o.Within w) (unsealed : (w.publishing o).topics.sealed = false) : h = h' := by
  rcases first.held within with found | sealed
  · rcases second.held within with found' | sealed
    · rw [first.named] at found
      rw [second.named, found] at found'
      exact Option.some.inj found'
    · rw [unsealed] at sealed
      cases sealed
  · rw [unsealed] at sealed
    cases sealed

end TopicResolved

/-- What a resolution of subscription `name` through the cache of bus `bus`
leaves when it returns `handle`: a handle of that name and the subscription at
the broker; and, on a bus that exists, a moment of the run, with only steps of
bus tasks since, at which the cache held that handle under the name: the lookup
that found it, or the insertion that cached it or found it cached. -/
structure SubscriptionResolved (policy : ProvisioningPolicy) (bus : Nat) (name : String)
    (handle : SubscriptionHandle) (w : World) : Prop where
  named : handle.name = name
  present : w.broker.hasSubscription name = true
  cached : bus < w.buses.length → ∃ w₁, SubscriptionCache.find? (w₁.bus bus).subscriptions name = some handle ∧
    Relation.ReflTransGen (Change policy true) w₁ w

namespace SubscriptionResolved

variable {policy : ProvisioningPolicy} {R : World → World → Prop}
  {bus : Nat} {name : String} {handle : SubscriptionHandle} {w w' : World}

theorem length_rely (others : ∀ w w', R w w' → Change policy true w w') (related : Relation.ReflTransGen R w w') :
    w'.buses.length = w.buses.length :=
  rely_keeps (I := fun v => v.buses.length = w.buses.length) (fun _ _ same other => (others _ _ other).length.trans same)
    rfl related

theorem rely (others : ∀ w w', R w w' → Change policy true w w') (resolved : SubscriptionResolved policy bus name handle w)
    (related : Relation.ReflTransGen R w w') : SubscriptionResolved policy bus name handle w' := by
  refine ⟨resolved.named, (Steady.of_rely others related).hasSubscription resolved.present, fun within => ?_⟩
  obtain ⟨w₁, found, since⟩ := resolved.cached (length_rely others related ▸ within)
  exact ⟨w₁, found, since.trans (Relation.ReflTransGen.mono others _ _ related)⟩

/-- A handle found under its name in the cache of a world where what is cached
exists. -/
theorem of_find? (holds : Provisioned w) (found : SubscriptionCache.find? (w.bus bus).subscriptions name = some handle) :
    SubscriptionResolved policy bus name handle w := by
  have named : handle.name = name := by simpa using List.find?_some found
  exact ⟨named, named ▸ holds.subscriptions bus handle (List.mem_of_find?_eq_some found), fun _ => ⟨w, found, .refl⟩⟩

end SubscriptionResolved

/-! Resolving topics. -/

/-- The failures a resolution of `topics` and `subscriptions` under `policy`
may end with: one of those names reported missing where the policy forbids
creating it, or a broker that is down. -/
def Unresolved (policy : ProvisioningPolicy) (topics subscriptions : List String) : BusError → Prop
  | .topicNotFound n => n ∈ topics ∧ policy = .requireExisting
  | .subscriptionNotFound n => n ∈ subscriptions ∧ policy = .requireExisting
  | .transport _ (.unavailable _) => True
  | _ => False

/-- How a resolution ends: with `done` of its result and the world, or with a
failure that `Unresolved` allows. -/
def Resolves {α : Type} (policy : ProvisioningPolicy) (topics subscriptions : List String)
    (done : α → World → Prop) : Except BusError α → World → Prop
  | .ok a, w => done a w
  | .error e, _ => Unresolved policy topics subscriptions e

variable {R G : World → World → Prop} {policy : ProvisioningPolicy} {topics subscriptions : List String}

@[simp] theorem resolves_ok {α : Type} {done : α → World → Prop} (a : α) (w : World) :
    Resolves policy topics subscriptions done (.ok a) w = done a w := rfl

@[simp] theorem resolves_error {α : Type} {done : α → World → Prop} (e : BusError) (w : World) :
    Resolves policy topics subscriptions done (.error e) w = Unresolved policy topics subscriptions e := rfl

theorem resolves_transport {α : Type} {done : α → World → Prop} {w : World} {r : Except GatewayError α}
    (operation : String) (answered : Answers (fun a => done a w) r) :
    Resolves policy topics subscriptions done (r.mapError (.transport operation)) w := by
  cases r with
  | ok a => exact answered
  | error e => cases e <;> exact answered

theorem Resolves.mono {α : Type} {done done' : α → World → Prop} (weaker : ∀ a w, done a w → done' a w)
    {r : Except BusError α} {w : World} (resolves : Resolves policy topics subscriptions done r w) :
    Resolves policy topics subscriptions done' r w := by
  cases r with
  | ok a => exact weaker a w resolves
  | error e => exact resolves

section Resolutions

variable (others : ∀ w w', R w w' → Change policy true w w')
include others

theorem topicExists_portable (name : String) :
    Portable (UngatedJob policy) R (fun _ => True) (topicExists name).run
      (Resolves policy topics subscriptions fun found w => found = true → w.broker.hasTopic name = true) := by
  unfold topicExists
  refine Portable.lbind (Portable.quietly (Q := fun _ _ => True) _ fun w _ =>
    ⟨.inr (.call w .countTopicExists rfl), fun _ _ => trivial⟩) fun _ => ?_
  refine Portable.lbind (Portable.lookupPause (Q := fun _ _ => True) fun _ _ _ _ => trivial) fun _ => ?_
  exact Portable.lbind (Q := fun r w => Resolves policy topics subscriptions
      (fun found w => found = true → w.broker.hasTopic name = true) (r.mapError (.transport "topic_exists")) w)
    (Portable.quietly _ fun w _ => ⟨.inr (.call w (.topicExists name) rfl), fun _ related =>
      resolves_transport _ ((w.broker.answers_topicExists name).mono fun _ present found =>
        (Steady.of_rely others related).topics _ (present found))⟩)
    fun r => Portable.transport _ r

omit others in
theorem note_portable {P : World → Prop} {Q : Unit → World → Prop} (f : Metrics → Metrics)
    (kept : ∀ w, P w → Q () { w with metrics := f w.metrics }) :
    Portable (UngatedJob policy) R P (Prog.note f) Q :=
  Portable.alter _ fun w holds => ⟨.inr (.metrics w f), kept w holds⟩

omit others in
theorem note_spec [Guarantee.Ungated policy G] {P : World → Prop} {Q : Unit → World → Prop} (f : Metrics → Metrics)
    (kept : ∀ w, P w → Q () { w with metrics := f w.metrics }) :
    Spec R G P (Prog.note f) Q :=
  (note_portable f kept).spec Guarantee.allows_ungatedJobs

/-- The end of every resolution of a topic: fetch its handle, cache it, and
return the handle the cache gives out. -/
theorem cacheTopic_portable (o : Outlet) (name : String) :
    Portable (UngatedJob policy) R (fun w => w.broker.hasTopic name = true)
      (do
        BusProg.transport "topic_handle" (← BusProg.lift (Prog.query (·.topicHandle name)))
        let handle ← BusProg.lift (Async.act (·.cacheTopic o name))
        BusProg.lift Async.yieldNow
        return handle : BusProg TopicRef).run
      (Resolves policy topics subscriptions (TopicResolved o name)) := by
  refine Portable.lbind (Q := fun r w => w.broker.hasTopic name = true ∧ Answers (fun _ => True) r)
    ((Portable.query _).conseq (fun w present _ related =>
      ⟨(Steady.of_rely others related).topics _ present, w.broker.answers_topicHandle present⟩)
      fun _ _ done => done)
    fun answer => ?_
  refine Portable.ebind (Q := fun r w => w.broker.hasTopic name = true ∧
      Resolves policy topics subscriptions (fun _ _ => True) r w)
    ((Portable.transport _ answer).conseq (fun _ holds => ⟨holds.1, resolves_transport _ holds.2⟩)
      fun _ _ done => done)
    (fun _ => ?_) fun _ _ failed => failed.2
  refine Portable.lbind (Q := TopicResolved o name)
    (Portable.act _ fun w holds => ⟨.inr (.cacheTopic w o name holds.1), .cacheTopic holds.1⟩) fun handle => ?_
  -- the handle stays resolved while the others run
  refine Portable.lbind (Portable.yieldNow (Q := fun _ => TopicResolved o name handle)
    fun _ _ resolved related => resolved.rely others related) fun _ => ?_
  exact Portable.ok (Q := Resolves policy topics subscriptions (TopicResolved o name)) handle

/-- A topic resolved under the policy of the tasks ends at the broker, with the
handle cached under its name unless the cache was sealed, unless the policy
forbids creating it and it is missing, or the broker is down. -/
theorem resolveTopicWith_portable (o : Outlet) (name : String) (member : name ∈ topics) :
    Portable (UngatedJob policy) R Provisioned (resolveTopicWith o name policy).run
      (Resolves policy topics subscriptions (TopicResolved o name)) := by
  unfold resolveTopicWith
  refine Portable.lbind (Q := fun cached w => ∀ h, cached = some h → TopicResolved o name h w)
    ((Portable.view _).conseq (fun _ holds _ found => .of_find? holds found) fun _ _ done => done)
    fun cached => ?_
  -- a handle found in the cache stays resolved while the others run
  refine Portable.lbind (Portable.yieldNow (Q := fun _ w => ∀ h, cached = some h → TopicResolved o name h w)
    fun _ _ found related h same => (found h same).rely others related) fun _ => ?_
  split
  · next h =>
    exact (Portable.ok h).conseq (fun _ found => found h rfl) fun _ _ done => done
  · refine Portable.ebind ((topicExists_portable others name).conseq (fun _ _ => trivial) fun _ _ done => done)
      (fun found => ?_) fun _ _ failed => failed
    dsimp only
    split
    · next missing =>
      split
      · next forbidden =>
        refine (Portable.throw_bind _).conseq (fun _ _ => ⟨member, ?_⟩) fun _ _ done => done
        cases policy <;> simp_all [ProvisioningPolicy.allowsCreate]
      · next allowed =>
        have allowed : policy.allowsCreate = true := by simpa using allowed
        refine Portable.lbind (Q := fun r w => Created (w.broker.hasTopic name = true) r)
          (Portable.quietly _ fun w _ => ⟨.inr (.createTopic w name allowed), fun _ related =>
            (w.broker.created_createTopic name).mono ((Steady.of_rely others related).topics _)⟩)
          fun created => ?_
        split
        · exact Portable.lbind (note_portable _ fun _ present => present) fun _ => cacheTopic_portable others o name
        · exact cacheTopic_portable others o name
        · next e other =>
          refine (Portable.throw_bind _).conseq (fun _ down => ?_) fun _ _ done => done
          cases e with
          | alreadyExists n => exact absurd rfl (other n)
          | _ => exact down
    · next present =>
      refine (cacheTopic_portable others o name).conseq (fun _ holds => holds ?_) fun _ _ done => done
      simpa using present

theorem resolveTopicWith_spec [Guarantee.Ungated policy G] (o : Outlet) (name : String) (member : name ∈ topics) :
    Spec R G Provisioned (resolveTopicWith o name policy).run
      (Resolves policy topics subscriptions (TopicResolved o name)) :=
  (resolveTopicWith_portable others o name member).spec Guarantee.allows_ungatedJobs

omit others in
theorem Unresolved.of_allowed {e : BusError} (allowed : policy.allowsCreate = true)
    (unresolved : Unresolved policy topics subscriptions e) (topics' subscriptions' : List String) :
    Unresolved policy topics' subscriptions' e := by
  cases e with
  | topicNotFound n => cases unresolved.2; cases allowed
  | subscriptionNotFound n => cases unresolved.2; cases allowed
  | transport op e => cases e <;> exact unresolved
  | _ => exact unresolved

/-! Resolving subscriptions. -/

theorem stable_provisioned [Guarantee.Ungated policy G] : Stable R G Provisioned :=
  fun _ _ holds step =>
    step.elim (fun other => (others _ _ other).provisioned holds) fun own =>
      (Guarantee.Ungated.toChange own).provisioned holds

theorem stable_hasTopic [Guarantee.Ungated policy G] (t : String) : Stable R G fun w => w.broker.hasTopic t = true :=
  fun _ _ present step =>
    step.elim (fun other => (others _ _ other).steady.topics t present) fun own =>
      (Guarantee.Ungated.toChange own).steady.topics t present

theorem subscriptionExists_portable (name : String) :
    Portable (Ungated policy) R (fun _ => True) (subscriptionExists name).run
      (Resolves policy topics subscriptions fun found w => found = true → w.broker.hasSubscription name = true) := by
  unfold subscriptionExists
  refine Portable.lbind (Portable.quietly (Q := fun _ _ => True) _ fun w _ =>
    ⟨.inr (.call w .countSubscriptionExists), fun _ _ => trivial⟩) fun _ => ?_
  refine Portable.lbind (Portable.lookupPause (Q := fun _ _ => True) fun _ _ _ _ => trivial) fun _ => ?_
  exact Portable.lbind (Q := fun r w => Resolves policy topics subscriptions
      (fun found w => found = true → w.broker.hasSubscription name = true)
      (r.mapError (.transport "subscription_exists")) w)
    ((Portable.query _).conseq (fun w _ _ related =>
      resolves_transport _ ((w.broker.answers_subscriptionExists name).mono fun _ present found =>
        (Steady.of_rely others related).hasSubscription (present found)))
      fun _ _ done => done)
    fun r => Portable.transport _ r

/-- A subscription is created only on a topic and a dead-letter topic that the
creation itself resolved. -/
theorem createSubscription_portable (bus : Nat) (topic name : String)
    (ackDeadline : Option Duration) (allowed : policy.allowsCreate = true) (resolved : topic ∈ topics)
    (deadResolved : deadLetterTopic topic ∈ topics) :
    Portable (Ungated policy) R Provisioned (createSubscription bus topic name ackDeadline policy).run
      (Resolves policy topics subscriptions fun _ w => w.broker.hasSubscription name = true) := by
  unfold createSubscription
  dsimp only
  refine Portable.ebind ((((resolveTopicWith_portable others (.bus bus) topic resolved).widen
      fun _ _ => Ungated.job).frame (stable_provisioned others)).conseq (fun _ holds => ⟨holds, holds⟩)
      fun _ _ done => done) (fun _ => ?_)
    fun _ _ failed => failed.1
  -- the topic stays while its dead-letter topic is resolved
  refine Portable.ebind ((((resolveTopicWith_portable others (.bus bus) (deadLetterTopic topic) deadResolved).widen
      fun _ _ => Ungated.job).frame (stable_hasTopic others topic)).conseq
      (fun _ holds => ⟨holds.2, holds.1.present⟩) fun _ _ done => done)
    (fun _ => ?_) fun _ _ failed => failed.1
  refine Portable.lbind (Q := fun r w => Created (w.broker.hasSubscription name = true) r)
    (Portable.quietly _ fun w holds =>
      ⟨.inr (.createSubscription w name topic ackDeadline allowed holds.2 holds.1.present), fun _ related =>
        (w.broker.created_createSubscription _ holds.2).mono (Steady.of_rely others related).hasSubscription⟩)
    fun created => ?_
  split
  · exact Portable.lift ((note_portable (P := fun w => w.broker.hasSubscription name = true)
      (Q := fun _ w => w.broker.hasSubscription name = true) _ fun _ present => present).widen
      fun _ _ => Ungated.job)
  · exact (Portable.ok ()).conseq (fun _ present => present) fun _ _ done => done
  · next e other =>
    refine (Portable.throw _).conseq (fun _ down => ?_) fun _ _ done => done
    cases e with
    | alreadyExists n => exact absurd rfl (other n)
    | _ => exact down

omit others in
/-- Caching a handle of a subscription that exists leaves the tables alone. -/
theorem cacheSubscription_allowed (w : World) (bus : Nat)
    {handle kept : SubscriptionHandle} {cache : SubscriptionCache} (present : w.broker.hasSubscription handle.name = true)
    (inserted : (w.bus bus).subscriptions.insert handle = (cache, kept)) :
    Ungated policy w (w.modifyBus bus fun b => { b with subscriptions := cache }) := by
  -- the cache changes as an insertion into this bus's cache does
  have same : (w.modifyBus bus fun b => { b with subscriptions := cache }) =
      w.modifyBus bus fun b => { b with subscriptions := (b.subscriptions.insert handle).1 } :=
    World.modifyBus_congr w bus (by rw [inserted])
  rw [same]
  exact .cacheSubscription w bus handle present

/-- The end of every resolution of a subscription: fetch its handle and cache
it, unless a handle of that name was cached meanwhile; return the handle
cached. -/
theorem cacheSubscription_portable (bus : Nat) (name : String) :
    Portable (Ungated policy) R (fun w => w.broker.hasSubscription name = true)
      (do
        let (owner, ackDeadline) ←
          BusProg.transport "subscription_handle" (← BusProg.lift (Prog.query (·.subscriptionHandle name)))
        let handle ← BusProg.lift (Async.act fun w =>
          let (cache, kept) := SubscriptionCache.insert (w.bus bus).subscriptions ⟨name, owner, ackDeadline⟩
          (w.modifyBus bus ({ · with subscriptions := cache }), kept))
        BusProg.lift Async.yieldNow
        return handle : BusProg SubscriptionHandle).run
      (Resolves policy topics subscriptions (SubscriptionResolved policy bus name)) := by
  refine Portable.lbind (Q := fun r w => w.broker.hasSubscription name = true ∧ Answers (fun _ => True) r)
    ((Portable.query _).conseq (fun w present _ related =>
      ⟨(Steady.of_rely others related).hasSubscription present, w.broker.answers_subscriptionHandle present⟩)
      fun _ _ done => done)
    fun answer => ?_
  refine Portable.ebind (Q := fun r w => w.broker.hasSubscription name = true ∧
      Resolves policy topics subscriptions (fun _ _ => True) r w)
    ((Portable.transport _ answer).conseq (fun _ holds => ⟨holds.1, resolves_transport _ holds.2⟩)
      fun _ _ done => done)
    (fun ⟨owner, ackDeadline⟩ => ?_) fun _ _ failed => failed.2
  refine Portable.lbind (Q := SubscriptionResolved policy bus name) (Portable.act _ fun w holds => ?_) fun handle => ?_
  · have present := holds.1
    rcases inserted : SubscriptionCache.insert (w.bus bus).subscriptions ⟨name, owner, ackDeadline⟩ with
      ⟨cache, kept⟩
    have named : kept.name = name := by
      have keptName := SubscriptionCache.name_insert (w.bus bus).subscriptions ⟨name, owner, ackDeadline⟩
      rwa [inserted] at keptName
    -- the insertion is the moment the cache holds the handle it returns
    have found : SubscriptionCache.find? cache name = some kept := by
      have self := SubscriptionCache.find?_insert_self (w.bus bus).subscriptions ⟨name, owner, ackDeadline⟩
      rwa [inserted] at self
    refine ⟨.inr (cacheSubscription_allowed w bus present inserted), named, present, fun within => ⟨_, ?_, .refl⟩⟩
    rw [World.bus_modifyBus_self w (by rwa [World.length_modifyBus] at within)]
    exact found
  refine Portable.lbind (Portable.yieldNow (Q := fun _ => SubscriptionResolved policy bus name handle)
    fun _ _ resolved related => resolved.rely others related) fun _ => ?_
  exact Portable.ok (Q := Resolves policy topics subscriptions (SubscriptionResolved policy bus name)) handle

/-- A subscription resolved by a bus that provisions under the policy of the
tasks ends at the broker, unless the policy forbids creating it and it is
missing, or the broker is down: a missing topic is never what it reports. -/
theorem resolveSubscription_portable (bus : Nat) (topic name : String)
    (ackDeadline : Option Duration) :
    Portable (Ungated policy) R (fun w => Provisioned w ∧ (w.bus bus).config.provisioning = policy)
      (resolveSubscription bus topic name ackDeadline).run
      (Resolves policy [] [name] (SubscriptionResolved policy bus name)) := by
  unfold resolveSubscription
  -- a handle the cache holds stays resolved while the others run
  refine Portable.lbind (Q := fun b w => b.config.provisioning = policy ∧ Provisioned w ∧
      ∀ h, SubscriptionCache.find? b.subscriptions name = some h → SubscriptionResolved policy bus name h w)
    ((Portable.view _).conseq (fun w holds => ⟨holds.2, holds.1, fun _ found => .of_find? holds.1 found⟩)
      fun _ _ done => done)
    fun b => ?_
  refine Portable.lbind (Portable.yieldNow (Q := fun _ w => b.config.provisioning = policy ∧ Provisioned w ∧
      ∀ h, SubscriptionCache.find? b.subscriptions name = some h → SubscriptionResolved policy bus name h w)
    fun _ _ holds related => ⟨holds.1, rely_keeps (I := Provisioned)
      (fun _ _ held other => (others _ _ other).provisioned held) holds.2.1 related,
      fun h found => (holds.2.2 h found).rely others related⟩)
    fun _ => Portable.assume fun configured => ?_
  rw [configured]
  split
  · next handle found =>
    exact (Portable.ok handle).conseq (fun _ holds => holds.2 handle found) fun _ _ done => done
  · refine Portable.ebind (((subscriptionExists_portable others name).frame (stable_provisioned others)).conseq
        (fun _ holds => ⟨trivial, holds.1⟩) fun _ _ done => done) (fun found => ?_) fun _ _ failed => failed.1
    dsimp only
    split
    · split
      · next forbidden =>
        refine (Portable.throw_bind _).conseq (fun _ _ => ⟨List.mem_singleton_self _, ?_⟩) fun _ _ done => done
        cases policy <;> simp_all [ProvisioningPolicy.allowsCreate]
      · next allowed =>
        have allowed : policy.allowsCreate = true := by simpa using allowed
        -- the creation resolves the topic and its dead-letter topic under a policy that creates them
        have created : Portable (Ungated policy) R Provisioned
            (createSubscription bus topic name ackDeadline policy).run
            (Resolves policy [topic, deadLetterTopic topic] [] fun _ w => w.broker.hasSubscription name = true) :=
          createSubscription_portable others bus topic name ackDeadline allowed (by simp) (by simp)
        refine Portable.ebind (created.conseq (fun _ holds => holds.2) fun _ _ done => done)
          (fun _ => cacheSubscription_portable others bus name) fun _ _ failed => failed.of_allowed allowed [] [name]
    · next present =>
      exact (cacheSubscription_portable others bus name).conseq (fun _ holds => holds.1 (by simpa using present))
        fun _ _ done => done

theorem resolveSubscription_spec [Guarantee.UngatedCaller policy G] (bus : Nat) (topic name : String)
    (ackDeadline : Option Duration) :
    Spec R G (fun w => Provisioned w ∧ (w.bus bus).config.provisioning = policy)
      (resolveSubscription bus topic name ackDeadline).run
      (Resolves policy [] [name] (SubscriptionResolved policy bus name)) :=
  (resolveSubscription_portable others bus topic name ackDeadline).spec Guarantee.allows_ungated

end Resolutions

end Courier
