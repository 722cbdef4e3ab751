import Courier.Proofs.Bus.Draining

namespace Courier

/-! # The caches of a bus stay coherent

A bus caches the handles of the topics its publisher resolved and of the
subscriptions it resolved. Under every interleaving of resolutions, flushes and
the other requests of clients, a handle once cached keeps its place under its
name: a cache of topics only grows, handle after handle, until a flush drains
it, and a drained cache is sealed and stays empty; a cached subscription stays
until it is forgotten, and no other handle ever takes its place. A resolution
of a topic returns the very handle its cache holds under the name, unless the
cache was sealed meanwhile; one of a subscription returns the handle its cache
held under the name at a moment of the run.

Run alone against a broker that answers, a resolution of a cached name changes
nothing at all and returns the cached handle, and one of a fresh name checks
once whether it exists and creates it at most once. -/

namespace TopicCache

/-- A drain takes each cached handle, sorted by name, and leaves the cache empty
and sealed for good: nothing is cached into it later. -/
theorem drain_once (c : TopicCache) :
    c.drain.1.Perm c.handles ∧ c.drain.2 = ⟨[], true⟩ ∧ ∀ fresh, (c.drain.2.insert fresh).1 = ⟨[], true⟩ :=
  ⟨List.mergeSort_perm _ _, rfl, fun fresh => by rw [insert_of_sealed rfl]; rfl⟩

/-- A cache with one handle for each name gives each handle out once when drained. -/
theorem drain_nodup {c : TopicCache} (apart : c.names.Nodup) : c.drain.1.Nodup :=
  (drain_once c).1.nodup_iff.mpr (List.Nodup.of_map _ apart)

/-- How a cache may have changed since an earlier point of a run: it kept every
handle it had, in place, and its seal, and a sealed cache was left alone; or it
has been drained, and is empty and sealed. -/
def Follows (c c' : TopicCache) : Prop :=
  (c.handles <+: c'.handles ∧ c'.sealed = c.sealed ∧ (c.sealed = true → c' = c)) ∨ c' = ⟨[], true⟩

theorem Follows.refl (c : TopicCache) : c.Follows c := .inl ⟨List.prefix_refl _, rfl, fun _ => rfl⟩

theorem Follows.step {c c' c'' : TopicCache} (follows : c.Follows c') (step : Step c' c'') : c.Follows c'' := by
  rcases step with rfl | ⟨fresh, rfl⟩ | rfl
  · exact follows
  · rcases follows with ⟨grown, resealed, untouched⟩ | rfl
    · by_cases sealed : c'.sealed = true
      · rw [insert_of_sealed sealed]
        exact .inl ⟨grown, resealed, untouched⟩
      · -- an open cache grows at its end and stays open
        exact .inl ⟨grown.trans (handles_prefix_insert c' fresh), (sealed_insert c' fresh).trans resealed,
          fun wasSealed => absurd (resealed.trans wasSealed) sealed⟩
    · rw [insert_of_sealed rfl]
      exact .inr rfl
  · exact .inr rfl

/-- A handle cached under a name stays the one cached under it until the cache
is drained. -/
theorem Follows.find? {c c' : TopicCache} (follows : c.Follows c') {name : String} {h : TopicRef}
    (found : c.find? name = some h) : c'.find? name = some h ∨ c' = ⟨[], true⟩ := by
  rcases follows with ⟨⟨rest, grown⟩, -, -⟩ | drained
  · left
    rw [TopicCache.find?, ← grown, List.find?_append]
    rw [TopicCache.find?] at found
    rw [found]
    rfl
  · exact .inr drained

theorem Follows.drained {c' : TopicCache} (follows : Follows ⟨[], true⟩ c') : c' = ⟨[], true⟩ := by
  rcases follows with ⟨-, -, untouched⟩ | drained
  · exact untouched rfl
  · exact drained

end TopicCache

namespace SubscriptionCache

theorem find?_insert (c : SubscriptionCache) (handle : SubscriptionHandle) (n : String) :
    find? (c.insert handle).1 n = (find? c n).or (if handle.name = n then some handle else none) := by
  unfold insert
  split
  · next kept found =>
    cases old : find? c n with
    | some h => rfl
    | none =>
      -- a handle of that name is cached, so `n` is another name
      have other : handle.name ≠ n := fun same => by rw [same, old] at found; cases found
      simp [other]
  · simp [find?, List.find?_append, List.find?_singleton]

/-- Forgetting a name forgets the handle cached under it, and no other. -/
theorem find?_remove (c : SubscriptionCache) (name n : String) :
    find? (c.remove name).1 n = if n = name then none else find? c n := by
  unfold remove find?
  rw [List.find?_filter]
  split
  · next same =>
    subst same
    simp
  · next other =>
    congr 1
    funext h
    by_cases named : h.name = n
    · simp [named, other]
    · simp [named]

/-- No handle cached under a name is replaced by another: it stays, or the name
is forgotten. -/
def Keeps (c c' : SubscriptionCache) : Prop :=
  ∀ n h, find? c n = some h → find? c' n = some h ∨ find? c' n = none

theorem Keeps.refl (c : SubscriptionCache) : Keeps c c := fun _ _ found => .inl found

theorem keeps_insert (c : SubscriptionCache) (handle : SubscriptionHandle) : Keeps c (c.insert handle).1 :=
  fun n h found => .inl (by rw [find?_insert, found]; rfl)

/-- A cache that holds only handles of a cache with no two of one name keeps
each of them or forgets its name. -/
theorem keeps_of_subset {c c' : SubscriptionCache} (apart : (c.map (·.name)).Nodup)
    (sub : ∀ h ∈ c', h ∈ c) : Keeps c c' := by
  intro n h found
  cases found' : find? c' n with
  | none => exact .inr rfl
  | some h' =>
    have named' : h'.name = n := by simpa using List.find?_some found'
    have named : h.name = n := by simpa using List.find?_some found
    have same : h' = h := List.inj_on_of_nodup_map apart (sub h' (List.mem_of_find?_eq_some found'))
      (List.mem_of_find?_eq_some found) (named'.trans named.symm)
    exact .inl (by rw [same])

end SubscriptionCache

/-- What one step does to the caches of every bus: each cache of topics is left
as it is, takes a handle in or is drained, and each cached subscription stays or
is forgotten. -/
structure CachesStep (w w' : World) : Prop where
  topics : ∀ o, TopicCache.Step (w.publishing o).topics (w'.publishing o).topics
  subscriptions : ∀ i, SubscriptionCache.Keeps (w.bus i).subscriptions (w'.bus i).subscriptions

theorem CachesStep.refl (w : World) : CachesStep w w :=
  ⟨fun _ => .inl rfl, fun _ => .refl _⟩

namespace Change

variable {policy : ProvisioningPolicy} {caller : Bool} {w w' : World}

/-- A step of a bus task keeps each subscription a consistent bus has cached,
or forgets its name: it never caches another handle in its place. -/
theorem subscriptionCache (change : Change policy caller w w') (i : Nat) (consistent : (w.bus i).Consistent) :
    SubscriptionCache.Keeps (w.bus i).subscriptions (w'.bus i).subscriptions := by
  cases change with
  | gate w o g => rw [World.subscriptions_modifyPublishing]; exact .refl _
  | cacheTopic w o name _ =>
    rw [World.cacheTopic_fst, World.subscriptions_modifyPublishing]
    exact .refl _
  | closePublisher w o => rw [World.subscriptions_modifyPublishing]; exact .refl _
  | drainTopics w o => rw [World.subscriptions_modifyPublishing]; exact .refl _
  | cacheSubscription w j handle _ =>
    rcases World.bus_modifyBus w j i _ with same | ⟨-, changed⟩
    · rw [same]
      exact .refl _
    · rw [changed]
      exact SubscriptionCache.keeps_insert _ handle
  | table w j f keeps =>
    rcases World.bus_modifyBus w j i f with same | ⟨-, changed⟩
    · rw [same]
      exact .refl _
    · rw [changed]
      exact SubscriptionCache.keeps_of_subset consistent.cached (keeps _).2.2
  | _ => exact .refl _

/-- A step of a bus task on consistent buses changes their caches only as
`CachesStep` allows. -/
theorem cachesStep (change : Change policy caller w w') (consistent : ∀ i, (w.bus i).Consistent) :
    CachesStep w w' :=
  ⟨change.topicCache, fun i => change.subscriptionCache i (consistent i)⟩

end Change

/-- Flushing a publisher's topics leaves the tables alone, whatever the others
do meanwhile. -/
theorem flushAll_safe {R : World → World → Prop} {policy : ProvisioningPolicy} (o : Outlet) :
    Portable (TableFree policy) R (fun _ => True) (flushAll o) fun _ _ => True := by
  unfold flushAll
  refine Portable.bind (Portable.act (Q := fun _ _ => True) _ fun w _ => ⟨.inr (.drainTopics w o), trivial⟩)
    fun handles => ?_
  refine Portable.bind (Portable.yieldNow (Q := fun _ _ => True) fun _ _ _ _ => trivial) fun _ => ?_
  refine (Portable.foldlM (I := fun _ _ _ => True) handles _ fun report handle _ => ?_).conseq
    (fun _ _ => trivial) fun _ _ _ => trivial
  unfold flushOne
  refine Portable.bind (Portable.quietly (Q := fun _ _ => True) _ fun w _ =>
    ⟨.inr (.call w (.flush _)), fun _ _ => trivial⟩) fun answer => ?_
  cases answer with
  | ok u => exact Portable.pure_true _
  | error e => exact Portable.pure_true _

/-- A task on the caches of the buses: a resolution of a topic through the cache
of a publisher, one of a subscription through the cache of a bus, a flush of
every topic a publisher cached, which drains the cache, or any other request of
a client. -/
inductive CacheTask where
  | topic (o : Outlet) (name : String)
  | subscription (bus : Nat) (topic name : String) (ackDeadline : Option Duration)
  | flush (o : Outlet)
  | request (r : Request)

namespace CacheTask

/-- The task of a use of the caches. -/
def start : CacheTask → Fut Job World
  | .topic o name => (resolveTopic o name).run fun _ => .done
  | .subscription bus parent name ackDeadline => (resolveSubscription bus parent name ackDeadline).run fun _ => .done
  | .flush o => flushAll o fun _ => .done
  | .request r => r.start

/-- The task goes through a publisher or a bus that provisions under `policy`. -/
def Under (policy : ProvisioningPolicy) (w : World) : CacheTask → Prop
  | .topic o _ => (w.publishing o).policy = policy
  | .subscription bus _ _ _ => (w.bus bus).config.provisioning = policy
  | .flush _ => True
  | .request r => r.Under policy w

variable {policy : ProvisioningPolicy}

theorem Under.steady {w w' : World} (steady : Steady w w') {t : CacheTask} (under : t.Under policy w) :
    t.Under policy w' := by
  cases t with
  | topic o _ => exact (steady.policy o).trans under
  | subscription bus _ _ _ =>
    show (w'.bus bus).config.provisioning = policy
    rw [steady.config bus]
    exact under
  | flush _ => trivial
  | request r => exact Request.Under.steady steady under

/-- A use of the caches is safe among the tasks of buses that provision under
`policy`, and keeps their buses tidy. -/
theorem safe (t : CacheTask) {m : Machine Job World} (provisioned : Provisioned m.world)
    (under : t.Under policy m.world) :
    (provisioning policy).Safe (TidyChange policy) () m.world m t.start := by
  cases t with
  | topic o name =>
    exact (resolveTopic_spec (R := Change policy true) (fun _ _ change => change) o name).provisioningSafe
      ⟨provisioned, under⟩
  | subscription bus parent name ackDeadline =>
    exact (resolveSubscription_spec (R := Change policy true) (fun _ _ change => change) bus parent name
      ackDeadline).provisioningSafe ⟨provisioned, under⟩
  | flush o => exact ((flushAll_safe o).spec Guarantee.allows_tableFree).provisioningSafe trivial
  | request r => exact r.safe provisioned under

end CacheTask

variable {policy : ProvisioningPolicy}

/-- Uses of the caches on buses that all provision under one policy, from a
world where what is cached exists, every handler publishes under that policy
and every bus is consistent: wherever a run leads, every bus is consistent, and
the next step changes the caches only as `CachesStep` allows. -/
theorem caches_step {m : Machine Job World} {tasks : List CacheTask} (provisioned : Provisioned m.world)
    (handlers : HandlersUnder policy m.world) (consistent : ∀ i, (m.world.bus i).Consistent)
    (under : ∀ t ∈ tasks, t.Under policy m.world) {p : Pool Job World}
    (run : Relation.ReflTransGen (Pool.Step Job.start) ⟨m, tasks.map CacheTask.start, none⟩ p) :
    (∀ i, (p.machine.world.bus i).Consistent) ∧
      ∀ p', Pool.Step Job.start p p' → CachesStep p.machine.world p'.machine.world := by
  obtain ⟨_, good⟩ := tidy_good CacheTask.start (fun w t => t.Under policy w) CacheTask.Under.steady CacheTask.safe
    provisioned handlers under
  have tidy : ∀ i, (p.machine.world.bus i).Consistent := good.keeps tidy_rely jobs_provisioningSafe
    (F := fun w => ∀ i, (w.bus i).Consistent) (fun _ _ step holds i => step.2.consistent i (holds i))
    consistent run
  refine ⟨tidy, fun p' step => ?_⟩
  obtain ⟨_, _, good'⟩ := good.run tidy_rely jobs_provisioningSafe run
  rcases good'.allows step with same | change
  · rw [same]
    exact .refl _
  · exact change.1.cachesStep tidy

/-- From every point of every such run on, each cache of topics follows what it
was at that point. -/
theorem caches_follow {m : Machine Job World} {tasks : List CacheTask} (provisioned : Provisioned m.world)
    (handlers : HandlersUnder policy m.world) (consistent : ∀ i, (m.world.bus i).Consistent)
    (under : ∀ t ∈ tasks, t.Under policy m.world) {p : Pool Job World}
    (run : Relation.ReflTransGen (Pool.Step Job.start) ⟨m, tasks.map CacheTask.start, none⟩ p)
    {p' : Pool Job World} (later : Relation.ReflTransGen (Pool.Step Job.start) p p') (o : Outlet) :
    (p.machine.world.publishing o).topics.Follows (p'.machine.world.publishing o).topics := by
  -- each step from a point of the run leaves, takes in or drains the cache
  induction later with
  | refl => exact .refl _
  | tail earlier step induction =>
    exact induction.step
      (((caches_step provisioned handlers consistent under (run.trans earlier)).2 _ step).topics o)

/-! The broker as a resolution run alone finds it. -/

namespace Broker

theorem unavailable_topicExists (b : Broker) (name : String) :
    (b.topicExists name).1.faults.unavailable = b.faults.unavailable := by
  unfold topicExists
  split
  · rfl
  · split
    · simp
    · rfl

theorem counters_createTopic (b : Broker) (name : String) :
    (b.createTopic name).1.counters = { b.counters with createTopic := b.counters.createTopic + 1 } := by
  unfold createTopic
  dsimp only
  split
  · rfl
  · split
    · rfl
    · exact counters_addTopic _ name

theorem counters_createSubscription (b : Broker) (name topic : String) (settings : SubscriptionSettings) :
    (b.createSubscription name topic settings).1.counters =
      { b.counters with createSubscription := b.counters.createSubscription + 1 } := by
  unfold createSubscription
  dsimp only
  split
  · rfl
  · split
    · rfl
    · split
      · rfl
      · simp [modifyTopic]

variable {b : Broker} (available : b.faults.unavailable = false)
include available

theorem topicExists_ok (name : String) : ∃ found, (b.topicExists name).2 = .ok found := by
  unfold topicExists
  split
  · next down => simp [checkAvailable, available] at down
  · split <;> exact ⟨_, rfl⟩

theorem createTopic_up (name reason : String) : (b.createTopic name).2 ≠ .error (.unavailable reason) := by
  intro down
  unfold createTopic at down
  dsimp only at down
  split at down
  · next up => simp [checkAvailable, available] at up
  · split at down <;> simp at down

/-- A broker that is up makes a topic, or finds it made already, and has it
either way. -/
theorem createTopic_ok (name : String) :
    ((b.createTopic name).2 = .ok () ∨ ∃ n, (b.createTopic name).2 = .error (.alreadyExists n)) ∧
      (b.createTopic name).1.hasTopic name = true := by
  have made := b.created_createTopic name
  cases answer : (b.createTopic name).2 with
  | ok u =>
    rw [answer] at made
    exact ⟨.inl rfl, made⟩
  | error e =>
    rw [answer] at made
    cases e with
    | alreadyExists n => exact ⟨.inr ⟨n, rfl⟩, made⟩
    | unavailable reason => exact absurd answer (createTopic_up available name reason)
    | _ => cases made

theorem topicHandle_ok {name : String} (present : b.hasTopic name = true) : b.topicHandle name = .ok () := by
  simp [topicHandle, checkAvailable, available, present]

theorem subscriptionExists_ok (name : String) : b.subscriptionExists name = .ok (b.hasSubscription name) := by
  simp [subscriptionExists, checkAvailable, available]

theorem createSubscription_up (name topic : String) (settings : SubscriptionSettings) (reason : String) :
    (b.createSubscription name topic settings).2 ≠ .error (.unavailable reason) := by
  intro down
  unfold createSubscription at down
  dsimp only at down
  split at down
  · next up => simp [checkAvailable, available] at up
  · split at down
    · simp at down
    · split at down <;> simp at down

/-- A broker that is up makes a subscription of a topic it has, or finds it
made already, and has it either way. -/
theorem createSubscription_ok (name : String) {topic : String} (settings : SubscriptionSettings)
    (present : b.hasTopic topic = true) :
    ((b.createSubscription name topic settings).2 = .ok () ∨
      ∃ n, (b.createSubscription name topic settings).2 = .error (.alreadyExists n)) ∧
      (b.createSubscription name topic settings).1.hasSubscription name = true := by
  have made : Created ((b.createSubscription name topic settings).1.hasSubscription name = true)
      (b.createSubscription name topic settings).2 := b.created_createSubscription settings present
  cases answer : (b.createSubscription name topic settings).2 with
  | ok u =>
    rw [answer] at made
    exact ⟨.inl rfl, made⟩
  | error e =>
    rw [answer] at made
    cases e with
    | alreadyExists n => exact ⟨.inr ⟨n, rfl⟩, made⟩
    | unavailable reason => exact absurd answer (createSubscription_up available name topic settings reason)
    | _ => cases made

theorem subscriptionHandle_ok {name : String} (present : b.hasSubscription name = true) :
    ∃ answer, b.subscriptionHandle name = .ok answer := by
  obtain ⟨s, found⟩ := (b.hasSubscription_iff name).mp present
  exact ⟨_, by simp [subscriptionHandle, checkAvailable, available, found]; rfl⟩

end Broker

/-- The counts of a broker after some more checks and creations of topics and
of subscriptions, and no other call. -/
def Counters.after (c : Counters) (topicChecks topicCreations subscriptionChecks subscriptionCreations : Nat) :
    Counters :=
  { c with topicExists := c.topicExists + topicChecks, createTopic := c.createTopic + topicCreations,
           subscriptionExists := c.subscriptionExists + subscriptionChecks,
           createSubscription := c.createSubscription + subscriptionCreations }

theorem Counters.after_after (c : Counters) (a b d e a' b' d' e' : Nat) :
    (c.after a b d e).after a' b' d' e' = c.after (a + a') (b + b') (d + d') (e + e') := by
  simp [after, Nat.add_assoc]

section Alone

variable {G : World → World → Prop} {policy : ProvisioningPolicy}

/-- No task moves but the one specified: across a wait the world stays as it
is. -/
def Alone (_ _ : World) : Prop := False

theorem alone_rely {w w' : World} (related : Relation.ReflTransGen Alone w w') : w' = w := by
  induction related with
  | refl => rfl
  | tail _ step _ => cases step

theorem alone_keeps {I : World → Prop} : ∀ w w', I w → Alone w w' → I w' := fun _ _ _ step => by cases step

theorem alone_after {I : World → Prop} {w : World} (holds : I w) : ∀ w', Relation.ReflTransGen Alone w w' → I w' :=
  fun _ related => by rw [alone_rely related]; exact holds

theorem alone_changes : ∀ w w', Alone w w' → Change policy true w w' := fun _ _ step => by cases step

/-- The broker answers, and what the buses cached exists. -/
structure Answering (w : World) : Prop where
  available : w.broker.faults.unavailable = false
  provisioned : Provisioned w

theorem Answering.step [Guarantee policy G] {w w' : World} (holds : Answering w) (allowed : G w w')
    (available : w'.broker.faults.unavailable = w.broker.faults.unavailable) : Answering w' :=
  ⟨available.trans holds.available, (Guarantee.toChange allowed).provisioned holds.provisioned⟩

theorem Answering.metrics {w : World} (holds : Answering w) (f : Metrics → Metrics) :
    Answering { w with metrics := f w.metrics } :=
  ⟨holds.available, holds.provisioned.of_bookkeeping rfl rfl rfl⟩

theorem topicExists_alone [Guarantee policy G] (name : String) (c : Counters) :
    Spec Alone G (fun w => Answering w ∧ w.broker.counters = c) (topicExists name).run fun r w =>
      ∃ found, r = .ok found ∧ Answering w ∧ w.broker.counters = c.after 1 0 0 0 ∧
        (found = true → w.broker.hasTopic name = true) := by
  unfold topicExists
  refine Spec.lbind (Q := fun _ w => Answering w ∧ w.broker.counters = c.after 1 0 0 0)
    (Spec.quietly _ fun w holds => ?_) fun _ => ?_
  · have step : G w { w with broker := w.broker.countTopicExists } := Guarantee.ofJob (.call w .countTopicExists rfl)
    refine ⟨.inr step, alone_after ⟨holds.1.step step rfl, ?_⟩⟩
    show w.broker.countTopicExists.counters = _
    rw [Broker.countTopicExists, holds.2]
    rfl
  refine Spec.lbind (Q := fun _ w => Answering w ∧ w.broker.counters = c.after 1 0 0 0)
    (Spec.lookupPause fun w w' holds related => by rw [alone_rely related]; exact holds) fun _ => ?_
  refine Spec.lbind (Q := fun r w => ∃ found, r = .ok found ∧ Answering w ∧ w.broker.counters = c.after 1 0 0 0 ∧
      (found = true → w.broker.hasTopic name = true)) (Spec.quietly _ fun w holds => ?_) fun r => ?_
  · have step : G w { w with broker := (w.broker.topicExists name).1 } :=
      Guarantee.ofJob (.call w (.topicExists name) rfl)
    obtain ⟨found, answered⟩ := Broker.topicExists_ok holds.1.available name
    have present := w.broker.answers_topicExists name
    rw [answered] at present
    exact ⟨.inr step, alone_after ⟨found, answered, holds.1.step step (w.broker.unavailable_topicExists name),
      (w.broker.counters_topicExists name).trans holds.2, present⟩⟩
  · refine (Spec.transport _ r).conseq (fun w holds => ?_) fun _ _ done => done
    obtain ⟨found, rfl, rest⟩ := holds
    exact ⟨found, rfl, rest⟩

/-- The end of a resolution of a topic, alone: it fetches the handle of a topic
the broker has, caches it, and asks nothing more of the broker. -/
theorem cacheTopic_alone [Guarantee policy G] (o : Outlet) (name : String) (c : Counters) :
    Spec Alone G (fun w => Answering w ∧ w.broker.hasTopic name = true ∧ w.broker.counters = c)
      (do
        BusProg.transport "topic_handle" (← BusProg.lift (Prog.query (·.topicHandle name)))
        let handle ← BusProg.lift (Async.act (·.cacheTopic o name))
        BusProg.lift Async.yieldNow
        return handle : BusProg TopicRef).run
      fun r w => ∃ h, r = .ok h ∧ TopicResolved o name h w ∧ Answering w ∧ w.broker.counters = c := by
  refine Spec.lbind (Q := fun handle w => handle = .ok () ∧ Answering w ∧ w.broker.hasTopic name = true ∧
      w.broker.counters = c)
    ((Spec.query _).conseq (fun w holds => alone_after ⟨Broker.topicHandle_ok holds.1.available holds.2.1, holds⟩)
      fun _ _ done => done) fun handle => ?_
  refine Spec.ebind (Q := fun r w => r = .ok () ∧ Answering w ∧ w.broker.hasTopic name = true ∧
      w.broker.counters = c)
    ((Spec.transport _ handle).conseq (fun w holds => ?_) fun _ _ done => done) (fun _ => ?_)
    fun _ _ failed => by cases failed.1
  · obtain ⟨rfl, rest⟩ := holds
    exact ⟨rfl, rest⟩
  refine Spec.lbind (Q := fun h w => TopicResolved o name h w ∧ Answering w ∧ w.broker.counters = c)
    (Spec.act _ fun w holds => ?_) fun h => ?_
  · have step : G w (w.cacheTopic o name).1 := Guarantee.ofJob (.cacheTopic w o name holds.2.2.1)
    exact ⟨.inr step, .cacheTopic holds.2.2.1, holds.2.1.step step (by simp), by simpa using holds.2.2.2⟩
  refine Spec.lbind (Spec.yieldNow_keeps alone_keeps) fun _ => ?_
  exact (Spec.ok h).conseq (fun _ holds => ⟨h, rfl, holds⟩) fun _ _ done => done

/-- A resolution of a topic alone costs at most one check, and creates only a
topic it checked. -/
theorem topic_costs {w₀ w : World} {cached : Option TopicRef} (hit : ∀ h, cached = some h → w = w₀)
    (miss : cached = none → ∃ created ≤ 1, w.broker.counters = w₀.broker.counters.after 1 created 0 0) :
    ∃ checks ≤ 1, ∃ creations ≤ checks, w.broker.counters = w₀.broker.counters.after checks creations 0 0 := by
  cases cached with
  | some h => exact ⟨0, Nat.zero_le 1, 0, le_rfl, by rw [hit h rfl]; rfl⟩
  | none =>
    obtain ⟨created, bound, counted⟩ := miss rfl
    exact ⟨1, le_rfl, created, bound, counted⟩

/-- How a resolution of a topic through the cache of outlet `o`, run alone from
`w₀`, ends: the topic is resolved, at a broker that still answers; a topic the
cache held is resolved to the cached handle and leaves the world as it was, and
a fresh one costs one check of the broker and at most one creation, and no
other call. -/
structure TopicResolvedAlone (o : Outlet) (name : String) (w₀ : World) (r : Except BusError TopicRef) (w : World) :
    Prop where
  resolved : ∃ h, r = .ok h ∧ TopicResolved o name h w
  answering : Answering w
  hit : ∀ h, (w₀.publishing o).topics.find? name = some h → r = .ok h ∧ w = w₀
  miss : (w₀.publishing o).topics.find? name = none →
    ∃ created ≤ 1, w.broker.counters = w₀.broker.counters.after 1 created 0 0

/-- A resolution of a topic run alone, against a broker that answers, under a
policy that creates, ends as `TopicResolvedAlone` says. -/
theorem resolveTopicWith_alone [Guarantee policy G] (o : Outlet) (name : String)
    (allowed : policy.allowsCreate = true) (w₀ : World) (answering : Answering w₀) :
    Spec Alone G (· = w₀) (resolveTopicWith o name policy).run (TopicResolvedAlone o name w₀) := by
  unfold resolveTopicWith
  refine Spec.lbind (Q := fun cached w => cached = (w₀.publishing o).topics.find? name ∧ w = w₀)
    ((Spec.view _).conseq (fun w same => ⟨by rw [same], same⟩) fun _ _ done => done)
    fun cached => ?_
  refine Spec.lbind (Spec.yieldNow_keeps alone_keeps) fun _ => Spec.assume fun current => ?_
  subst current
  split
  · next h found =>
    refine (Spec.ok h).conseq (fun w same => ?_) fun _ _ done => done
    subst same
    exact ⟨⟨h, rfl, .of_find? answering.provisioned found⟩, answering,
      fun h' found' => ⟨(by rw [found] at found'; cases found'; rfl), rfl⟩,
      fun missing => by rw [found] at missing; cases missing⟩
  · next fresh =>
    have fresh : (w₀.publishing o).topics.find? name = none := by
      cases found : (w₀.publishing o).topics.find? name with
      | none => rfl
      | some h => exact absurd found (fresh h)
    -- every way on ends at the cache with one check made, and at most one creation
    have finish : ∀ created ≤ 1, ∀ (r : Except BusError TopicRef) w,
        (∃ h, r = .ok h ∧ TopicResolved o name h w ∧ Answering w ∧
          w.broker.counters = w₀.broker.counters.after 1 created 0 0) → TopicResolvedAlone o name w₀ r w :=
      fun created bound _ _ done => by
        obtain ⟨h, answered, resolved, answering, counted⟩ := done
        exact ⟨⟨h, answered, resolved⟩, answering, fun _ hit => (by rw [fresh] at hit; cases hit),
          fun _ => ⟨created, bound, counted⟩⟩
    refine Spec.ebind ((topicExists_alone name w₀.broker.counters).conseq
        (fun w same => by subst same; exact ⟨answering, rfl⟩) fun _ _ done => done)
      (fun found => Spec.of_pre fun w₁ checked => ?_) fun _ _ failed => by obtain ⟨_, wrong, _⟩ := failed; cases wrong
    obtain ⟨found', same, answering₁, counted₁, present₁⟩ := checked
    cases same
    dsimp only
    split
    · split
      · next forbidden => simp [allowed] at forbidden
      · refine Spec.lbind (Q := fun r w => (r = .ok () ∨ ∃ n, r = .error (.alreadyExists n)) ∧ Answering w ∧
            w.broker.hasTopic name = true ∧ w.broker.counters = w₀.broker.counters.after 1 1 0 0)
          (Spec.quietly _ fun w same => ?_) fun created => ?_
        · subst same
          have step : G w { w with broker := (w.broker.createTopic name).1 } :=
            Guarantee.ofJob (.createTopic w name allowed)
          obtain ⟨answered, present⟩ := Broker.createTopic_ok answering₁.available name
          refine ⟨.inr step, alone_after ⟨answered, answering₁.step step (by simp), present, ?_⟩⟩
          show (w.broker.createTopic name).1.counters = _
          rw [Broker.counters_createTopic, counted₁]
          rfl
        split
        · exact Spec.lbind (note_spec (Q := fun _ w => Answering w ∧ w.broker.hasTopic name = true ∧
              w.broker.counters = w₀.broker.counters.after 1 1 0 0) _
              fun _ holds => ⟨holds.2.1.metrics (·.noteProvisioned "topic"), holds.2.2⟩)
            fun _ => (cacheTopic_alone o name _).conseq (fun _ holds => holds) (finish 1 le_rfl)
        · exact (cacheTopic_alone o name _).conseq (fun _ holds => holds.2) (finish 1 le_rfl)
        · next e other =>
          refine (Spec.throw_bind _).conseq (fun w holds => ?_) fun _ _ done => done
          exfalso
          rcases holds.1 with wrong | ⟨n, same⟩
          · cases wrong
          · cases same
            exact other n rfl
    · next present =>
      exact (cacheTopic_alone o name _).conseq (fun w same => by
          subst same; exact ⟨answering₁, present₁ (by simpa using present), counted₁⟩)
        (finish 0 (Nat.zero_le 1))

theorem subscriptionExists_alone [Guarantee.Caller policy G] (name : String) (c : Counters) :
    Spec Alone G (fun w => Answering w ∧ w.broker.counters = c) (subscriptionExists name).run fun r w =>
      r = .ok (w.broker.hasSubscription name) ∧ Answering w ∧ w.broker.counters = c.after 0 0 1 0 := by
  unfold subscriptionExists
  refine Spec.lbind (Q := fun _ w => Answering w ∧ w.broker.counters = c.after 0 0 1 0)
    (Spec.quietly _ fun w holds => ?_) fun _ => ?_
  · have step : G w { w with broker := w.broker.countSubscriptionExists } :=
      Guarantee.Caller.call w .countSubscriptionExists
    refine ⟨.inr step, alone_after ⟨holds.1.step step rfl, ?_⟩⟩
    show w.broker.countSubscriptionExists.counters = _
    rw [Broker.countSubscriptionExists, holds.2]
    rfl
  refine Spec.lbind (Q := fun _ w => Answering w ∧ w.broker.counters = c.after 0 0 1 0)
    (Spec.lookupPause fun w w' holds related => by rw [alone_rely related]; exact holds) fun _ => ?_
  refine Spec.lbind (Q := fun r w => r = .ok (w.broker.hasSubscription name) ∧ Answering w ∧
      w.broker.counters = c.after 0 0 1 0)
    ((Spec.query _).conseq (fun w holds => alone_after ⟨Broker.subscriptionExists_ok holds.1.available name, holds⟩)
      fun _ _ done => done) fun r => ?_
  refine (Spec.transport _ r).conseq (fun w holds => ?_) fun _ _ done => done
  obtain ⟨rfl, rest⟩ := holds
  exact ⟨rfl, rest⟩

/-- A creation of a subscription alone, on a broker that answers, under a
policy that creates: it resolves the topic and its dead-letter topic, each at
the cost of at most one check and one creation, and then creates the
subscription once. -/
theorem createSubscription_alone [Guarantee.Caller policy G] (bus : Nat) (topic name : String)
    (ackDeadline : Option Duration) (allowed : policy.allowsCreate = true) (w₀ : World) (answering : Answering w₀) :
    Spec Alone G (· = w₀) (createSubscription bus topic name ackDeadline policy).run fun r w =>
      r = .ok () ∧ Answering w ∧ w.broker.hasSubscription name = true ∧
        ∃ checks ≤ 2, ∃ creations ≤ checks, w.broker.counters = w₀.broker.counters.after checks creations 0 1 := by
  unfold createSubscription
  dsimp only
  refine Spec.ebind (resolveTopicWith_alone (.bus bus) topic allowed w₀ answering)
    (fun _ => Spec.of_pre fun w₁ first => ?_) fun _ _ failed => by obtain ⟨_, wrong, _⟩ := failed.resolved; cases wrong
  obtain ⟨⟨_, -, resolved₁⟩, answering₁, hit₁, miss₁⟩ := first
  obtain ⟨checks₁, bound₁, creations₁, made₁, counted₁⟩ := topic_costs (fun h found => (hit₁ h found).2) miss₁
  -- the topic stays while its dead-letter topic is resolved
  refine Spec.ebind (((resolveTopicWith_alone (.bus bus) (deadLetterTopic topic) allowed w₁ answering₁).frame
      (stable_hasTopic alone_changes topic)).conseq (fun w same => ⟨same, same ▸ resolved₁.present⟩)
      fun _ _ done => done)
    (fun _ => Spec.of_pre fun w₂ second => ?_) fun _ _ failed => by
      obtain ⟨_, wrong, _⟩ := failed.1.resolved; cases wrong
  obtain ⟨⟨⟨_, -, resolved₂⟩, answering₂, hit₂, miss₂⟩, present₂⟩ := second
  obtain ⟨checks₂, bound₂, creations₂, made₂, counted₂⟩ := topic_costs (fun h found => (hit₂ h found).2) miss₂
  have within : checks₁ + checks₂ ≤ 2 ∧ creations₁ + creations₂ ≤ checks₁ + checks₂ := by omega
  refine Spec.lbind (Q := fun r w => (r = .ok () ∨ ∃ n, r = .error (.alreadyExists n)) ∧ Answering w ∧
      w.broker.hasSubscription name = true ∧
      w.broker.counters = w₀.broker.counters.after (checks₁ + checks₂) (creations₁ + creations₂) 0 1)
    (Spec.quietly _ fun w same => ?_) fun created => ?_
  · subst same
    have step : G w { w with broker := (w.broker.createSubscription name topic (.forTopic topic ackDeadline)).1 } :=
      Guarantee.Caller.createSubscription w name topic ackDeadline allowed present₂ resolved₂.present
    obtain ⟨answered, made⟩ := Broker.createSubscription_ok answering₂.available name _ present₂
    refine ⟨.inr step, alone_after ⟨answered, answering₂.step step (by simp), made, ?_⟩⟩
    show (w.broker.createSubscription name topic _).1.counters = _
    rw [Broker.counters_createSubscription, counted₂, counted₁, Counters.after_after]
    rfl
  split
  · exact Spec.lift (note_spec _ fun _ holds =>
      ⟨rfl, holds.2.1.metrics (·.noteProvisioned "subscription"), holds.2.2.1, _, within.1, _, within.2,
        holds.2.2.2⟩)
  · exact (Spec.ok ()).conseq (fun _ holds => ⟨rfl, holds.2.1, holds.2.2.1, _, within.1, _, within.2, holds.2.2.2⟩)
      fun _ _ done => done
  · next e other =>
    refine (Spec.throw _).conseq (fun w holds => ?_) fun _ _ done => done
    exfalso
    rcases holds.1 with wrong | ⟨n, same⟩
    · cases wrong
    · cases same
      exact other n rfl

/-- The end of a resolution of a subscription, alone: it fetches the handle of a
subscription the broker has, caches it unless one of that name is cached,
returns the handle then cached, and asks nothing more of the broker. -/
theorem cacheSubscription_alone [Guarantee.Caller policy G] (bus : Nat) (name : String) (c : Counters) :
    Spec Alone G (fun w => Answering w ∧ w.broker.hasSubscription name = true ∧ w.broker.counters = c)
      (do
        let (owner, ackDeadline) ←
          BusProg.transport "subscription_handle" (← BusProg.lift (Prog.query (·.subscriptionHandle name)))
        let handle ← BusProg.lift (Async.act fun w =>
          let (cache, kept) := SubscriptionCache.insert (w.bus bus).subscriptions ⟨name, owner, ackDeadline⟩
          (w.modifyBus bus ({ · with subscriptions := cache }), kept))
        BusProg.lift Async.yieldNow
        return handle : BusProg SubscriptionHandle).run
      fun r w => ∃ handle, r = .ok handle ∧ handle.name = name ∧
        (bus < w.buses.length → SubscriptionCache.find? (w.bus bus).subscriptions name = some handle) ∧
        w.broker.counters = c := by
  refine Spec.lbind (Q := fun answer w => (∃ a, answer = .ok a) ∧ Answering w ∧
      w.broker.hasSubscription name = true ∧ w.broker.counters = c)
    ((Spec.query _).conseq
      (fun w holds => alone_after ⟨Broker.subscriptionHandle_ok holds.1.available holds.2.1, holds⟩)
      fun _ _ done => done) fun answer => ?_
  refine Spec.ebind (Q := fun r w => (∃ a, r = .ok a) ∧ w.broker.hasSubscription name = true ∧
      w.broker.counters = c)
    ((Spec.transport _ answer).conseq (fun w holds => ?_) fun _ _ done => done)
    (fun ⟨owner, ackDeadline⟩ => ?_) fun _ _ failed => by obtain ⟨_, wrong⟩ := failed.1; cases wrong
  · obtain ⟨⟨_, rfl⟩, _, rest⟩ := holds
    exact ⟨⟨_, rfl⟩, rest⟩
  refine Spec.lbind (Q := fun handle w => handle.name = name ∧
      (bus < w.buses.length → SubscriptionCache.find? (w.bus bus).subscriptions name = some handle) ∧
      w.broker.counters = c) (Spec.act _ fun w holds => ?_) fun handle => ?_
  · rcases inserted : SubscriptionCache.insert (w.bus bus).subscriptions ⟨name, owner, ackDeadline⟩ with
      ⟨cache, kept⟩
    have named : kept.name = name := by
      have keptName := SubscriptionCache.name_insert (w.bus bus).subscriptions ⟨name, owner, ackDeadline⟩
      rwa [inserted] at keptName
    have found : SubscriptionCache.find? cache name = some kept := by
      have self := SubscriptionCache.find?_insert_self (w.bus bus).subscriptions ⟨name, owner, ackDeadline⟩
      rwa [inserted] at self
    refine ⟨.inr (cacheSubscription_allowed w bus holds.2.1 inserted).tableFree.guarantee, named,
      fun within => ?_, holds.2.2⟩
    rw [World.bus_modifyBus_self w (by rwa [World.length_modifyBus] at within)]
    exact found
  refine Spec.lbind (Spec.yieldNow_keeps alone_keeps) fun _ => ?_
  exact (Spec.ok handle).conseq (fun _ holds => ⟨handle, rfl, holds⟩) fun _ _ done => done

/-- How a resolution of a subscription through the cache of bus `bus`, run alone
from `w₀`, ends: the subscription is resolved to the handle the cache then
holds under its name; a subscription the cache held is resolved to that handle
and leaves the world as it was, and a fresh one costs one check of the broker
and at most one creation of the subscription, besides the resolutions of its
topic and its dead-letter topic, each at the cost of at most one check and one
creation, and no other call. -/
structure SubscriptionResolvedAlone (bus : Nat) (name : String) (w₀ : World)
    (r : Except BusError SubscriptionHandle) (w : World) : Prop where
  resolved : ∃ handle, r = .ok handle ∧ handle.name = name ∧
    (bus < w.buses.length → SubscriptionCache.find? (w.bus bus).subscriptions name = some handle)
  hit : ∀ h, SubscriptionCache.find? (w₀.bus bus).subscriptions name = some h → r = .ok h ∧ w = w₀
  miss : SubscriptionCache.find? (w₀.bus bus).subscriptions name = none →
    ∃ checks ≤ 2, ∃ creations ≤ checks, ∃ created ≤ 1,
      w.broker.counters = w₀.broker.counters.after checks creations 1 created

/-- A resolution of a subscription run alone, against a broker that answers, on
a bus whose policy creates, ends as `SubscriptionResolvedAlone` says. -/
theorem resolveSubscription_alone [Guarantee.Caller policy G] (bus : Nat) (topic name : String)
    (ackDeadline : Option Duration) (w₀ : World) (answering : Answering w₀)
    (configured : (w₀.bus bus).config.provisioning = policy) (allowed : policy.allowsCreate = true) :
    Spec Alone G (· = w₀) (resolveSubscription bus topic name ackDeadline).run
      (SubscriptionResolvedAlone bus name w₀) := by
  unfold resolveSubscription
  refine Spec.lbind (Q := fun b w => b = w₀.bus bus ∧ w = w₀)
    ((Spec.view _).conseq (fun w same => ⟨by rw [same], same⟩) fun _ _ done => done)
    fun b => ?_
  refine Spec.lbind (Spec.yieldNow_keeps alone_keeps) fun _ => Spec.assume fun current => ?_
  subst current
  split
  · next handle found =>
    refine (Spec.ok handle).conseq (fun w same => ?_) fun _ _ done => done
    subst same
    exact ⟨⟨handle, rfl, by simpa using List.find?_some found, fun _ => found⟩,
      fun h found' => ⟨(by rw [found] at found'; cases found'; rfl), rfl⟩,
      fun missing => by rw [found] at missing; cases missing⟩
  · next missing =>
    have fresh : SubscriptionCache.find? (w₀.bus bus).subscriptions name = none := by
      cases found : SubscriptionCache.find? (w₀.bus bus).subscriptions name with
      | none => rfl
      | some handle => exact absurd found (missing handle)
    refine Spec.ebind ((subscriptionExists_alone name w₀.broker.counters).conseq
        (fun w same => by subst same; exact ⟨answering, rfl⟩) fun _ _ done => done)
      (fun found => Spec.of_pre fun w₁ checked => ?_) fun _ _ failed => by cases failed.1
    obtain ⟨same, answering₁, counted₁⟩ := checked
    cases same
    rw [configured]
    dsimp only
    split
    · split
      · next forbidden => simp [allowed] at forbidden
      · refine Spec.ebind (createSubscription_alone bus topic name ackDeadline allowed w₁ answering₁)
          (fun _ => Spec.of_pre fun w₂ made => ?_) fun _ _ failed => by cases failed.1
        obtain ⟨-, answering₂, present₂, checks, bound, creations, made₂, counted₂⟩ := made
        refine (cacheSubscription_alone bus name w₂.broker.counters).conseq
          (fun w same => by subst same; exact ⟨answering₂, present₂, rfl⟩)
          fun r w done => ?_
        obtain ⟨handle, answered, named, found, counted⟩ := done
        refine ⟨⟨handle, answered, named, found⟩, fun _ cached => (by rw [fresh] at cached; cases cached),
          fun _ => ⟨checks, bound, creations, made₂, 1, le_rfl, ?_⟩⟩
        rw [counted, counted₂, counted₁, Counters.after_after]
        simp
    · next present =>
      refine (cacheSubscription_alone bus name w₁.broker.counters).conseq
        (fun w same => by subst same; exact ⟨answering₁, by simpa using present, rfl⟩)
        fun r w done => ?_
      obtain ⟨handle, answered, named, found, counted⟩ := done
      exact ⟨⟨handle, answered, named, found⟩, fun _ cached => (by rw [fresh] at cached; cases cached),
        fun _ => ⟨0, Nat.zero_le 2, 0, le_rfl, 0, Nat.zero_le 1, by rw [counted, counted₁]⟩⟩

end Alone

/-- The caches of the buses stay coherent. Take uses of the caches on buses that
all provision under one policy, started where what is cached exists, every
handler publishes under that policy and every bus is consistent. From every
point of every run on, each cache of topics has kept every handle it had, in
place, with its seal, a sealed cache having been left alone, or it has been
drained and is empty and sealed; every step leaves a cache of topics as it is,
takes a handle into it or drains it, and keeps each cached subscription or
forgets its name, never caching another handle in its place. Whatever the
others do meanwhile, a resolution of a topic returns the handle its cache holds
under the name, unless the cache was sealed, so that two resolutions of a name
that return while the cache is open return the same handle; one of a
subscription returns the handle its cache held under the name at a moment of
the run. A drain takes each cached handle once and leaves a cache that takes
nothing in; forgetting a subscription forgets that name alone. Run alone
against a broker that answers, under a policy that creates, a resolution ends
as `TopicResolvedAlone` or `SubscriptionResolvedAlone` says: a cached name
returns the cached handle and changes nothing, and a fresh one costs one check
and at most one creation. -/
theorem caches_coherent {m : Machine Job World} {tasks : List CacheTask} (provisioned : Provisioned m.world)
    (handlers : HandlersUnder policy m.world) (consistent : ∀ i, (m.world.bus i).Consistent)
    (under : ∀ t ∈ tasks, t.Under policy m.world) {p : Pool Job World}
    (run : Relation.ReflTransGen (Pool.Step Job.start) ⟨m, tasks.map CacheTask.start, none⟩ p) :
    (∀ p', Relation.ReflTransGen (Pool.Step Job.start) p p' →
      ∀ o, (p.machine.world.publishing o).topics.Follows (p'.machine.world.publishing o).topics) ∧
    (∀ p', Pool.Step Job.start p p' → CachesStep p.machine.world p'.machine.world) ∧
    (∀ o name, Spec (Change policy true) (Change policy true) Provisioned (resolveTopicWith o name policy).run
      (Resolves policy [name] [] (TopicResolved o name))) ∧
    (∀ o name (h h' : TopicRef) w, TopicResolved o name h w → TopicResolved o name h' w → o.Within w →
      (w.publishing o).topics.sealed = false → h = h') ∧
    (∀ bus topic name ackDeadline, Spec (Change policy true) (Change policy true)
      (fun w => Provisioned w ∧ (w.bus bus).config.provisioning = policy)
      (resolveSubscription bus topic name ackDeadline).run
      (Resolves policy [] [name] (SubscriptionResolved policy bus name))) ∧
    (∀ c : TopicCache, c.names.Nodup → c.drain.1.Nodup ∧ c.drain.1.Perm c.handles ∧ c.drain.2 = ⟨[], true⟩ ∧
      ∀ fresh, (c.drain.2.insert fresh).1 = ⟨[], true⟩) ∧
    (∀ (c : SubscriptionCache) name n,
      SubscriptionCache.find? (c.remove name).1 n = if n = name then none else SubscriptionCache.find? c n) ∧
    (policy.allowsCreate = true → ∀ w, Answering w →
      (∀ o name, Spec Alone (Change policy true) (· = w) (resolveTopicWith o name policy).run
        (TopicResolvedAlone o name w)) ∧
      ∀ bus topic name ackDeadline, (w.bus bus).config.provisioning = policy →
        Spec Alone (Change policy true) (· = w) (resolveSubscription bus topic name ackDeadline).run
          (SubscriptionResolvedAlone bus name w)) := by
  refine ⟨fun _ later => caches_follow provisioned handlers consistent under run later,
    (caches_step provisioned handlers consistent under run).2,
    fun o name => resolveTopicWith_spec (fun _ _ change => change) o name (List.mem_singleton_self _),
    fun _ _ _ _ _ first second within unsealed => first.same second within unsealed,
    fun bus topic name ackDeadline => resolveSubscription_spec (fun _ _ change => change) bus topic name ackDeadline,
    fun c apart => ⟨TopicCache.drain_nodup apart, TopicCache.drain_once c⟩, SubscriptionCache.find?_remove,
    fun allowed w answering => ⟨fun o name => resolveTopicWith_alone o name allowed w answering,
      fun bus topic name ackDeadline configured =>
        resolveSubscription_alone bus topic name ackDeadline w answering configured allowed⟩⟩

/-- Resolutions of a cached and of a fresh topic racing a flush on the busy bus:
once the first resolution has found "orders" in the cache, the cache keeps that
handle in place from every point on, until it is drained. -/
theorem busy_caches_coherent :
    ∃ p, Relation.ReflTransGen (Pool.Step Job.start)
        ⟨busyMachine, [CacheTask.topic (.bus 0) "orders", .topic (.bus 0) "payments", .flush (.bus 0)].map
          CacheTask.start, none⟩ p ∧
      (p.machine.world.publishing (.bus 0)).topics = ⟨[⟨"orders", 1⟩], false⟩ ∧
      ∀ p', Relation.ReflTransGen (Pool.Step Job.start) p p' →
        (p.machine.world.publishing (.bus 0)).topics.Follows (p'.machine.world.publishing (.bus 0)).topics := by
  let tasks := [CacheTask.topic (.bus 0) "orders", .topic (.bus 0) "payments", .flush (.bus 0)]
  have under : ∀ t ∈ tasks, t.Under .autoProvision busyMachine.world := by
    intro t member
    simp only [tasks, List.mem_cons, List.not_mem_nil, or_false] at member
    rcases member with rfl | rfl | rfl
    · rfl
    · rfl
    · trivial
  -- the first resolution reads the policy and the cache, then lets the others move
  have reading : Pool.Step Job.start ⟨busyMachine, tasks.map CacheTask.start, none⟩ _ := .step (i := 0) rfl (.inl rfl)
  have found := ((Relation.ReflTransGen.single reading).tail (.step (i := 0) rfl (.inr rfl))).tail
    (.ready (i := 0) rfl (.inr rfl) rfl)
  exact ⟨_, found, rfl, fun _ later =>
    (caches_coherent provisioned_busy handlersUnder_busy consistent_busy under found).1 _ later (.bus 0)⟩

end Courier
