import Courier.Proofs.Bus.Subscribing

namespace Courier

/-! # Shutting a bus down

The first shutdown of a bus refuses new subscribers, takes its table and its
cache of subscriptions, waits for every delivery loop to stop, and closes each
subscription it took once, in turn. It then closes the publisher, takes the
cache of topics with whatever the draining handlers cached meanwhile, and
flushes each topic once. The background jobs run all the while, but they close
and flush nothing, and they touch neither the bus's table nor its caches except
to cache a topic. A later shutdown takes no step at all. -/

namespace Broker

/-- The broker counted no close and no flush from one state to the other. -/
def Quiet (b b' : Broker) : Prop := b'.counters.close = b.counters.close ∧ b'.counters.flush = b.counters.flush

theorem Quiet.refl (b : Broker) : Quiet b b := ⟨rfl, rfl⟩

theorem Quiet.trans {b b' b'' : Broker} (first : Quiet b b') (second : Quiet b' b'') : Quiet b b'' :=
  ⟨second.1.trans first.1, second.2.trans first.2⟩

variable (b : Broker)

theorem counters_settle (slot : Nat) (reply : Reply) : (b.settle slot reply).1.counters = b.counters := by
  unfold settle
  split <;> rfl

theorem counters_foldl_settle (deliveries : List Delivery) (notices : List Notice) :
    (deliveries.foldl (fun (b, ns) d =>
      let (b, more) := b.settle d.slot .dropped; (b, ns ++ more)) (b, notices)).1.counters = b.counters := by
  induction deliveries generalizing b notices with
  | nil => rfl
  | cons d rest induction => exact (induction _ _).trans (counters_settle b d.slot .dropped)

theorem counters_dropReceiver (id : Nat) : (b.dropReceiver id).1.counters = b.counters := by
  unfold dropReceiver
  split
  · rfl
  · exact counters_foldl_settle _ _ _

theorem counters_addTopic (name : String) : (b.addTopic name).counters = b.counters := by
  unfold addTopic
  split <;> rfl

theorem counters_topicExists (name : String) : (b.topicExists name).1.counters = b.counters := by
  unfold topicExists
  split
  · rfl
  · split
    · exact counters_addTopic _ name
    · rfl

theorem counters_deadLetter (sub : String) (p : Pending) (topic : String) :
    (b.deadLetter sub p topic).1.counters = b.counters := by
  -- the record of the dead letter, then the copy to its topic, count nothing
  let recorded := b.modifySubscription sub fun s =>
    { s.release p with deadLettered := s.deadLettered ++ [p.message.messageId] }
  have copied : (recorded.append topic p.message.data
      (putAttribute deadLetterSourceAttribute sub p.message.attributes) none).1.counters = recorded.counters :=
    counters_append _ _ _ _ _
  unfold deadLetter
  dsimp only
  split
  · next appended =>
    rw [appended] at copied
    rw [counters_pump, counters_pumpAll, copied]
    rfl
  · next appended =>
    rw [appended] at copied
    rw [counters_pump, copied]
    rfl

theorem counters_of_receive {id : Nat} {b' : Broker} {d : Option Delivery}
    (received : b.receive id = some (b', d)) : b'.counters = b.counters := by
  unfold receive at received
  split at received
  · cases received
    rfl
  · split at received
    · cases received
      rfl
    · split at received
      · cases received
      · cases received
        rfl

/-- Publishing counts the call by topic, and no close or flush. -/
theorem publish_quiet (topic : String) (data : ByteArray) (attributes : List (String × String))
    (orderingKey : Option String) :
    (b.publish topic data attributes orderingKey).1.counters.close = b.counters.close ∧
      (b.publish topic data attributes orderingKey).1.counters.flush = b.counters.flush := by
  unfold publish
  dsimp only
  split
  · exact ⟨rfl, rfl⟩
  · split
    · exact ⟨rfl, rfl⟩
    · rw [counters_appendAndPump]
      exact ⟨rfl, rfl⟩
    · rw [counters_appendAndPump]
      exact ⟨rfl, rfl⟩

theorem createTopic_quiet (name : String) :
    (b.createTopic name).1.counters.close = b.counters.close ∧
      (b.createTopic name).1.counters.flush = b.counters.flush := by
  unfold createTopic
  dsimp only
  split
  · exact ⟨rfl, rfl⟩
  · split
    · exact ⟨rfl, rfl⟩
    · rw [counters_addTopic]
      exact ⟨rfl, rfl⟩

theorem close_counts (name : String) :
    (b.close name).1.counters.close = b.counters.close + 1 ∧
      (b.close name).1.counters.flush = b.counters.flush := by
  unfold close
  dsimp only
  split
  · exact ⟨rfl, rfl⟩
  · split
    · exact ⟨rfl, rfl⟩
    · split
      · exact ⟨rfl, rfl⟩
      · simp [modifySubscription, counters_dropSender]

theorem flush_counts (topic : String) :
    (b.flush topic).1.counters.flush = b.counters.flush + 1 ∧
      (b.flush topic).1.counters.close = b.counters.close := by
  unfold flush
  dsimp only
  split
  · exact ⟨rfl, rfl⟩
  · split
    · exact ⟨rfl, rfl⟩
    · split <;> exact ⟨rfl, rfl⟩

end Broker

/-- The broker calls of background jobs count no close and no flush. -/
theorem BrokerCall.quiet (c : BrokerCall) (byJob : c.byJob = true) (b : Broker) :
    (c.apply b).counters.close = b.counters.close ∧ (c.apply b).counters.flush = b.counters.flush := by
  cases c with
  | publish topic data attributes orderingKey => exact b.publish_quiet topic data attributes orderingKey
  | countSubscriptionExists | openDelivery _ _ | close _ | flush _ => cases byJob
  | _ =>
    simp [apply, Broker.countTopicExists, Broker.counters_topicExists, Broker.forgetSlot,
      Broker.counters_settle, Broker.acknowledge, Broker.counters_deadLetter, Broker.beginBackoff,
      Broker.endBackoff, Broker.closeReceiver, Broker.counters_dropReceiver, Broker.modifySubscription,
      Broker.modifyChannel]

namespace TopicCache

/-- A cache grows when it keeps every name it had, and keeps them apart. -/
def Grows (c c' : TopicCache) : Prop := (∀ t ∈ c.names, t ∈ c'.names) ∧ (c.names.Nodup → c'.names.Nodup)

theorem Grows.refl (c : TopicCache) : c.Grows c := ⟨fun _ cached => cached, id⟩

theorem Grows.trans {c c' c'' : TopicCache} (first : c.Grows c') (second : c'.Grows c'') : c.Grows c'' :=
  ⟨fun t cached => second.1 t (first.1 t cached), fun apart => second.2 (first.2 apart)⟩

theorem grows_insert (c : TopicCache) (fresh : TopicRef) : c.Grows (c.insert fresh).1 := by
  unfold insert
  split
  · exact .refl c
  · split
    · exact .refl c
    · next missing =>
      have absent : fresh.name ∉ c.names := by
        intro cached
        obtain ⟨h, member, named⟩ := List.mem_map.mp cached
        unfold find? at missing
        have other := List.find?_eq_none.mp missing h member
        simp [named] at other
      have grown : ({ c with handles := c.handles ++ [fresh] } : TopicCache).names = c.names ++ [fresh.name] := by
        simp [names]
      show c.Grows { c with handles := c.handles ++ [fresh] }
      rw [Grows, grown]
      exact ⟨fun t cached => List.mem_append_left _ cached,
        fun apart => List.nodup_append.mpr ⟨apart, List.nodup_singleton _,
          fun t cached u single same => absent (by rw [List.mem_singleton.mp single] at same; exact same ▸ cached)⟩⟩

/-- An empty, sealed cache stays so: nothing is cached into it, and draining
it leaves it as it is. -/
theorem Step.of_drained {c c' : TopicCache} (step : Step c c') (drained : c = ⟨[], true⟩) : c' = ⟨[], true⟩ := by
  subst drained
  rcases step with same | ⟨fresh, inserted⟩ | taken
  · exact same
  · rw [inserted, insert_of_sealed rfl]
  · exact taken

end TopicCache

/-- What a background job leaves alone of bus `bus` while it shuts down: the
bus keeps its table, its registrations, its cache of subscriptions and its
refusal of subscribers, and its cache of topics only grows. -/
structure Undisturbed (bus : Nat) (w w' : World) : Prop where
  buses : w'.buses.length = w.buses.length
  bindings : (w'.bus bus).bindings = (w.bus bus).bindings
  registrations : (w'.bus bus).registrations = (w.bus bus).registrations
  subscriptions : (w'.bus bus).subscriptions = (w.bus bus).subscriptions
  shuttingDown : (w'.bus bus).shuttingDown = (w.bus bus).shuttingDown
  topics : (w.bus bus).publishing.topics.Grows (w'.bus bus).publishing.topics

namespace Undisturbed

variable {bus : Nat} {w w' w'' : World}

theorem refl (w : World) : Undisturbed bus w w := ⟨rfl, rfl, rfl, rfl, rfl, .refl _⟩

theorem trans (first : Undisturbed bus w w') (second : Undisturbed bus w' w'') : Undisturbed bus w w'' :=
  ⟨second.buses.trans first.buses, second.bindings.trans first.bindings,
    second.registrations.trans first.registrations, second.subscriptions.trans first.subscriptions,
    second.shuttingDown.trans first.shuttingDown, first.topics.trans second.topics⟩

theorem of_buses (buses : w'.buses = w.buses) : Undisturbed bus w w' := by
  have same : w'.bus bus = w.bus bus := by simp [World.bus, buses]
  exact ⟨by rw [buses], by rw [same], by rw [same], by rw [same], by rw [same], by rw [same]; exact .refl _⟩

theorem of_broker (b : Broker) : Undisturbed bus w { w with broker := b } := of_buses rfl

/-- A change of a publisher that only lets its cache of topics grow. -/
theorem of_publishing (o : Outlet) {f : Publishing → Publishing}
    (grows : ∀ p : Publishing, p.topics.Grows (f p).topics) : Undisturbed bus w (w.modifyPublishing o f) := by
  cases o with
  | standalone => exact of_buses rfl
  | bus i =>
    simp only [World.modifyPublishing]
    have length := w.length_modifyBus i fun b => { b with publishing := f b.publishing }
    rcases World.bus_modifyBus w i bus (fun b => { b with publishing := f b.publishing }) with same | ⟨-, changed⟩
    · exact ⟨length, by rw [same], by rw [same], by rw [same], by rw [same], by rw [same]; exact .refl _⟩
    · exact ⟨length, by rw [changed], by rw [changed], by rw [changed], by rw [changed], by rw [changed]; exact grows _⟩

end Undisturbed

/-- A background job leaves every bus undisturbed, and closes and flushes
nothing. -/
theorem Change.undisturbed {policy : ProvisioningPolicy} {w w' : World} (change : Change policy false w w')
    (bus : Nat) : Undisturbed bus w w' ∧ w.broker.Quiet w'.broker := by
  cases change with
  | call w c byJob => exact ⟨.of_broker _, c.quiet (by simpa using byJob) w.broker⟩
  | receive channel received =>
    have same := w.broker.counters_of_receive received
    exact ⟨.of_broker _, by rw [same], by rw [same]⟩
  | createTopic w name _ => exact ⟨.of_broker _, w.broker.createTopic_quiet name⟩
  | metrics w f => exact ⟨.of_buses rfl, .refl _⟩
  | allocate w => exact ⟨.of_buses rfl, .refl _⟩
  | mint w => exact ⟨.of_buses rfl, .refl _⟩
  | loops w loops => exact ⟨.of_buses rfl, .refl _⟩
  | handle w handler calls record => exact ⟨.of_buses rfl, .refl _⟩
  | gate w o g => exact ⟨.of_publishing o fun p => .refl p.topics, by simp [Broker.Quiet]⟩
  | cacheTopic w o name _ =>
    rw [World.cacheTopic_fst]
    have allocated : Undisturbed bus w w.allocate.1 := .of_buses rfl
    exact ⟨allocated.trans (.of_publishing o fun p => p.topics.grows_insert _), by simp [Broker.Quiet, World.allocate]⟩

/-! What a shutdown closes. -/

namespace BusState

/-- What every bus keeps of its caches and its table: each topic and each
subscription is cached once, each name has one entry in the table, and a running
binding runs the subscription it is named for. -/
structure Consistent (b : BusState) : Prop where
  topics : b.publishing.topics.names.Nodup
  cached : (b.subscriptions.map (·.name)).Nodup
  bound : (b.bindings.map (·.1)).Nodup
  named : ∀ n a, (n, Binding.running a) ∈ b.bindings → a.handle.name = n

end BusState

theorem mem_runningBindings {bindings : List (String × Binding)} {a : ActiveSubscription} :
    a ∈ runningBindings bindings ↔ ∃ n, (n, Binding.running a) ∈ bindings := by
  unfold runningBindings
  rw [List.mem_filterMap]
  constructor
  · rintro ⟨⟨n, e⟩, member, found⟩
    cases e with
    | reserved => cases found
    | running a' =>
      cases found
      exact ⟨n, List.mem_mergeSort.mp member⟩
  · rintro ⟨n, member⟩
    exact ⟨(n, .running a), List.mem_mergeSort.mpr member, rfl⟩

theorem runningBindings_names_nodup {bindings : List (String × Binding)} (bound : (bindings.map (·.1)).Nodup)
    (named : ∀ n a, (n, Binding.running a) ∈ bindings → a.handle.name = n) :
    ((runningBindings bindings).map (·.handle.name)).Nodup := by
  have sorted : ((bindings.mergeSort fun a b => a.1 ≤ b.1).map (·.1)).Nodup :=
    ((List.mergeSort_perm _ _).map _).nodup_iff.mpr bound
  unfold runningBindings
  unfold List.Nodup at sorted ⊢
  rw [List.pairwise_map] at sorted
  rw [List.pairwise_map, List.pairwise_filterMap]
  -- two running bindings are two entries of the table, whose names differ
  refine sorted.imp_of_mem fun {x y} xMember yMember apart a aFound a' a'Found => ?_
  obtain ⟨n, e⟩ := x
  obtain ⟨n', e'⟩ := y
  cases e with
  | reserved => cases aFound
  | running b =>
    cases e' with
    | reserved => cases a'Found
    | running b' =>
      cases aFound
      cases a'Found
      rw [named n a (List.mem_mergeSort.mp xMember), named n' a' (List.mem_mergeSort.mp yMember)]
      exact apart

theorem SubscriptionCache.mem_drain_names (c : SubscriptionCache) (n : String) :
    n ∈ c.drain.map (·.name) ↔ n ∈ c.map (·.name) :=
  ((List.mergeSort_perm _ _).map _).mem_iff

namespace BusState

section Closing

variable {cached : SubscriptionCache} {bindings : List (String × Binding)}

/-- A shutdown closes each subscription it took at most once: the cache it
took names each once, and so does the table, whose running bindings run the
subscriptions they are named for. -/
theorem nodup_closingOf (apart : (cached.map (·.name)).Nodup) (bound : (bindings.map (·.1)).Nodup)
    (named : ∀ n a, (n, Binding.running a) ∈ bindings → a.handle.name = n) :
    ((closingOf cached.drain (runningBindings bindings)).map (·.name)).Nodup := by
  unfold closingOf
  rw [List.map_append, List.nodup_append, List.map_map]
  refine ⟨((List.mergeSort_perm _ _).map _).nodup_iff.mpr apart, ?_, ?_⟩
  · exact (List.filter_sublist.map _).nodup (runningBindings_names_nodup bound named)
  · -- a running subscription is closed beside the cached ones only if none of them has its name
    intro n drained m running same
    obtain ⟨a, kept, rfl⟩ := List.mem_map.mp running
    have untaken := (List.mem_filter.mp kept).2
    obtain ⟨h, taken, rfl⟩ := List.mem_map.mp drained
    simp only [Bool.not_eq_true', List.any_eq_false, beq_iff_eq] at untaken
    exact untaken h taken same

/-- A shutdown closes exactly the subscriptions of the cache it took and those
of the running bindings of the table it took. -/
theorem mem_closingOf (named : ∀ n a, (n, Binding.running a) ∈ bindings → a.handle.name = n) (n : String) :
    n ∈ (closingOf cached.drain (runningBindings bindings)).map (·.name) ↔
      n ∈ cached.map (·.name) ∨ ∃ a, (n, Binding.running a) ∈ bindings := by
  unfold closingOf
  rw [List.map_append, List.mem_append, List.map_map, SubscriptionCache.mem_drain_names]
  constructor
  · rintro (cached | running)
    · exact .inl cached
    · obtain ⟨a, kept, rfl⟩ := List.mem_map.mp running
      obtain ⟨m, bound⟩ := mem_runningBindings.mp (List.mem_filter.mp kept).1
      have same := named m a bound
      exact .inr ⟨a, by simp only [Function.comp_apply, same]; exact bound⟩
  · rintro (cached | ⟨a, bound⟩)
    · exact .inl cached
    · by_cases taken : n ∈ cached.map (·.name)
      · exact .inl taken
      · refine .inr (List.mem_map.mpr ⟨a, List.mem_filter.mpr ⟨mem_runningBindings.mpr ⟨n, bound⟩, ?_⟩,
          by simp only [Function.comp_apply, named n a bound]⟩)
        rw [← SubscriptionCache.mem_drain_names] at taken
        simp only [Bool.not_eq_true', List.any_eq_false, beq_iff_eq, named n a bound]
        exact fun h member same => taken (List.mem_map.mpr ⟨h, member, same⟩)

end Closing

variable {b : BusState}

end BusState

/-! The closes and the flushes of a shutdown, on the broker. -/

namespace Broker

/-- Close one more subscription: a close that succeeds is counted, the name of
one that fails is noted. -/
def closeStep : Broker × Nat × List String → SubscriptionHandle → Broker × Nat × List String
  | (b, closed, failures), handle =>
    match (b.close handle.name).2.1 with
    | .ok () => ((b.close handle.name).1, closed + 1, failures)
    | .error _ => ((b.close handle.name).1, closed, failures ++ [handle.name])

/-- Flush one more topic: a flush that succeeds is counted, the name of one
that fails is noted. -/
def flushStep : Broker × FlushReport → TopicRef → Broker × FlushReport
  | (b, report), handle =>
    match (b.flush handle.name).2 with
    | .ok () => ((b.flush handle.name).1, { report with flushed := report.flushed + 1 })
    | .error _ => ((b.flush handle.name).1, { report with failed := report.failed ++ [handle.name] })

theorem closeStep_broker (s : Broker × Nat × List String) (handle : SubscriptionHandle) :
    (closeStep s handle).1 = (s.1.close handle.name).1 ∧
      (closeStep s handle).2.1 + (closeStep s handle).2.2.length = s.2.1 + s.2.2.length + 1 := by
  obtain ⟨b, closed, failures⟩ := s
  simp only [closeStep]
  split
  · exact ⟨rfl, by simp only; omega⟩
  · exact ⟨rfl, by simp only [List.length_append, List.length_singleton]; omega⟩

theorem flushStep_broker (s : Broker × FlushReport) (handle : TopicRef) :
    (flushStep s handle).1 = (s.1.flush handle.name).1 ∧
      (flushStep s handle).2.flushed + (flushStep s handle).2.failed.length =
        s.2.flushed + s.2.failed.length + 1 := by
  obtain ⟨b, flushed, failed⟩ := s
  simp only [flushStep]
  split
  · exact ⟨rfl, by simp only; omega⟩
  · exact ⟨rfl, by simp only [List.length_append, List.length_singleton]; omega⟩

/-- Subscriptions closed in turn: each once, in order, by the broker's step,
with the broker moving between two closes as `B` allows. -/
inductive ClosesAll (B : Broker → Broker → Prop) :
    Broker × Nat × List String → List SubscriptionHandle → Broker × Nat × List String → Prop
  | nil (s : Broker × Nat × List String) : ClosesAll B s [] s
  | cons {s s' : Broker × Nat × List String} {b : Broker} (handle : SubscriptionHandle)
      (rest : List SubscriptionHandle) :
      B (closeStep s handle).1 b → ClosesAll B (b, (closeStep s handle).2) rest s' → ClosesAll B s (handle :: rest) s'

/-- Topics flushed in turn, as `ClosesAll` closes subscriptions. -/
inductive FlushesAll (B : Broker → Broker → Prop) : Broker × FlushReport → List TopicRef → Broker × FlushReport → Prop
  | nil (s : Broker × FlushReport) : FlushesAll B s [] s
  | cons {s s' : Broker × FlushReport} {b : Broker} (handle : TopicRef) (rest : List TopicRef) :
      B (flushStep s handle).1 b → FlushesAll B (b, (flushStep s handle).2) rest s' → FlushesAll B s (handle :: rest) s'

/-- Each subscription closed in turn is counted once, as closed or failed. -/
theorem ClosesAll.reported {B : Broker → Broker → Prop} {s s' : Broker × Nat × List String}
    {handles : List SubscriptionHandle} (closes : ClosesAll B s handles s') :
    s'.2.1 + s'.2.2.length = s.2.1 + s.2.2.length + handles.length := by
  induction closes with
  | nil => simp
  | @cons s s' b handle rest _ _ induction =>
    rw [induction, (closeStep_broker s handle).2, List.length_cons]
    omega

/-- Each topic flushed in turn is counted once, as flushed or failed. -/
theorem FlushesAll.reported {B : Broker → Broker → Prop} {s s' : Broker × FlushReport} {handles : List TopicRef}
    (flushes : FlushesAll B s handles s') :
    s'.2.flushed + s'.2.failed.length = s.2.flushed + s.2.failed.length + handles.length := by
  induction flushes with
  | nil => simp
  | @cons s s' b handle rest _ _ induction =>
    rw [induction, (flushStep_broker s handle).2, List.length_cons]
    omega

/-- Closing a list of subscriptions, with a broker that counts no close and no
flush between two of them, makes one close call for each and flushes nothing. -/
theorem ClosesAll.counts {s s' : Broker × Nat × List String} {handles : List SubscriptionHandle}
    (closes : ClosesAll Quiet s handles s') :
    s'.1.counters.close = s.1.counters.close + handles.length ∧ s'.1.counters.flush = s.1.counters.flush := by
  induction closes with
  | nil => simp
  | @cons s s' b handle rest quiet _ induction =>
    obtain ⟨close, flush⟩ := induction
    obtain ⟨closedOnce, noFlush⟩ := s.1.close_counts handle.name
    rw [(closeStep_broker s handle).1] at quiet
    obtain ⟨quietClose, quietFlush⟩ := quiet
    simp only at close flush
    simp only [List.length_cons]
    exact ⟨by omega, by omega⟩

/-- Flushing a list of topics, with a broker that counts no close and no flush
between two of them, makes one flush call for each and closes nothing. -/
theorem FlushesAll.counts {s s' : Broker × FlushReport} {handles : List TopicRef}
    (flushes : FlushesAll Quiet s handles s') :
    s'.1.counters.flush = s.1.counters.flush + handles.length ∧ s'.1.counters.close = s.1.counters.close := by
  induction flushes with
  | nil => simp
  | @cons s s' b handle rest quiet _ induction =>
    obtain ⟨flush, close⟩ := induction
    obtain ⟨flushedOnce, noClose⟩ := s.1.flush_counts handle.name
    rw [(flushStep_broker s handle).1] at quiet
    obtain ⟨quietClose, quietFlush⟩ := quiet
    simp only at flush close
    simp only [List.length_cons]
    exact ⟨by omega, by omega⟩

end Broker

/-! The programs of a shutdown. Each close and each flush is the broker's step;
after each, the others may run, and the broker moves between two of them as
the others' steps allow, which `B` says. Each program keeps a fact `J` that the
others keep and that no change of the broker breaks. -/

section Programs

variable {R : World → World → Prop} {policy : ProvisioningPolicy} {B : Broker → Broker → Prop}
  {J : World → Prop} (moves : ∀ w w', Relation.ReflTransGen R w w' → B w.broker w'.broker)
  (kept : ∀ w w', J w → R w w' → J w') (broker : ∀ w (c : BrokerCall), J w → J { w with broker := c.apply w.broker })

include moves kept broker

theorem closeSubscription_closes (handle : SubscriptionHandle) (w₀ : World) :
    Portable (Ungated policy) R (fun w => w = w₀ ∧ J w) (closeSubscription handle) fun r w =>
      r = (w₀.broker.close handle.name).2.1.mapError (.transport "close") ∧
        B (w₀.broker.close handle.name).1 w.broker ∧ J w := by
  unfold closeSubscription
  refine Portable.bind (Portable.onBroker (Q := fun answer w => answer = (w₀.broker.close handle.name).2.1 ∧
      B (w₀.broker.close handle.name).1 w.broker ∧ J w) _ fun w holds => ?_) fun answer => ?_
  · obtain ⟨rfl, holding⟩ := holds
    exact ⟨.inr (.call w (.close _)), fun _ related => ⟨rfl, moves _ _ related,
      rely_keeps kept (broker _ (.close _) holding) related⟩⟩
  · cases answer with
    | ok u =>
      cases u
      exact (Portable.pure _).conseq (fun _ holds => ⟨by rw [← holds.1]; rfl, holds.2⟩) fun _ _ done => done
    | error e =>
      exact (Portable.pure _).conseq (fun _ holds => ⟨by rw [← holds.1]; rfl, holds.2⟩) fun _ _ done => done

theorem closeOne_closes (acc : Nat × List String) (handle : SubscriptionHandle) (w₀ : World) :
    Portable (Ungated policy) R (fun w => w = w₀ ∧ J w) (closeOne acc handle) fun acc' w =>
      acc' = (Broker.closeStep (w₀.broker, acc) handle).2 ∧ B (Broker.closeStep (w₀.broker, acc) handle).1 w.broker ∧
        J w := by
  obtain ⟨closed, failures⟩ := acc
  simp only [closeOne]
  refine Portable.bind (closeSubscription_closes moves kept broker handle w₀) fun r =>
    Portable.assume fun same => ?_
  subst same
  cases answer : (w₀.broker.close handle.name).2.1 with
  | ok u =>
    cases u
    exact (Portable.pure _).conseq (fun _ holds => by simpa [Broker.closeStep, answer] using holds)
      fun _ _ done => done
  | error e =>
    exact (Portable.pure _).conseq (fun _ holds => by simpa [Broker.closeStep, answer] using holds)
      fun _ _ done => done

theorem foldlM_closeOne (handles : List SubscriptionHandle) (acc : Nat × List String) (w₀ : World) :
    Portable (Ungated policy) R (fun w => w = w₀ ∧ J w) (handles.foldlM closeOne acc) fun acc' w =>
      Broker.ClosesAll B (w₀.broker, acc) handles (w.broker, acc') ∧ J w := by
  -- one close after another, each from the world the previous one left
  induction handles generalizing acc w₀ with
  | nil =>
    exact (Portable.pure acc).conseq (fun w holds => by obtain ⟨rfl, holding⟩ := holds; exact ⟨.nil _, holding⟩)
      fun _ _ done => done
  | cons handle rest induction =>
    rw [List.foldlM_cons]
    refine Portable.bind (closeOne_closes moves kept broker acc handle w₀) fun acc' =>
      Portable.of_pre fun w₁ stepped => ?_
    obtain ⟨rfl, moved, holding₁⟩ := stepped
    exact (induction _ w₁).conseq (fun _ same => ⟨same, same ▸ holding₁⟩)
      fun _ _ folded => ⟨.cons handle rest moved folded.1, folded.2⟩

theorem flushOne_flushes (report : FlushReport) (handle : TopicRef) (w₀ : World) :
    Portable (Ungated policy) R (fun w => w = w₀ ∧ J w) (flushOne report handle) fun report' w =>
      report' = (Broker.flushStep (w₀.broker, report) handle).2 ∧
        B (Broker.flushStep (w₀.broker, report) handle).1 w.broker ∧ J w := by
  unfold flushOne
  refine Portable.bind (Portable.quietly (Q := fun answer w => answer = (w₀.broker.flush handle.name).2 ∧
      B (w₀.broker.flush handle.name).1 w.broker ∧ J w) _ fun w holds => ?_) fun answer => ?_
  · obtain ⟨rfl, holding⟩ := holds
    exact ⟨.inr (.call w (.flush _)), fun _ related => ⟨rfl, moves _ _ related,
      rely_keeps kept (broker _ (.flush _) holding) related⟩⟩
  · refine Portable.assume fun same => ?_
    cases answer with
    | ok u =>
      cases u
      exact (Portable.pure _).conseq (fun _ holds => by simpa [Broker.flushStep, ← same] using holds)
        fun _ _ done => done
    | error e =>
      exact (Portable.pure _).conseq (fun _ holds => by simpa [Broker.flushStep, ← same] using holds)
        fun _ _ done => done

theorem foldlM_flushOne (handles : List TopicRef) (report : FlushReport) (w₀ : World) :
    Portable (Ungated policy) R (fun w => w = w₀ ∧ J w) (handles.foldlM flushOne report) fun report' w =>
      Broker.FlushesAll B (w₀.broker, report) handles (w.broker, report') ∧ J w := by
  induction handles generalizing report w₀ with
  | nil =>
    exact (Portable.pure report).conseq (fun w holds => by obtain ⟨rfl, holding⟩ := holds; exact ⟨.nil _, holding⟩)
      fun _ _ done => done
  | cons handle rest induction =>
    rw [List.foldlM_cons]
    refine Portable.bind (flushOne_flushes moves kept broker report handle w₀) fun report' =>
      Portable.of_pre fun w₁ stepped => ?_
    obtain ⟨rfl, moved, holding₁⟩ := stepped
    exact (induction _ w₁).conseq (fun _ same => ⟨same, same ▸ holding₁⟩)
      fun _ _ folded => ⟨.cons handle rest moved folded.1, folded.2⟩

/-- Flushing the topics it took, from the world `w₀` it left: after the others
moved the world on, each topic is flushed once, in order. -/
theorem flushTaken_flushes (handles : List TopicRef) (w₀ : World) (holding : J w₀) :
    Portable (Ungated policy) R (· = w₀) (do Async.yieldNow; handles.foldlM flushOne ⟨0, []⟩) fun report w =>
      ∃ w₁, Relation.ReflTransGen R w₀ w₁ ∧ Broker.FlushesAll B (w₁.broker, ⟨0, []⟩) handles (w.broker, report) ∧
        J w := by
  refine Portable.bind (Portable.yieldNow (Q := fun _ w => Relation.ReflTransGen R w₀ w ∧ J w)
    fun _ _ same related => ?_) fun _ => ?_
  · subst same
    exact ⟨related, rely_keeps kept holding related⟩
  exact Portable.of_pre fun w₁ holds => (foldlM_flushOne moves kept broker _ _ w₁).conseq
    (fun _ same => ⟨same, same ▸ holds.2⟩) fun _ _ folded => ⟨w₁, holds.1, folded⟩

/-- Flushing takes the publisher's whole cache of topics, seals it, and then,
after the others moved the world on, flushes each topic taken once, in order. -/
theorem flushAll_flushes (o : Outlet) (w₀ : World)
    (drained : J (w₀.modifyPublishing o ({ · with topics := ⟨[], true⟩ }))) :
    Portable (TableFree policy) R (· = w₀) (flushAll o) fun report w => ∃ w₁,
      Relation.ReflTransGen R (w₀.modifyPublishing o ({ · with topics := ⟨[], true⟩ })) w₁ ∧
      Broker.FlushesAll B (w₁.broker, ⟨0, []⟩) (w₀.publishing o).topics.drain.1 (w.broker, report) ∧ J w := by
  unfold flushAll
  refine Portable.bind (Portable.act (Q := fun handles w => handles = (w₀.publishing o).topics.drain.1 ∧
      w = w₀.modifyPublishing o ({ · with topics := ⟨[], true⟩ })) _ fun w same => ?_) fun handles => ?_
  · subst same
    exact ⟨.inr (.drainTopics w o), rfl, rfl⟩
  refine Portable.assume fun same => ?_
  subst same
  exact ((flushTaken_flushes moves kept broker _ _ drained).widen fun _ _ step => step.tableFree).conseq
    (fun _ same => same) fun _ _ done => done

omit moves kept broker in
/-- Where closing a bus stands once it took the cache `drained` of its
subscriptions: taken at a world where `I` held, the others having moved the
world on since, with `J` holding now. -/
def CacheTaken (R : World → World → Prop) (I J : World → Prop) (bus : Nat) (drained : List SubscriptionHandle)
    (w : World) : Prop :=
  ∃ w₁, I w₁ ∧ drained = (w₁.bus bus).subscriptions.drain ∧
    Relation.ReflTransGen R (w₁.modifyBus bus ({ · with subscriptions := [] })) w ∧ J w

omit moves broker in
theorem CacheTaken.rely {I : World → Prop} {bus : Nat} {drained : List SubscriptionHandle} {w w' : World}
    (holds : CacheTaken R I J bus drained w) (related : Relation.ReflTransGen R w w') :
    CacheTaken R I J bus drained w' := by
  obtain ⟨w₁, holding, taken, since, holdingJ⟩ := holds
  exact ⟨w₁, holding, taken, since.trans related, rely_keeps kept holdingJ related⟩

/-- Closing every subscription of a bus: it clears the bus's table, then takes
its cache of subscriptions, stops every loop that was bound, and closes each
subscription it took and each one a running binding ran, once, in order. The
others run after each stage; `I` holds from the clearing to the taking, `J`
from the taking to the end. -/
theorem closeAll_portable {S : World → World → Prop} (free : ∀ w w', Ungated policy w w' → S w w')
    {I : World → Prop} (keptI : ∀ w w', I w → R w w' → I w') (bus : Nat) (w₀ : World)
    (clear : S w₀ (w₀.modifyBus bus fun b => { b with bindings := [], registrations := [] }))
    (cleared : I (w₀.modifyBus bus fun b => { b with bindings := [], registrations := [] }))
    (drain : ∀ w, I w → S w (w.modifyBus bus ({ · with subscriptions := [] })) ∧
      J (w.modifyBus bus ({ · with subscriptions := [] }))) :
    Portable S R (· = w₀) (closeAll bus) fun result w => ∃ w₁ w₂, I w₁ ∧
      Relation.ReflTransGen R (w₁.modifyBus bus ({ · with subscriptions := [] })) w₂ ∧
      Broker.ClosesAll B (w₂.broker, 0, [])
        (closingOf (w₁.bus bus).subscriptions.drain (runningBindings (w₀.bus bus).bindings))
        (w.broker, result) ∧ J w := by
  unfold closeAll
  refine Portable.bind ((Portable.view (Q := fun b w => b = w₀.bus bus ∧ w = w₀) _).conseq
    (fun w same => ⟨by rw [same], same⟩) fun _ _ done => done) fun b => Portable.assume fun same => ?_
  subst same
  refine Portable.bind (Portable.alter (Q := fun _ => I) _ fun w same => ?_) fun _ => ?_
  · subst same
    exact ⟨.inr clear, cleared⟩
  refine Portable.bind (Portable.yieldNow_keeps keptI) fun _ => ?_
  -- the cache is taken as it is now, after the others' turn; from then on the others move the world
  refine Portable.bind (Portable.act (Q := CacheTaken R I J bus) _ fun w holds =>
    ⟨.inr (drain w holds).1, w, holds, rfl, .refl, (drain w holds).2⟩) fun drained => ?_
  refine Portable.bind (Portable.yieldNow (Q := fun _ => CacheTaken R I J bus drained)
    fun _ _ holds related => holds.rely kept related) fun _ => ?_
  refine Portable.bind (Portable.mapM _ fun active => (Portable.task _).conseq (fun _ holds _ => holds)
    fun _ _ done => done) fun stoppers => ?_
  refine Portable.bind (Portable.joinTasks (Q := fun _ => CacheTaken R I J bus drained)
    _ fun _ _ holds related => holds.rely kept related) fun _ => ?_
  refine Portable.of_pre fun w₂ holds => ?_
  obtain ⟨w₁, holding, rfl, since, holdingJ⟩ := holds
  exact ((foldlM_closeOne moves kept broker _ _ w₂).widen free).conseq (fun _ same => ⟨same, same ▸ holdingJ⟩)
    fun _ _ folded => ⟨w₁, w₂, holding, since, folded⟩

end Programs

namespace World

end World

/-- A bus a shutdown has emptied: its table and its registrations are empty, it
caches no subscription, and it refuses subscribers. -/
structure Emptied (bus : Nat) (w : World) : Prop where
  within : bus < w.buses.length
  bindings : (w.bus bus).bindings = []
  registrations : (w.bus bus).registrations = []
  subscriptions : (w.bus bus).subscriptions = []
  refusing : (w.bus bus).shuttingDown = true

namespace Emptied

variable {bus : Nat} {w w' : World}

theorem undisturbed (emptied : Emptied bus w) (along : Undisturbed bus w w') : Emptied bus w' :=
  ⟨along.buses ▸ emptied.within, along.bindings.trans emptied.bindings,
    along.registrations.trans emptied.registrations, along.subscriptions.trans emptied.subscriptions,
    along.shuttingDown.trans emptied.refusing⟩

theorem of_publishing (emptied : Emptied bus w) (o : Outlet) (f : Publishing → Publishing) :
    Emptied bus (w.modifyPublishing o f) := by
  cases o with
  | standalone => exact emptied.undisturbed (.of_buses rfl)
  | bus i =>
    simp only [World.modifyPublishing]
    have within : bus < (w.modifyBus i fun b => { b with publishing := f b.publishing }).buses.length := by
      rw [World.length_modifyBus]
      exact emptied.within
    rcases World.bus_modifyBus w i bus (fun b => { b with publishing := f b.publishing }) with same | ⟨-, changed⟩
    · exact ⟨within, by rw [same]; exact emptied.bindings, by rw [same]; exact emptied.registrations,
        by rw [same]; exact emptied.subscriptions, by rw [same]; exact emptied.refusing⟩
    · exact ⟨within, by rw [changed]; exact emptied.bindings, by rw [changed]; exact emptied.registrations,
        by rw [changed]; exact emptied.subscriptions, by rw [changed]; exact emptied.refusing⟩

end Emptied

section Shutdown

variable {R G : World → World → Prop} {policy : ProvisioningPolicy} [Guarantee.Caller policy G]
  (others : ∀ w w', R w w' → Change policy false w w')

include others

end Shutdown

end Courier
