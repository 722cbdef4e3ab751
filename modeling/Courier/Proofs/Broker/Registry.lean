import Courier.Proofs.Broker.Publishing

namespace Courier.Broker

/-! # What the calls of a bus keep of the broker's registry

A bus resolves topics and subscriptions by name and caches what it resolved. Of
all the calls it makes, only the two creations add to the registry of the
broker; every other call, however it changes backlogs, channels and reply
slots, keeps each topic and each subscription with its settings, adds no
subscription and counts no creation. -/

/-- A change of the broker that creates nothing: every topic stays, every
subscription stays with its settings and none appears, and no creation is
counted. -/
structure Retains (b b' : Broker) : Prop where
  topics : ∀ t, b.hasTopic t → b'.hasTopic t
  settings : ∀ n, (b'.subscription? n).map (·.settings) = (b.subscription? n).map (·.settings)
  createTopic : b'.counters.createTopic = b.counters.createTopic
  createSubscription : b'.counters.createSubscription = b.counters.createSubscription

theorem hasTopic_of_topics {b b' : Broker} (same : b'.topics = b.topics) (t : String) :
    b'.hasTopic t = b.hasTopic t := by
  simp [hasTopic, topic?_of_topics _ same]

theorem hasTopic_store (b : Broker) (x : String) (m : StoredMessage) (y : String) :
    (b.store x m).hasTopic y = b.hasTopic y := by
  simp only [hasTopic, topic?_store]
  split <;> simp

namespace Retains

variable {b b' b'' : Broker}

theorem refl (b : Broker) : Retains b b := ⟨fun _ present => present, fun _ => rfl, rfl, rfl⟩

theorem trans (first : Retains b b') (second : Retains b' b'') : Retains b b'' :=
  ⟨fun t present => second.topics t (first.topics t present),
    fun n => (second.settings n).trans (first.settings n),
    second.createTopic.trans first.createTopic,
    second.createSubscription.trans first.createSubscription⟩

/-- A change of what the registry does not hold: channels, reply slots, faults,
identifiers and the other counters. -/
theorem of_eq (topics : b'.topics = b.topics) (subscriptions : b'.subscriptions = b.subscriptions)
    (createTopic : b'.counters.createTopic = b.counters.createTopic)
    (createSubscription : b'.counters.createSubscription = b.counters.createSubscription) :
    Retains b b' :=
  ⟨fun t present => by rwa [hasTopic_of_topics topics],
    fun n => by rw [subscription?_of_subscriptions _ subscriptions], createTopic, createSubscription⟩

end Retains

variable (b : Broker)

theorem retains_modifyChannel (id : Nat) (f : Channel → Channel) : Retains b (b.modifyChannel id f) :=
  .of_eq rfl rfl rfl rfl

theorem retains_dropSender (channel : Option Nat) : Retains b (b.dropSender channel).1 :=
  .of_eq (topics_dropSender b channel) (subscriptions_dropSender b channel)
    (by rw [counters_dropSender]) (by rw [counters_dropSender])

/-- Changing a subscription in a way that keeps its name and settings. -/
theorem retains_modifySubscription (n : String) {f : SubscriptionState → SubscriptionState}
    (keeps : ∀ s, (f s).name = s.name ∧ (f s).settings = s.settings) :
    Retains b (b.modifySubscription n f) := by
  refine ⟨fun t present => by simpa [hasTopic] using present, fun x => ?_, rfl, rfl⟩
  rw [subscription?_modifySubscription b n x f fun s => (keeps s).1]
  split
  · cases b.subscription? x <;> simp [keeps]
  · rfl

theorem retains_pump (n : String) : Retains b (b.pump n).1 := by
  refine ⟨fun t present => by rwa [hasTopic_of_topics (topics_pump b n)],
    fun x => ?_, by rw [counters_pump], by rw [counters_pump]⟩
  by_cases same : n = x
  · subst same
    cases found : b.subscription? n with
    | none => simp [pump_of_missing b found, found]
    | some S =>
      obtain ⟨S', found', pumped, -⟩ := pump_pumped b found
      rw [found', pumped.fields]
      rfl
  · rw [subscription?_pump_of_ne b same]

theorem retains_pumpAll (names : List String) : Retains b (b.pumpAll names).1 := by
  induction names generalizing b with
  | nil => exact .refl b
  | cons n names induction =>
    rw [pumpAll_cons]
    exact (retains_pump b n).trans (induction _)

theorem retains_append (x : String) (data : ByteArray) (attributes : List (String × String))
    (orderingKey : Option String) : Retains b (b.append x data attributes orderingKey).1 := by
  cases found : b.topic? x with
  | none =>
    rw [append_of_missing b found]
    exact .of_eq rfl rfl rfl rfl
  | some t =>
    rw [append_of_found b found]
    -- storing keeps every topic's name, queueing keeps every subscription's settings
    refine ⟨fun y present => ?_, fun y => ?_, by rw [counters_queueOn]; rfl,
      by rw [counters_queueOn]; rfl⟩
    · rw [hasTopic_of_topics (topics_queueOn _ _ _), hasTopic_store]
      exact present
    · rw [subscription?_queueOn, subscription?_store, subscription?_withNextId]
      cases b.subscription? y <;> rfl

theorem retains_appendAndPump (x : String) (data : ByteArray) (attributes : List (String × String))
    (orderingKey : Option String) : Retains b (b.appendAndPump x data attributes orderingKey).1 := by
  cases found : b.topic? x with
  | none =>
    rw [appendAndPump_of_missing b x data attributes orderingKey found]
    exact .of_eq rfl rfl rfl rfl
  | some t =>
    rw [appendAndPump_of_found b x data attributes orderingKey found]
    exact (retains_append b x data attributes orderingKey).trans (retains_pumpAll _ _)

theorem retains_publish (x : String) (data : ByteArray) (attributes : List (String × String))
    (orderingKey : Option String) : Retains b (b.publish x data attributes orderingKey).1 := by
  unfold publish
  dsimp only
  split
  · exact .of_eq rfl rfl rfl rfl
  · split
    · exact .of_eq rfl rfl rfl rfl
    · exact (Retains.of_eq (by rfl) (by rfl) (by rfl) (by rfl)).trans (retains_appendAndPump _ _ _ _ _)
    · exact (Retains.of_eq (by rfl) (by rfl) (by rfl) (by rfl)).trans (retains_appendAndPump _ _ _ _ _)

theorem retains_openDelivery (n : String) (limit : Nat) : Retains b (b.openDelivery n limit).1 := by
  unfold openDelivery
  split
  · exact .refl b
  · split
    · exact .refl b
    · dsimp only
      refine (Retains.of_eq (by rfl) (by rfl) (by rfl) (by rfl)).trans ((retains_dropSender _ _).trans
        ((retains_modifySubscription _ _ fun _ => by exact ⟨rfl, rfl⟩).trans (retains_pump _ _)))

theorem retains_close (n : String) : Retains b (b.close n).1 := by
  unfold close
  dsimp only
  split
  · exact .of_eq rfl rfl rfl rfl
  · split
    · exact .of_eq rfl rfl rfl rfl
    · split
      · exact .of_eq rfl rfl rfl rfl
      · exact (Retains.of_eq (by rfl) (by rfl) (by rfl) (by rfl)).trans ((retains_dropSender _ _).trans
          (retains_modifySubscription _ _ fun _ => by exact ⟨rfl, rfl⟩))

theorem retains_flush (x : String) : Retains b (b.flush x).1 := by
  unfold flush
  dsimp only
  split
  · exact .of_eq rfl rfl rfl rfl
  · split
    · exact .of_eq rfl rfl rfl rfl
    · split <;> exact .of_eq rfl rfl rfl rfl

theorem retains_settle (slot : Nat) (reply : Reply) : Retains b (b.settle slot reply).1 := by
  unfold settle
  split <;> exact .of_eq rfl rfl rfl rfl

theorem retains_foldl_settle (deliveries : List Delivery) (notices : List Notice) :
    Retains b (deliveries.foldl (fun (b, ns) d =>
      let (b, more) := b.settle d.slot .dropped; (b, ns ++ more)) (b, notices)).1 := by
  induction deliveries generalizing b notices with
  | nil => exact .refl b
  | cons d rest induction => exact (retains_settle b d.slot .dropped).trans (induction _ _)

theorem retains_forgetSlot (slot : Nat) : Retains b (b.forgetSlot slot) := .of_eq rfl rfl rfl rfl

theorem retains_closeReceiver (id : Nat) : Retains b (b.closeReceiver id) :=
  retains_modifyChannel b id _

theorem retains_dropReceiver (id : Nat) : Retains b (b.dropReceiver id).1 := by
  unfold dropReceiver
  split
  · exact .refl b
  · exact (retains_modifyChannel b id _).trans (retains_foldl_settle _ _ _)

theorem retains_receive {id : Nat} {b' : Broker} {d : Option Delivery}
    (received : b.receive id = some (b', d)) : Retains b b' := by
  unfold receive at received
  split at received
  · cases received
    exact .refl b
  · split at received
    · cases received
      exact retains_modifyChannel b id _
    · split at received
      · cases received
      · cases received
        exact .refl b

theorem retains_acknowledge (sub : String) (p : Pending) : Retains b (b.acknowledge sub p).1 :=
  (retains_modifySubscription b sub fun _ => by exact ⟨rfl, rfl⟩).trans (retains_pump _ _)

theorem retains_deadLetter (sub : String) (p : Pending) (topic : String) :
    Retains b (b.deadLetter sub p topic).1 := by
  have recorded := retains_modifySubscription b sub (f := (·.giveUp p)) fun _ => ⟨rfl, rfl⟩
  rw [deadLetter_eq]
  refine recorded.trans ?_
  unfold forwardDeadLetter
  dsimp only
  -- the copy goes to the dead-letter topic, if it exists, and its subscriptions lease
  have copied := retains_append (b.modifySubscription sub (·.giveUp p)) topic p.message.data
    (putAttribute deadLetterSourceAttribute sub p.message.attributes) none
  split
  · next appended =>
    rw [appended] at copied
    exact (copied.trans (retains_pumpAll _ _)).trans (retains_pump _ _)
  · next appended =>
    rw [appended] at copied
    exact copied.trans (retains_pump _ _)

theorem retains_beginBackoff (sub : String) : Retains b (b.beginBackoff sub).1 :=
  (retains_modifySubscription b sub fun _ => by exact ⟨rfl, rfl⟩).trans (retains_pump _ _)

theorem retains_endBackoff (sub : String) (p : Pending) : Retains b (b.endBackoff sub p).1 :=
  (retains_modifySubscription b sub fun _ => by exact ⟨rfl, rfl⟩).trans (retains_pump _ _)

theorem retains_countTopicExists : Retains b b.countTopicExists := .of_eq rfl rfl rfl rfl

theorem retains_countSubscriptionExists : Retains b b.countSubscriptionExists :=
  .of_eq rfl rfl rfl rfl

theorem hasTopic_addTopic (name t : String) : (b.addTopic name).hasTopic t = (b.hasTopic t || name == t) := by
  by_cases same : name = t <;> cases found : b.topic? t <;>
    simp [hasTopic, topic?_addTopic, found, same]

theorem retains_addTopic (name : String) : Retains b (b.addTopic name) := by
  refine ⟨fun t present => by simp [hasTopic_addTopic, present], fun n => ?_, ?_, ?_⟩ <;>
    unfold addTopic <;> split <;> rfl

theorem retains_topicExists (name : String) : Retains b (b.topicExists name).1 := by
  unfold topicExists
  split
  · exact .refl b
  · split
    · exact (Retains.of_eq (by rfl) (by rfl) (by rfl) (by rfl)).trans (retains_addTopic _ _)
    · exact .refl b

/-! The two creations. -/

/-- Creating a topic counts the call, and then adds that topic at most. -/
theorem retains_createTopic (name : String) :
    Retains { b with counters := { b.counters with createTopic := b.counters.createTopic + 1 } }
      (b.createTopic name).1 := by
  unfold createTopic
  dsimp only
  split
  · exact .refl _
  · split
    · exact .refl _
    · exact retains_addTopic _ _

end Courier.Broker
