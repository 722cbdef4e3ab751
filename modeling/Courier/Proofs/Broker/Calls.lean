import Courier.Proofs.Broker.Shifts

namespace Courier

/-! # Every broker call behaves

Each broker call is built from a few kinds of change: leasing and queueing
(module `Shifts`), adding topics, attaching subscriptions other than `s`,
changing the channel of a subscription, changing other subscriptions, and
changing what no law reads (channels, reply slots, counters, faults). This
module shows that each call `Behaves` for every subscription `s` it does not
attach anew, composing those changes as the call does. -/

/-- What a subscription records when it gives up on a copy. -/
def SubscriptionState.giveUp (sub : SubscriptionState) (p : Pending) : SubscriptionState :=
  { sub.release p with deadLettered := sub.deadLettered ++ [p.message.messageId] }

namespace Broker

/-- The part of `deadLetter` after the subscription has recorded the copy:
append the copy to the dead-letter topic and fan it out, then lease again. -/
def forwardDeadLetter (b : Broker) (sub : String) (p : Pending) (topic : String) :
    Broker × List Notice :=
  let attributes := putAttribute deadLetterSourceAttribute sub p.message.attributes
  let (b, copied) := match b.append topic p.message.data attributes none with
    | (b, .ok (_, targets)) => b.pumpAll targets
    | (b, .error _) => (b, [])
  let (b, more) := b.pump sub
  (b, copied ++ more)

theorem deadLetter_eq (b : Broker) (sub : String) (p : Pending) (topic : String) :
    b.deadLetter sub p topic =
      (b.modifySubscription sub (·.giveUp p)).forwardDeadLetter sub p topic := rfl

variable {retryDelay : Option Duration} {s : String} (b : Broker)

/-! ## Topics -/

@[simp] theorem subscriptions_addTopic (name : String) :
    (b.addTopic name).subscriptions = b.subscriptions := by
  unfold addTopic
  split <;> rfl

@[simp] theorem nextId_addTopic (name : String) : (b.addTopic name).nextId = b.nextId := by
  unfold addTopic
  split <;> rfl

@[simp] theorem retryDelay_addTopic (name : String) :
    (b.addTopic name).retryDelay = b.retryDelay := by
  unfold addTopic
  split <;> rfl

theorem messagesOf_addTopic (name y : String) : (b.addTopic name).messagesOf y = b.messagesOf y := by
  unfold messagesOf
  rw [topic?_addTopic]
  cases b.topic? y with
  | some t => rfl
  | none => by_cases same : name = y <;> simp [same]

/-- A new topic names no subscription, and the topic of `s` exists already. -/
theorem addTopic_attached (name : String) (attached : Attached b s) :
    Attached (b.addTopic name) s := by
  have same : ∀ s, (b.addTopic name).subscription? s = b.subscription? s :=
    subscription?_of_subscriptions b (subscriptions_addTopic b name)
  have subscribed : ∀ x, (b.addTopic name).subscribedTo s x = b.subscribedTo s x := by
    intro x
    simp [subscribedTo, same]
  constructor
  · intro x t found
    rw [subscribed]
    rw [topic?_addTopic] at found
    cases old : b.topic? x with
    | some t' =>
      rw [old, Option.some_or, Option.some.injEq] at found
      subst found
      exact attached.count x _ old
    | none =>
      rw [old, Option.none_or] at found
      by_cases created : name = x
      · simp only [created, if_true, Option.some.injEq] at found
        subst found
        have notSubscribed : b.subscribedTo s x = false := by
          cases subFound : b.subscription? s with
          | none => simp [subscribedTo, subFound]
          | some sub =>
            have present := attached.topic sub subFound
            have elsewhere : sub.topic ≠ x := by
              intro equal
              simp [hasTopic, equal, old] at present
            simp [subscribedTo, subFound, elsewhere]
        simp [notSubscribed]
      · simp [created] at found
  · intro sub found
    rw [same] at found
    obtain ⟨t, topicFound⟩ := Option.isSome_iff_exists.1 (attached.topic sub found)
    simp [hasTopic, topic?_addTopic, topicFound]

theorem addTopic_behaves (name : String) : Behaves retryDelay s b (b.addTopic name, []) := by
  intro kept
  have same := subscription?_of_subscriptions b (subscriptions_addTopic b name) s
  refine ⟨⟨addTopic_attached b name kept.attached, ?_⟩, retryDelay_addTopic b name,
    Shifts.rest same (messagesOf_addTopic b name) rfl⟩
  intro y m member
  rw [messagesOf_addTopic] at member
  rw [nextId_addTopic]
  exact kept.numbered y m member

theorem createTopic_behaves (name : String) :
    Behaves retryDelay s b ((b.createTopic name).1, []) := by
  unfold createTopic
  simp only
  split
  · exact Behaves.rest rfl rfl rfl rfl rfl
  · split
    · exact Behaves.rest rfl rfl rfl rfl rfl
    · refine Behaves.after ?_ (addTopic_behaves _ name)
      exact Behaves.rest rfl rfl rfl rfl rfl

theorem topicExists_behaves (name : String) :
    Behaves retryDelay s b ((b.topicExists name).1, []) := by
  unfold topicExists
  split
  · exact Behaves.rest rfl rfl rfl rfl rfl
  · split
    · refine Behaves.after ?_ (addTopic_behaves _ name)
      exact Behaves.rest rfl rfl rfl rfl rfl
    · exact Behaves.rest rfl rfl rfl rfl rfl

/-! ## Attaching other subscriptions -/

theorem attach_behaves (name topic : String) (settings : SubscriptionSettings) (other : name ≠ s) :
    Behaves retryDelay s b
      (((b.modifyTopic topic fun t => { t with subscriptions := t.subscriptions ++ [name] }).putSubscription
        (.fresh name topic settings)), []) := by
  intro kept
  let attached := b.modifyTopic topic fun t => { t with subscriptions := t.subscriptions ++ [name] }
  have topics : ∀ x, (attached.putSubscription (.fresh name topic settings)).topic? x =
      if topic = x then (b.topic? x).map fun t => { t with subscriptions := t.subscriptions ++ [name] }
      else b.topic? x := by
    intro x
    rw [topic?_putSubscription]
    exact topic?_modifyTopic b topic x _ fun _ => rfl
  have same : (attached.putSubscription (.fresh name topic settings)).subscription? s =
      b.subscription? s := by
    rw [subscription?_putSubscription]
    simp [SubscriptionState.fresh, other]
    rfl
  have messages : ∀ x, (attached.putSubscription (.fresh name topic settings)).messagesOf x =
      b.messagesOf x := by
    intro x
    simp only [messagesOf, topics]
    split <;> simp [Option.map_map, Function.comp_def]
  have nextId : (attached.putSubscription (.fresh name topic settings)).nextId = b.nextId := by
    rw [nextId_putSubscription]
    rfl
  have delay : (attached.putSubscription (.fresh name topic settings)).retryDelay = b.retryDelay := by
    rw [retryDelay_putSubscription]
    rfl
  refine ⟨⟨?_, ?_⟩, delay, Shifts.rest same messages rfl⟩
  · apply kept.attached.of_shape _ (by rw [same])
    intro x
    rw [topics]
    split
    · cases b.topic? x <;> simp [List.count_append, other]
    · rfl
  · intro y m member
    rw [messages] at member
    show ∃ i ≤ (attached.putSubscription (.fresh name topic settings)).nextId, _
    rw [nextId]
    exact kept.numbered y m member

theorem dropSender_behaves (channel : Option Nat) :
    Behaves retryDelay s b (b.dropSender channel) :=
  Behaves.rest (topics_dropSender b channel) (subscriptions_dropSender b channel)
    (nextId_dropSender b channel) (retryDelay_dropSender b channel)
    (by simp [leasesFor, leasesOf_dropSender])

theorem addSubscription_behaves (name topic : String) (settings : SubscriptionSettings)
    (other : name ≠ s) : Behaves retryDelay s b (b.addSubscription name topic settings) := by
  unfold addSubscription
  split
  · exact Behaves.rest rfl rfl rfl rfl rfl
  · cases dropped : b.dropSender ((b.subscription? name).bind (·.sender)) with
    | mk b' gone =>
      have first : Behaves retryDelay s b (b', gone) := by
        rw [← dropped]
        exact dropSender_behaves b _
      simpa using first.trans (attach_behaves b' name topic settings other)

theorem createSubscription_behaves (name topic : String) (settings : SubscriptionSettings)
    (other : name ≠ s) :
    Behaves retryDelay s b ((b.createSubscription name topic settings).1, []) := by
  unfold createSubscription
  simp only
  split
  · exact Behaves.rest rfl rfl rfl rfl rfl
  · split
    · exact Behaves.rest rfl rfl rfl rfl rfl
    · split
      · exact Behaves.rest rfl rfl rfl rfl rfl
      · refine Behaves.after ?_ (attach_behaves _ name topic settings other)
        exact Behaves.rest rfl rfl rfl rfl rfl

/-! ## Changing subscriptions -/

@[simp] theorem messagesOf_modifySubscription (n : String) (f : SubscriptionState → SubscriptionState)
    (x : String) : (b.modifySubscription n f).messagesOf x = b.messagesOf x := rfl

theorem modifySubscription_steady (n : String) (f : SubscriptionState → SubscriptionState)
    (keeps : ∀ x, (f x).name = x.name ∧ (f x).topic = x.topic) :
    Steady b (b.modifySubscription n f) := by
  refine ⟨rfl, fun x => ?_, rfl, rfl⟩
  rw [subscription?_modifySubscription b n x f fun y => (keeps y).1]
  split
  · cases b.subscription? x <;> simp [keeps]
  · rfl

/-- Changing a subscription other than `s`, keeping its name and topic. -/
theorem modifySubscription_behaves {n : String} (other : n ≠ s)
    (f : SubscriptionState → SubscriptionState)
    (keeps : ∀ x, (f x).name = x.name ∧ (f x).topic = x.topic) :
    Behaves retryDelay s b (b.modifySubscription n f, []) := by
  have same : (b.modifySubscription n f).subscription? s = b.subscription? s := by
    rw [subscription?_modifySubscription b n s f fun y => (keeps y).1]
    simp [other]
  exact Behaves.of_steady (modifySubscription_steady b n f keeps)
    (Shifts.rest same (fun _ => rfl) rfl)

/-- Giving a subscription another channel, or none, and another lease limit. -/
theorem deliver_behaves (n : String) (sender : Option Nat) (limit : SubscriptionState → Nat) :
    Behaves retryDelay s b
      (b.modifySubscription n fun sub => { sub with sender := sender, maxOutstanding := limit sub },
        []) := by
  by_cases same : n = s
  · subst same
    apply Behaves.of_steady (modifySubscription_steady b n
      (fun sub => { sub with sender := sender, maxOutstanding := limit sub }) fun _ => ⟨rfl, rfl⟩)
    have after := subscription?_modifySubscription b n n
      (fun sub => { sub with sender := sender, maxOutstanding := limit sub }) fun _ => rfl
    rw [if_pos rfl] at after
    constructor
    · intro missing
      rw [after, missing]
      simp
    · intro sub found
      refine ⟨{ sub with sender := sender, maxOutstanding := limit sub }, [],
        by rw [after, found]; rfl, fun watches leases now => ?_⟩
      simpa using (Move.deliver ⟨sub, watches, leases, b.messagesOf sub.topic, now⟩ sender (limit sub) :
        Move retryDelay _ _ _).moves
  · exact modifySubscription_behaves b same _ fun _ => ⟨rfl, rfl⟩

theorem openDelivery_behaves (name : String) (limit : Nat) :
    Behaves retryDelay s b ((b.openDelivery name limit).1, (b.openDelivery name limit).2.2) := by
  unfold openDelivery
  split
  · exact Behaves.rest rfl rfl rfl rfl rfl
  · split
    · exact Behaves.rest rfl rfl rfl rfl rfl
    · simp only
      refine Behaves.after ?_ ((dropSender_behaves _ _).trans
        ((deliver_behaves _ name _ fun _ => limit.max 1).after (pump_behaves _ name)))
      exact Behaves.rest rfl rfl rfl rfl rfl

theorem close_behaves (name : String) :
    Behaves retryDelay s b ((b.close name).1, (b.close name).2.2) := by
  unfold close
  simp only
  split
  · exact Behaves.rest rfl rfl rfl rfl rfl
  · split
    · exact Behaves.rest rfl rfl rfl rfl rfl
    · split
      · exact Behaves.rest rfl rfl rfl rfl rfl
      · refine Behaves.after ?_ ((dropSender_behaves _ _).trans_nil
          (deliver_behaves _ name none fun sub => sub.maxOutstanding))
        exact Behaves.rest rfl rfl rfl rfl rfl

theorem flush_behaves (topic : String) : Behaves retryDelay s b ((b.flush topic).1, []) := by
  unfold flush
  simp only
  split
  · exact Behaves.rest rfl rfl rfl rfl rfl
  · split
    · exact Behaves.rest rfl rfl rfl rfl rfl
    · split <;> exact Behaves.rest rfl rfl rfl rfl rfl

/-! ## The consumer's end and reply slots -/

theorem settle_behaves (slot : Nat) (reply : Reply) : Behaves retryDelay s b (b.settle slot reply) := by
  unfold settle
  split <;> exact Behaves.rest rfl rfl rfl rfl rfl

theorem dropReceiver_behaves (channel : Nat) :
    Behaves retryDelay s b (b.dropReceiver channel) := by
  unfold dropReceiver
  split
  · exact Behaves.rest rfl rfl rfl rfl rfl
  · -- the buffered deliveries are settled as dropped, one after another
    have settled : ∀ (ds : List Delivery) (b' : Broker) (ns : List Notice),
        Behaves retryDelay s b (b', ns) →
        Behaves retryDelay s b (ds.foldl (fun (b, ns) d =>
          let (b, more) := b.settle d.slot .dropped; (b, ns ++ more)) (b', ns)) := by
      intro ds
      induction ds with
      | nil => exact fun _ _ behaves => behaves
      | cons d ds induction =>
        intro b' ns behaves
        exact induction _ _ (behaves.trans (settle_behaves b' d.slot .dropped))
    exact settled _ _ _ (Behaves.rest rfl rfl rfl rfl rfl)

theorem receive_behaves {channel : Nat} {b' : Broker} {item : Option Delivery}
    (received : b.receive channel = some (b', item)) : Behaves retryDelay s b (b', []) := by
  unfold receive at received
  split at received
  · cases received
    exact Behaves.rest rfl rfl rfl rfl rfl
  · split at received
    · cases received
      exact Behaves.rest rfl rfl rfl rfl rfl
    · split at received
      · cases received
      · cases received
        exact Behaves.rest rfl rfl rfl rfl rfl

/-! ## Settling leases of other subscriptions -/

theorem forwardDeadLetter_behaves (sub : String) (p : Pending) (topic : String) :
    Behaves retryDelay s b (b.forwardDeadLetter sub p topic) := by
  unfold forwardDeadLetter
  simp only
  have appended : Behaves retryDelay s b ((b.append topic p.message.data
      (putAttribute deadLetterSourceAttribute sub p.message.attributes) none).1, []) :=
    append_behaves b topic p.message.data _ none
  split
  · rename_i b' id targets result
    rw [result] at appended
    exact (appended.after (pumpAll_behaves b' targets)).trans (pump_behaves _ sub)
  · rename_i b' e result
    rw [result] at appended
    simpa using appended.after (pump_behaves b' sub)

section Others

variable {n : String} (other : n ≠ s) (p : Pending)
include other

theorem acknowledge_behaves : Behaves retryDelay s b (b.acknowledge n p) := by
  refine Behaves.after ?_ (pump_behaves _ n)
  exact modifySubscription_behaves b other _ fun _ => ⟨rfl, rfl⟩

theorem beginBackoff_behaves : Behaves retryDelay s b (b.beginBackoff n) := by
  refine Behaves.after ?_ (pump_behaves _ n)
  exact modifySubscription_behaves b other _ fun _ => ⟨rfl, rfl⟩

theorem endBackoff_behaves : Behaves retryDelay s b (b.endBackoff n p) := by
  refine Behaves.after ?_ (pump_behaves _ n)
  exact modifySubscription_behaves b other _ fun _ => ⟨rfl, rfl⟩

theorem deadLetter_behaves (topic : String) : Behaves retryDelay s b (b.deadLetter n p topic) := by
  rw [deadLetter_eq]
  refine Behaves.after ?_ (forwardDeadLetter_behaves _ n p topic)
  exact modifySubscription_behaves b other _ fun _ => ⟨rfl, rfl⟩

end Others

/-! ## Attaching `s` itself -/

/-- Attaching `s`, missing so far, to an existing topic: it gets a fresh state and
is attached once, to that topic. -/
theorem attachSelf_kept (topic : String) (settings : SubscriptionSettings) (kept : Kept b s)
    (missing : b.subscription? s = none) (present : b.hasTopic topic) :
    let b' := (b.modifyTopic topic fun t => { t with subscriptions := t.subscriptions ++ [s] }).putSubscription
      (.fresh s topic settings)
    Kept b' s ∧ b'.subscription? s = some (.fresh s topic settings) ∧ b'.retryDelay = b.retryDelay ∧
      ∀ x, b'.messagesOf x = b.messagesOf x := by
  intro b'
  have topics : ∀ x, b'.topic? x =
      if topic = x then (b.topic? x).map fun t => { t with subscriptions := t.subscriptions ++ [s] }
      else b.topic? x := by
    intro x
    rw [topic?_putSubscription]
    exact topic?_modifyTopic b topic x _ fun _ => rfl
  have found : b'.subscription? s = some (.fresh s topic settings) := by
    rw [subscription?_putSubscription]
    simp [SubscriptionState.fresh]
  have messages : ∀ x, b'.messagesOf x = b.messagesOf x := by
    intro x
    simp only [messagesOf, topics]
    split <;> simp [Option.map_map, Function.comp_def]
  have nextId : b'.nextId = b.nextId := by
    rw [nextId_putSubscription]
    rfl
  refine ⟨⟨⟨fun x t' found' => ?_, fun sub found' => ?_⟩, fun y m member => ?_⟩, found,
    by rw [retryDelay_putSubscription]; rfl, messages⟩
  · have subscribed : b'.subscribedTo s x = (topic == x) := by
      simp [subscribedTo, found, SubscriptionState.fresh]
    rw [subscribed]
    rw [topics] at found'
    have before : ∀ t, b.topic? x = some t → t.subscriptions.count s = 0 := by
      intro t old
      rw [kept.attached.count x t old]
      simp [subscribedTo, missing]
    by_cases same : topic = x
    · simp only [same, if_true, Option.map_eq_some_iff] at found'
      obtain ⟨t, old, rfl⟩ := found'
      simp [before t old, same]
    · simp only [same, if_false] at found'
      simp [before t' found', same]
  · rw [found] at found'
    cases found'
    obtain ⟨t, old⟩ := Option.isSome_iff_exists.1 present
    simp [hasTopic, topics, old, SubscriptionState.fresh]
  · rw [messages] at member
    rw [nextId]
    exact kept.numbered y m member

end Broker

end Courier
