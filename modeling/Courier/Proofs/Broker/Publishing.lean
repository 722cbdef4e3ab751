import Courier.Proofs.Broker.Conservation
import Mathlib.Data.Fintype.EquivFin

namespace Courier.Broker

/-! # A publish stores one message and queues one copy per attachment

A publish that answers an identifier stores its message on the topic under an
identifier given out for the first time, and queues one copy on each
subscription attached to the topic; a subscription that no call re-registered is
attached once, to its own topic. A publish that fails stores and queues nothing,
and only its attempt is counted, except that a publish to a missing topic still
uses up an identifier and one success of the topic's budget. A budget of `n`
successes lets the next `n` publishes that reach it through and refuses every
later one. -/

/-- The broker with one more attempt of publishing to a topic counted. -/
def countPublish (b : Broker) (x : String) : Broker :=
  { b with counters := { b.counters with
      publish := (b.counters.publish.filter fun (p : String × Nat) => p.1 != x) ++
        [(x, (b.counters.publish.lookup x).getD 0 + 1)] } }

/-- The broker with `n` successes left in the budget of a topic. -/
def spendBudget (b : Broker) (x : String) (n : Nat) : Broker :=
  { b with faults := { b.faults with
      publish := b.faults.publish.map fun (t, k) => if t == x then (t, n) else (t, k) } }

/-- The successes left before publishes to a topic fail, none when unlimited. -/
def budget (b : Broker) (x : String) : Option Nat := b.faults.publish.lookup x

section Cases

variable (b : Broker) (x : String) (data : ByteArray) (attributes : List (String × String))
  (orderingKey : Option String)

theorem publish_of_unavailable (off : b.faults.unavailable = true) :
    b.publish x data attributes orderingKey =
      (b.countPublish x, .error (.unavailable "in-memory broker offline"), []) := by
  simp [publish, countPublish, checkAvailable, off]

theorem publish_of_spent (on : b.faults.unavailable = false) (spent : b.budget x = some 0) :
    b.publish x data attributes orderingKey =
      (b.countPublish x, .error (.rejected ("publish to " ++ x ++ " refused")), []) := by
  simp only [budget] at spent
  simp [publish, countPublish, checkAvailable, on, spent]

theorem publish_of_budget {n : Nat} (on : b.faults.unavailable = false)
    (left : b.budget x = some (n + 1)) :
    b.publish x data attributes orderingKey =
      ((b.countPublish x).spendBudget x n).appendAndPump x data attributes orderingKey := by
  simp only [budget] at left
  simp [publish, countPublish, spendBudget, checkAvailable, on, left]

theorem publish_of_unlimited (on : b.faults.unavailable = false) (free : b.budget x = none) :
    b.publish x data attributes orderingKey =
      (b.countPublish x).appendAndPump x data attributes orderingKey := by
  simp only [budget] at free
  simp [publish, countPublish, checkAvailable, on, free]

end Cases

/-! ## Lookups in tables of topics -/

theorem lookup_filter_of_ne (l : List (String × Nat)) {x y : String} (other : y ≠ x) :
    (l.filter fun p => p.1 != x).lookup y = l.lookup y := by
  induction l with
  | nil => rfl
  | cons p rest induction =>
    obtain ⟨k, v⟩ := p
    by_cases hit : k = x
    · subst hit
      have miss : (y == k) = false := by simp [other]
      simp [List.lookup_cons, miss, induction]
    · simp [hit, List.lookup_cons, induction]

theorem lookup_filter_self (l : List (String × Nat)) (x : String) :
    (l.filter fun p => p.1 != x).lookup x = none := by
  induction l with
  | nil => rfl
  | cons p rest induction =>
    obtain ⟨k, v⟩ := p
    by_cases hit : k = x
    · simp [hit, induction]
    · have miss : (x == k) = false := by simp [Ne.symm hit]
      simp [hit, List.lookup_cons, miss, induction]

/-! ## Storing and queueing -/

/-- What a call that stores a message on topic `x` does, read off its outcome: an
answered identifier is the next one and the topic exists, and the message is
stored under it on `x` and on no other topic; a failure leaves every topic and
every backlog as they were, and uses up an identifier only when the topic is
missing. -/
structure Stores (b : Broker) (x : String) (data : ByteArray) (attributes : List (String × String))
    (orderingKey : Option String) (result : Broker × Except GatewayError String × List Notice) :
    Prop where
  answered : ∀ id, result.2.1 = .ok id → id = digitString (b.nextId + 1) ∧ b.hasTopic x
  stored : ∀ id, result.2.1 = .ok id → ∀ y,
    result.1.messagesOf y = b.messagesOf y ++ if y = x then [⟨id, data, attributes, orderingKey⟩] else []
  unchanged : ∀ e, result.2.1 = .error e →
    (∀ y, result.1.messagesOf y = b.messagesOf y) ∧
      ∀ s, (result.1.subscription? s).map (·.backlog) = (b.subscription? s).map (·.backlog)
  numbered : ∀ e, result.2.1 = .error e → result.1.nextId = b.nextId + if e = .notFound x then 1 else 0

section Appending

variable (b : Broker) (x : String) (data : ByteArray) (attributes : List (String × String))
  (orderingKey : Option String)

theorem appendAndPump_of_missing (missing : b.topic? x = none) :
    b.appendAndPump x data attributes orderingKey =
      ({ b with nextId := b.nextId + 1 }, .error (.notFound x), []) := by
  simp [appendAndPump, append_of_missing b missing]

theorem appendAndPump_of_found {t : TopicState} (found : b.topic? x = some t) :
    b.appendAndPump x data attributes orderingKey =
      (((b.append x data attributes orderingKey).1.pumpAll t.subscriptions).1,
        .ok (digitString (b.nextId + 1)),
        ((b.append x data attributes orderingKey).1.pumpAll t.subscriptions).2) := by
  have answer : (b.append x data attributes orderingKey).2 =
      .ok (digitString (b.nextId + 1), t.subscriptions) := by
    rw [append_of_found b found]
    rfl
  unfold appendAndPump
  cases appended : b.append x data attributes orderingKey with
  | mk b' outcome =>
    rw [appended] at answer
    cases answer
    rfl

theorem appendAndPump_stores : Stores b x data attributes orderingKey
    (b.appendAndPump x data attributes orderingKey) := by
  cases found : b.topic? x with
  | none =>
    rw [appendAndPump_of_missing b x data attributes orderingKey found]
    constructor
    · intro _ answered
      cases answered
    · intro _ answered
      cases answered
    · exact fun _ _ => ⟨fun _ => rfl, fun _ => rfl⟩
    · intro _ failed
      cases failed
      simp
  | some t =>
    rw [appendAndPump_of_found b x data attributes orderingKey found]
    have present : b.hasTopic x = true := by simp [hasTopic, found]
    constructor
    · intro id answered
      cases answered
      exact ⟨rfl, present⟩
    · intro id answered y
      cases answered
      rw [messagesOf_of_topics (pumpAll_steady _ _).topics, messagesOf_append]
      by_cases same : y = x
      · subst same
        simp [present, nextMessage]
      · simp [same, Ne.symm same]
    · intro _ failed
      cases failed
    · intro _ failed
      cases failed

end Appending

/-! ## What storing leaves alone

Leasing, appending and the bookkeeping of subscriptions and channels touch
neither the counters of calls nor the simulated faults. -/

section Frame

variable (b : Broker)

@[simp] theorem faults_putSubscription (t : SubscriptionState) : (b.putSubscription t).faults = b.faults := by
  unfold putSubscription
  split <;> rfl

@[simp] theorem counters_putSubscription (t : SubscriptionState) :
    (b.putSubscription t).counters = b.counters := by
  unfold putSubscription
  split <;> rfl

@[simp] theorem faults_dropSender (channel : Option Nat) : (b.dropSender channel).1.faults = b.faults := by
  unfold dropSender
  split
  · rfl
  · split
    · split <;> rfl
    · rfl

@[simp] theorem counters_dropSender (channel : Option Nat) :
    (b.dropSender channel).1.counters = b.counters := by
  unfold dropSender
  split
  · rfl
  · split
    · split <;> rfl
    · rfl

@[simp] theorem faults_pump (n : String) : (b.pump n).1.faults = b.faults := by
  unfold pump
  split
  · rfl
  · split
    · rfl
    · simp only
      split <;> simp [modifyChannel]

@[simp] theorem counters_pump (n : String) : (b.pump n).1.counters = b.counters := by
  unfold pump
  split
  · rfl
  · split
    · rfl
    · simp only
      split <;> simp [modifyChannel]

@[simp] theorem faults_pumpAll (names : List String) : (b.pumpAll names).1.faults = b.faults := by
  induction names generalizing b with
  | nil => rfl
  | cons n names induction => rw [pumpAll_cons, induction, faults_pump]

@[simp] theorem counters_pumpAll (names : List String) :
    (b.pumpAll names).1.counters = b.counters := by
  induction names generalizing b with
  | nil => rfl
  | cons n names induction => rw [pumpAll_cons, induction, counters_pump]

variable (x : String) (data : ByteArray) (attributes : List (String × String))
  (orderingKey : Option String)

@[simp] theorem faults_queueOn (m : StoredMessage) (names : List String) :
    (b.queueOn m names).faults = b.faults := by
  induction names generalizing b with
  | nil => rfl
  | cons head tail induction => exact induction _

@[simp] theorem counters_queueOn (m : StoredMessage) (names : List String) :
    (b.queueOn m names).counters = b.counters := by
  induction names generalizing b with
  | nil => rfl
  | cons head tail induction => exact induction _

@[simp] theorem faults_append : (b.append x data attributes orderingKey).1.faults = b.faults := by
  cases found : b.topic? x with
  | none => rw [append_of_missing b found]
  | some t => simp [append_of_found b found, store, modifyTopic]

@[simp] theorem counters_append : (b.append x data attributes orderingKey).1.counters = b.counters := by
  cases found : b.topic? x with
  | none => rw [append_of_missing b found]
  | some t => simp [append_of_found b found, store, modifyTopic]

@[simp] theorem faults_appendAndPump :
    (b.appendAndPump x data attributes orderingKey).1.faults = b.faults := by
  cases found : b.topic? x with
  | none => rw [appendAndPump_of_missing b x data attributes orderingKey found]
  | some t => simp [appendAndPump_of_found b x data attributes orderingKey found]

@[simp] theorem counters_appendAndPump :
    (b.appendAndPump x data attributes orderingKey).1.counters = b.counters := by
  cases found : b.topic? x with
  | none => rw [appendAndPump_of_missing b x data attributes orderingKey found]
  | some t => simp [appendAndPump_of_found b x data attributes orderingKey found]

@[simp] theorem faults_settle (slot : Nat) (reply : Reply) : (b.settle slot reply).1.faults = b.faults := by
  unfold settle
  split <;> rfl

theorem faults_foldl_settle (items : List Delivery) (acc : Broker × List Notice) :
    (items.foldl (fun (b, ns) d => let (b, more) := b.settle d.slot .dropped; (b, ns ++ more)) acc).1.faults =
      acc.1.faults := by
  induction items generalizing acc with
  | nil => rfl
  | cons d rest induction =>
    obtain ⟨b, ns⟩ := acc
    rw [List.foldl_cons, induction, faults_settle]

@[simp] theorem faults_dropReceiver (channel : Nat) : (b.dropReceiver channel).1.faults = b.faults := by
  unfold dropReceiver
  split
  · rfl
  · rw [faults_foldl_settle]
    rfl

@[simp] theorem faults_addSubscription (name topic : String) (settings : SubscriptionSettings) :
    (b.addSubscription name topic settings).1.faults = b.faults := by
  unfold addSubscription
  split
  · rfl
  · simp [modifyTopic]

@[simp] theorem faults_openDelivery (name : String) (limit : Nat) :
    (b.openDelivery name limit).1.faults = b.faults := by
  unfold openDelivery
  split
  · rfl
  · split
    · rfl
    · simp [modifySubscription]

@[simp] theorem faults_close (name : String) : (b.close name).1.faults = b.faults := by
  unfold close
  dsimp only
  split
  · rfl
  · split
    · rfl
    · split
      · rfl
      · simp [modifySubscription]

@[simp] theorem faults_addTopic (name : String) : (b.addTopic name).faults = b.faults := by
  unfold addTopic
  split <;> rfl

@[simp] theorem faults_createTopic (name : String) : (b.createTopic name).1.faults = b.faults := by
  unfold createTopic
  dsimp only
  split
  · rfl
  · split <;> simp

@[simp] theorem faults_createSubscription (name topic : String) (settings : SubscriptionSettings) :
    (b.createSubscription name topic settings).1.faults = b.faults := by
  unfold createSubscription
  dsimp only
  split
  · rfl
  · split
    · rfl
    · split
      · rfl
      · simp [modifyTopic]

@[simp] theorem faults_flush (topic : String) : (b.flush topic).1.faults = b.faults := by
  unfold flush
  dsimp only
  split
  · rfl
  · split
    · rfl
    · split <;> rfl

/-- A racing topic leaves its list at the existence check; no other fault moves. -/
@[simp] theorem faults_publish_topicExists (name : String) :
    (b.topicExists name).1.faults.publish = b.faults.publish := by
  unfold topicExists
  split
  · rfl
  · split
    · simp
    · rfl

variable (n : String) (p : Pending)

@[simp] theorem faults_acknowledge : (b.acknowledge n p).1.faults = b.faults := by
  simp [acknowledge, modifySubscription]

@[simp] theorem faults_beginBackoff : (b.beginBackoff n).1.faults = b.faults := by
  simp [beginBackoff, modifySubscription]

@[simp] theorem faults_endBackoff : (b.endBackoff n p).1.faults = b.faults := by
  simp [endBackoff, modifySubscription]

@[simp] theorem faults_deadLetter (topic : String) : (b.deadLetter n p topic).1.faults = b.faults := by
  unfold deadLetter
  dsimp only
  split
  · rename_i appended
    have same := congrArg (fun r => r.1.faults) appended
    simp only [faults_append] at same
    simp [← same, modifySubscription]
  · rename_i appended
    have same := congrArg (fun r => r.1.faults) appended
    simp only [faults_append] at same
    simp [← same, modifySubscription]

end Frame

/-! ## Publishing through a handle -/

/-- Counting an attempt or spending the budget changes nothing a store reads. -/
theorem Stores.of_bookkeeping {b b₀ : Broker} {x : String} {data : ByteArray}
    {attributes : List (String × String)} {orderingKey : Option String} {result : Broker × Except GatewayError String × List Notice}
    (stores : Stores b₀ x data attributes orderingKey result) (topics : b₀.topics = b.topics)
    (subscriptions : b₀.subscriptions = b.subscriptions) (nextId : b₀.nextId = b.nextId) :
    Stores b x data attributes orderingKey result := by
  have messages : ∀ y, b₀.messagesOf y = b.messagesOf y := messagesOf_of_topics topics
  have present : b₀.hasTopic x = b.hasTopic x := by simp [hasTopic, topic?_of_topics b topics]
  refine ⟨fun id answered => ?_, fun id answered y => ?_, fun e failed => ?_, fun e failed => ?_⟩
  · rw [← nextId, ← present]
    exact stores.answered id answered
  · rw [← messages]
    exact stores.stored id answered y
  · obtain ⟨kept, backlogs⟩ := stores.unchanged e failed
    refine ⟨fun y => (kept y).trans (messages y), fun s => ?_⟩
    rw [backlogs, subscription?_of_subscriptions b subscriptions]
  · rw [← nextId]
    exact stores.numbered e failed


section Publishing

variable (b : Broker) (x : String) (data : ByteArray) (attributes : List (String × String))
  (orderingKey : Option String)

/-- A failure before anything is stored changes only the count of attempts. -/
theorem countPublish_stores (e : GatewayError) (notMissing : e ≠ .notFound x) :
    Stores b x data attributes orderingKey (b.countPublish x, .error e, []) := by
  refine ⟨fun _ answered => ?_, fun _ answered => ?_, fun _ _ => ⟨fun _ => rfl, fun _ => rfl⟩,
    fun e' failed => ?_⟩
  · cases answered
  · cases answered
  · cases failed
    simp [countPublish, notMissing]

theorem publish_stores : Stores b x data attributes orderingKey (b.publish x data attributes orderingKey) := by
  cases off : b.faults.unavailable
  · cases left : b.budget x with
    | none =>
      rw [publish_of_unlimited b x data attributes orderingKey off left]
      exact (appendAndPump_stores _ x data attributes orderingKey).of_bookkeeping rfl rfl rfl
    | some n =>
      cases n with
      | zero =>
        rw [publish_of_spent b x data attributes orderingKey off left]
        exact countPublish_stores b x data attributes orderingKey _ (by simp)
      | succ n =>
        rw [publish_of_budget b x data attributes orderingKey off left]
        exact (appendAndPump_stores _ x data attributes orderingKey).of_bookkeeping rfl rfl rfl
  · rw [publish_of_unavailable b x data attributes orderingKey off]
    exact countPublish_stores b x data attributes orderingKey _ (by simp)

theorem publishRaw_stores : Stores b x data attributes none (b.publishRaw x data attributes) :=
  appendAndPump_stores b x data attributes none

theorem appendAndPump_failed {e : GatewayError}
    (failed : (b.appendAndPump x data attributes orderingKey).2.1 = .error e) : e = .notFound x := by
  cases found : b.topic? x with
  | none =>
    rw [appendAndPump_of_missing b x data attributes orderingKey found] at failed
    cases failed
    rfl
  | some t =>
    rw [appendAndPump_of_found b x data attributes orderingKey found] at failed
    cases failed

/-- A failure other than a missing topic leaves the broker as it was, but for one
more attempt counted. -/
theorem publish_counted (e : GatewayError) (failed : (b.publish x data attributes orderingKey).2.1 = .error e)
    (notMissing : e ≠ .notFound x) : (b.publish x data attributes orderingKey).1 = b.countPublish x := by
  cases off : b.faults.unavailable
  · cases left : b.budget x with
    | none =>
      rw [publish_of_unlimited b x data attributes orderingKey off left] at failed
      exact absurd (appendAndPump_failed _ x data attributes orderingKey failed) notMissing
    | some n =>
      cases n with
      | zero => rw [publish_of_spent b x data attributes orderingKey off left]
      | succ n =>
        rw [publish_of_budget b x data attributes orderingKey off left] at failed
        exact absurd (appendAndPump_failed _ x data attributes orderingKey failed) notMissing
  · rw [publish_of_unavailable b x data attributes orderingKey off]

theorem lookup_countPublish (y : String) :
    ((b.countPublish x).counters.publish.lookup y).getD 0 =
      (b.counters.publish.lookup y).getD 0 + if y = x then 1 else 0 := by
  simp only [countPublish, List.lookup_append]
  by_cases same : y = x
  · subst same
    simp [lookup_filter_self]
  · have other : (y == x) = false := by simp [same]
    simp [lookup_filter_of_ne _ same, List.lookup_cons, other, same]

/-- Every publish through a handle counts one attempt of its topic and no other. -/
theorem publish_attempts (y : String) :
    (((b.publish x data attributes orderingKey).1.counters.publish.lookup y)).getD 0 =
      (b.counters.publish.lookup y).getD 0 + if y = x then 1 else 0 := by
  rw [← lookup_countPublish b x y]
  cases off : b.faults.unavailable
  · cases left : b.budget x with
    | none => simp [publish_of_unlimited b x data attributes orderingKey off left]
    | some n =>
      cases n with
      | zero => simp [publish_of_spent b x data attributes orderingKey off left]
      | succ n => simp [publish_of_budget b x data attributes orderingKey off left, spendBudget]
  · simp [publish_of_unavailable b x data attributes orderingKey off]

end Publishing

/-! ## The budget of successes -/

theorem lookup_spend (l : List (String × Nat)) (x y : String) (n : Nat) :
    (l.map fun (t, k) => if t == x then (t, n) else (t, k)).lookup y =
      if y = x then (l.lookup x).map fun _ => n else l.lookup y := by
  induction l with
  | nil => split <;> rfl
  | cons p rest induction =>
    obtain ⟨k, v⟩ := p
    rw [List.map_cons]
    dsimp only
    rw [List.lookup_cons, List.lookup_cons, List.lookup_cons]
    by_cases hit : k = x
    · subst hit
      by_cases same : y = k
      · subst same
        simp
      · simp only [beq_self_eq_true, if_true, beq_false_of_ne same, induction, same, if_false]
    · have other : (k == x) = false := beq_false_of_ne hit
      simp only [other, Bool.false_eq_true, if_false]
      by_cases same : y = k
      · subst same
        simp [hit]
      · have far : (x == k) = false := beq_false_of_ne (Ne.symm hit)
        simp only [beq_false_of_ne same, far]
        exact induction

section Budget

variable (b : Broker) (x y : String) (data : ByteArray) (attributes : List (String × String))
  (orderingKey : Option String)

@[simp] theorem budget_failPublishAfter (n : Nat) : (b.failPublishAfter x n).budget x = some n := by
  simp only [budget, failPublishAfter, List.lookup_append, lookup_filter_self]
  simp

/-- With the broker available, a publish is refused exactly when the budget of
its topic is used up. -/
theorem publish_refused_iff (on : b.faults.unavailable = false) {n : Nat} (left : b.budget x = some n) :
    (b.publish x data attributes orderingKey).2.1 = .error (.rejected ("publish to " ++ x ++ " refused")) ↔
      n = 0 := by
  cases n with
  | zero => simp [publish_of_spent b x data attributes orderingKey on left]
  | succ n =>
    rw [publish_of_budget b x data attributes orderingKey on left]
    refine ⟨fun failed => ?_, fun never => absurd never (Nat.succ_ne_zero n)⟩
    cases appendAndPump_failed _ x data attributes orderingKey failed

@[simp] theorem budget_countPublish : (b.countPublish x).budget y = b.budget y := rfl

theorem budget_spendBudget (n : Nat) :
    (b.spendBudget x n).budget y = if y = x then (b.budget x).map fun _ => n else b.budget y :=
  lookup_spend _ x y n

@[simp] theorem budget_appendAndPump :
    (b.appendAndPump x data attributes orderingKey).1.budget y = b.budget y := by
  simp [budget]

/-- A publish to `x` made while the broker is available uses up one success of
the budget of `x`, whether or not the topic exists; no publish touches the
budget of another topic. -/
theorem budget_publish :
    (b.publish x data attributes orderingKey).1.budget y =
      if x = y ∧ b.faults.unavailable = false then (b.budget y).map Nat.pred else b.budget y := by
  cases off : b.faults.unavailable
  · cases left : b.budget x with
    | none =>
      rw [publish_of_unlimited b x data attributes orderingKey off left]
      by_cases same : x = y
      · subst same
        simp [left]
      · simp [same]
    | some n =>
      cases n with
      | zero =>
        rw [publish_of_spent b x data attributes orderingKey off left]
        by_cases same : x = y
        · subst same
          simp [left]
        · simp [same]
      | succ n =>
        rw [publish_of_budget b x data attributes orderingKey off left]
        by_cases same : x = y
        · subst same
          simp [budget_spendBudget, left]
        · simp [budget_spendBudget, same, Ne.symm same]
  · rw [publish_of_unavailable b x data attributes orderingKey off]
    simp

end Budget

/-! ## Along runs -/

namespace Call

/-- Whether a call publishes to topic `x` through its handle. -/
def publishesTo (x : String) : Call → Bool
  | .publish t _ _ _ => t == x
  | _ => false

/-- Whether a call sets a new budget of successes for topic `x`. -/
def budgets (x : String) : Call → Bool
  | .failPublishAfter t _ => t == x
  | _ => false

end Call

namespace System

/-- The names under which the calls of a run add subscriptions out of band. -/
def addedNames (calls : List Call) : List String :=
  calls.filterMap fun
    | .addSubscription name _ _ => some name
    | _ => none

/-- A name that no call adds a subscription under is never re-registered. -/
theorem keeps_of_not_added {s : String} {calls : List Call} (notAdded : s ∉ addedNames calls)
    (σ : System) : keeps s σ calls = true := by
  induction calls generalizing σ with
  | nil => rfl
  | cons c cs induction =>
    have rest : s ∉ addedNames cs := fun member =>
      notAdded (((List.sublist_cons_self c cs).filterMap _).subset member)
    have fresh : σ.reregisters s c = false := by
      cases c with
      | addSubscription name topic settings =>
        have other : name ≠ s := fun same => notAdded (by simp [addedNames, same])
        simp [reregisters, other]
      | _ => rfl
    simp [keeps, fresh, induction rest]

/-- Every message stored along a run carries an identifier given out already. -/
theorem run_numbered (retryDelay : Option Duration) (calls : List Call) :
    Numbered ((start retryDelay).run calls).broker := by
  -- a subscription that no call adds is tracked along the run, and tracking
  -- carries the numbering
  obtain ⟨s, notAdded⟩ := Infinite.exists_notMem_finset (addedNames calls).toFinset
  have keeps := keeps_of_not_added (s := s) (by simpa using notAdded) (start retryDelay)
  exact (run_moves (start_tracked retryDelay s) calls keeps).1.kept.numbered

/-! ### The budget along a run -/

/-- Whether a call uses up one success of the budget of `x`: it publishes to `x`
while the broker is available. -/
def spends (σ : System) (x : String) (c : Call) : Bool :=
  c.publishesTo x && !σ.broker.faults.unavailable

/-- How many calls of a run use up a success of the budget of `x`. -/
def spent (x : String) : System → List Call → Nat
  | _, [] => 0
  | σ, c :: cs => (if σ.spends x c then 1 else 0) + spent x (σ.apply c) cs

theorem afterRefusal_faults (σ : System) (task : Nat) (l : Lease) (b : Broker) :
    (σ.afterRefusal task l b).broker.faults = b.faults := by
  unfold afterRefusal
  split <;> rfl

/-- Every call but a publish to `x` and a new budget for `x` leaves the budget of
`x`; a publish to `x` while the broker is available uses up one success. -/
theorem budget_apply (σ : System) (x : String) (c : Call) (steady : c.budgets x = false) :
    (σ.apply c).broker.budget x =
      if σ.spends x c then (σ.broker.budget x).map Nat.pred else σ.broker.budget x := by
  cases c with
  | publish t data attributes key =>
    simp [apply, absorb, spends, Call.publishesTo, budget_publish]
  | failPublishAfter t n =>
    have other : x ≠ t := fun same => by simp [Call.budgets, same] at steady
    simp only [apply, alter, spends, Call.publishesTo, Bool.false_and, Bool.false_eq_true, if_false,
      budget, failPublishAfter, List.lookup_append, lookup_filter_of_ne _ other]
    cases σ.broker.faults.publish.lookup x <;> simp [List.lookup_cons, beq_false_of_ne other]
  | receive channel =>
    simp only [apply, spends, Call.publishesTo, Bool.false_and, Bool.false_eq_true, if_false]
    split
    · rename_i received
      simp only [receive] at received
      split at received
      · cases received
        rfl
      · split at received
        · cases received
          simp [alter, budget, modifyChannel]
        · split at received
          · cases received
          · cases received
            rfl
    · rfl
  | answer task acknowledged =>
    simp only [apply, spends, Call.publishesTo, Bool.false_and, Bool.false_eq_true, if_false]
    split
    · split
      · simp [absorb, dropWatch, budget, forgetSlot]
      · simp [budget, afterRefusal_faults, forgetSlot]
    · rfl
  | giveUp task =>
    simp only [apply, spends, Call.publishesTo, Bool.false_and, Bool.false_eq_true, if_false]
    split
    · simp [absorb, dropWatch, budget]
    · rfl
  | releaseLease task =>
    simp only [apply, spends, Call.publishesTo, Bool.false_and, Bool.false_eq_true, if_false]
    split
    · simp [absorb, moveWatch, budget]
    · rfl
  | requeue task =>
    simp only [apply, spends, Call.publishesTo, Bool.false_and, Bool.false_eq_true, if_false]
    split
    · split
      · simp [absorb, dropWatch, budget]
      · rfl
    · rfl
  | _ =>
    simp [apply, alter, absorb, spends, Call.publishesTo, budget, publishRaw, countTopicExists,
      countSubscriptionExists, setUnavailable, failFlush, failClose, raceTopicCreation, delayLookups,
      closeReceiver, modifyChannel]

/-- Along calls that set no new budget for `x`, the budget of `x` loses one
success for each call that uses one up, down to none left. -/
theorem budget_run (σ : System) (x : String) (calls : List Call)
    (steady : ∀ c ∈ calls, c.budgets x = false) :
    (σ.run calls).broker.budget x = (σ.broker.budget x).map (· - spent x σ calls) := by
  induction calls generalizing σ with
  | nil => simp [run, spent]
  | cons c cs induction =>
    have rest := induction (σ.apply c) fun c' member => steady c' (List.mem_cons_of_mem c member)
    have step := budget_apply σ x c (steady c List.mem_cons_self)
    change ((σ.apply c).run cs).broker.budget x = _
    rw [rest, step, spent]
    cases σ.broker.budget x with
    | none => split <;> rfl
    | some n =>
      split
      · simp only [Option.map_some, Option.some.injEq, Nat.pred_eq_sub_one]
        omega
      · simp

variable {retryDelay : Option Duration} {s : String} {calls : List Call}

/-- The copies a subscription holds are one for each message that reached its
topic while it existed. -/
theorem holdings_perm_arrivals (keeps : keeps s (start retryDelay) calls = true) :
    (((start retryDelay).run calls).holdings s).Perm
      ((arrivals s (start retryDelay) calls).map (·.messageId)) := by
  obtain ⟨-, -, created⟩ := run_moves (start_tracked retryDelay s) calls keeps
  cases viewed : ((start retryDelay).run calls).view s with
  | none =>
    rcases created rfl with ⟨-, nothing⟩ | ⟨v₀, v', -, viewed', -⟩
    · simp [holdings, viewed, nothing]
    · exact absurd (viewed.symm.trans viewed') (by simp)
  | some v =>
    simpa [holdings, viewed] using
      (start_law (fun move ledger => move.ledger ledger) (fun _ fresh => fresh.ledger) keeps
        viewed).holdings

/-- What reached the topic of a subscription along a run is stored on that topic. -/
theorem arrivals_stored (keeps : keeps s (start retryDelay) calls = true) {m : StoredMessage}
    (arrived : m ∈ arrivals s (start retryDelay) calls) :
    ∃ sub, ((start retryDelay).run calls).broker.subscription? s = some sub ∧
      m ∈ ((start retryDelay).run calls).broker.messagesOf sub.topic := by
  obtain ⟨-, -, created⟩ := run_moves (start_tracked retryDelay s) calls keeps
  rcases created rfl with ⟨-, nothing⟩ | ⟨v₀, v', -, viewed, moves⟩
  · rw [nothing] at arrived
    cases arrived
  · obtain ⟨found, shape⟩ := found_of_view viewed
    obtain ⟨-, -, -, messages⟩ := moves.frame
    have stored : v'.messages = ((start retryDelay).run calls).broker.messagesOf v'.sub.topic :=
      congrArg View.messages shape
    refine ⟨v'.sub, found, ?_⟩
    rw [← stored, messages]
    exact List.mem_append_right _ arrived

/-- A call that stores one message under the next identifier on topic `x`, and
nothing else on any topic, queues one copy of it on each subscription of `x`
that the run never re-registered, and none on any other. -/
theorem copies_of_appended {c : Call} {x : String} {m : StoredMessage}
    (keeps : keeps s (start retryDelay) (calls ++ [c]) = true)
    (named : m.messageId = digitString (((start retryDelay).run calls).broker.nextId + 1))
    (grown : ∀ y, (((start retryDelay).run calls).apply c).broker.messagesOf y =
      ((start retryDelay).run calls).broker.messagesOf y ++ if y = x then [m] else []) :
    ((((start retryDelay).run calls).apply c).holdings s).count m.messageId =
      if ((start retryDelay).run calls).broker.subscribedTo s x then 1 else 0 := by
  let σ := (start retryDelay).run calls
  have after : σ.apply c = (start retryDelay).run (calls ++ [c]) := by
    rw [run_append]
    rfl
  have keepsBefore : System.keeps s (start retryDelay) calls = true := by
    rw [keeps_append, Bool.and_eq_true] at keeps
    exact keeps.1
  -- the copies queued before the call are of stored messages, none of them under the new identifier
  have before : ((arrivals s (start retryDelay) calls).map (·.messageId)).count m.messageId = 0 := by
    refine List.count_eq_zero.2 fun member => ?_
    obtain ⟨m', arrived, same⟩ := List.mem_map.1 member
    obtain ⟨sub, -, stored⟩ := arrivals_stored keepsBefore arrived
    exact (run_numbered retryDelay calls).fresh sub.topic
      (named ▸ same ▸ List.mem_map_of_mem stored)
  have counted := (holdings_perm_arrivals keeps).count_eq m.messageId
  rw [← after, arrivals_append] at counted
  rw [counted, List.map_append, List.count_append, before, Nat.zero_add]
  simp only [arrivals, List.append_nil, arrivedDuring]
  cases found : σ.broker.subscription? s with
  | none => simp [subscribedTo, σ, found]
  | some sub =>
    have grownOn := grown sub.topic
    simp only [σ] at found grownOn ⊢
    rw [grownOn, List.drop_left']
    · by_cases same : sub.topic = x <;> simp [subscribedTo, found, same]
    · rfl

/-- What a call that stores a message on topic `x` does on a state that a run
from the start reaches, beyond what `Stores` says: an identifier it answers is
carried by no message stored before, on any topic, and it queues one copy under
that identifier on each subscription of `x` that the run never re-registered, and
none on any other. -/
structure FansOut (retryDelay : Option Duration) (calls : List Call) (c : Call) (x : String)
    (result : Broker × Except GatewayError String × List Notice) : Prop where
  fresh : ∀ id, result.2.1 = .ok id → ∀ y,
    id ∉ (((start retryDelay).run calls).broker.messagesOf y).map (·.messageId)
  copies : ∀ id, result.2.1 = .ok id → ∀ s, keeps s (start retryDelay) (calls ++ [c]) = true →
    ((((start retryDelay).run calls).apply c).holdings s).count id =
      if ((start retryDelay).run calls).broker.subscribedTo s x then 1 else 0

theorem FansOut.of_stores {c : Call} {x : String} {data : ByteArray}
    {attributes : List (String × String)} {orderingKey : Option String}
    {result : Broker × Except GatewayError String × List Notice}
    (applied : (((start retryDelay).run calls).apply c).broker = result.1)
    (stores : Stores ((start retryDelay).run calls).broker x data attributes orderingKey result) :
    FansOut retryDelay calls c x result := by
  refine ⟨fun id answered y => ?_, fun id answered s keeps => ?_⟩
  · rw [(stores.answered id answered).1]
    exact (run_numbered retryDelay calls).fresh y
  · obtain ⟨named, -⟩ := stores.answered id answered
    have grown : ∀ y, (((start retryDelay).run calls).apply c).broker.messagesOf y =
        ((start retryDelay).run calls).broker.messagesOf y ++
          if y = x then [⟨id, data, attributes, orderingKey⟩] else [] := fun y => by
      rw [applied]
      exact stores.stored id answered y
    exact copies_of_appended (m := ⟨id, data, attributes, orderingKey⟩) keeps named grown

/-- Publishing on any state that a run from the start reaches. A publish through
a handle and a raw publish each store their message as `Stores` says and fan it
out once as `FansOut` says. A publish through a handle that fails for another
reason than a missing topic only counts its attempt. With the broker available, a
publish to `x` is refused exactly when the last budget of `n` successes set for
`x` has been used up by the publishes to `x` made since while the broker was
available, those that found the topic missing included. -/
theorem publish_fans_out_once (retryDelay : Option Duration) (calls : List Call) (x : String)
    (data : ByteArray) (attributes : List (String × String)) (orderingKey : Option String) :
    let σ := (start retryDelay).run calls
    let published := σ.broker.publish x data attributes orderingKey
    let raw := σ.broker.publishRaw x data attributes
    (Stores σ.broker x data attributes orderingKey published ∧
      FansOut retryDelay calls (.publish x data attributes orderingKey) x published) ∧
    (Stores σ.broker x data attributes none raw ∧
      FansOut retryDelay calls (.publishRaw x data attributes) x raw) ∧
    (∀ e, published.2.1 = .error e → e ≠ .notFound x → published.1 = σ.broker.countPublish x) ∧
    ∀ earlier n later, calls = earlier ++ .failPublishAfter x n :: later →
      (∀ c ∈ later, c.budgets x = false) → σ.broker.faults.unavailable = false →
      (published.2.1 = .error (.rejected ("publish to " ++ x ++ " refused")) ↔
        n ≤ spent x ((start retryDelay).run (earlier ++ [.failPublishAfter x n])) later) := by
  intro σ published raw
  have stored := publish_stores σ.broker x data attributes orderingKey
  have storedRaw := publishRaw_stores σ.broker x data attributes
  refine ⟨⟨stored, .of_stores rfl stored⟩, ⟨storedRaw, .of_stores rfl storedRaw⟩,
    fun e failed => publish_counted σ.broker x data attributes orderingKey e failed,
    fun earlier n later split steady on => ?_⟩
  -- the budget set by the last `failPublishAfter` loses one success per spending call since
  let σ₀ := (start retryDelay).run (earlier ++ [.failPublishAfter x n])
  have reached : σ = σ₀.run later := by
    simp only [σ, σ₀, split, run_append]
    rfl
  have set : σ₀.broker.budget x = some n := by
    simp only [σ₀, run_append]
    exact Broker.budget_failPublishAfter _ x n
  have left : σ.broker.budget x = some (n - spent x σ₀ later) := by
    rw [reached, budget_run σ₀ x later steady, set]
    rfl
  rw [publish_refused_iff σ.broker x data attributes orderingKey on left]
  exact Nat.sub_eq_zero_iff_le

end System

end Courier.Broker
