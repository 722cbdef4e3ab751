import Courier.Proofs.Broker.Moves

namespace Courier.Broker

/-! # Broker calls, seen from one subscription

A broker call changes the broker and reports the leases it began. Seen from a
subscription `s`, it `Shifts` the view of `s` by `Moves`: the leases it began for
`s` become new tasks, and whatever tasks, lease log and clock `s` had are carried
along. This module proves that of the broker's own steps: leasing, queueing a
message on its topic's subscriptions, and the calls built from them. Calls that
change only what no law reads are `Steady`. -/

/-- The leases that notices begin for one subscription. -/
def leasesFor (s : String) (notices : List Notice) : List Lease :=
  (leasesOf notices).filter (·.subscription == s)

@[simp] theorem leasesFor_nil (s : String) : leasesFor s [] = [] := rfl

@[simp] theorem leasesFor_append (s : String) (ns more : List Notice) :
    leasesFor s (ns ++ more) = leasesFor s ns ++ leasesFor s more := by
  simp [leasesFor]

theorem leasesFor_of_owner {s n : String} {ns : List Notice}
    (owner : ∀ l ∈ leasesOf ns, l.subscription = n) :
    leasesFor s ns = if n = s then leasesOf ns else [] := by
  by_cases same : n = s
  · subst same
    simpa [leasesFor] using owner
  · simp only [leasesFor, same, if_false, List.filter_eq_nil_iff]
    intro l member
    simp [owner l member, same]

/-- A change that keeps the topics, which subscriptions exist and on which topic,
the next message identifier and the redelivery wait. -/
structure Steady (b b' : Broker) : Prop where
  topics : b'.topics = b.topics
  subscribed : ∀ s, (b'.subscription? s).map (·.topic) = (b.subscription? s).map (·.topic)
  nextId : b'.nextId = b.nextId
  retryDelay : b'.retryDelay = b.retryDelay

theorem Steady.refl (b : Broker) : Steady b b := ⟨rfl, fun _ => rfl, rfl, rfl⟩

theorem Steady.trans {b b' b'' : Broker} (first : Steady b b') (second : Steady b' b'') :
    Steady b b'' :=
  ⟨second.topics.trans first.topics, fun s => (second.subscribed s).trans (first.subscribed s),
    second.nextId.trans first.nextId, second.retryDelay.trans first.retryDelay⟩

theorem messagesOf_of_topics {b b' : Broker} (same : b'.topics = b.topics) (x : String) :
    b'.messagesOf x = b.messagesOf x := by
  simp [messagesOf, topic?_of_topics b same]

/-- What a broker call does to subscription `s`: a missing `s` stays missing and
gets no lease; an existing one moves, whatever its tasks, lease log and clock, to
its state after the call, with a task for each lease the call began for it. -/
structure Shifts (retryDelay : Option Duration) (s : String) (b : Broker)
    (result : Broker × List Notice) : Prop where
  missing : b.subscription? s = none →
    result.1.subscription? s = none ∧ leasesFor s result.2 = []
  moves : ∀ sub, b.subscription? s = some sub → ∃ sub' arrived,
    result.1.subscription? s = some sub' ∧ ∀ watches leases now,
      Moves retryDelay ⟨sub, watches, leases, b.messagesOf sub.topic, now⟩
        ⟨sub', watches ++ (leasesFor s result.2).map (⟨·, .awaiting⟩),
          leases ++ leasesFor s result.2, result.1.messagesOf sub'.topic, now⟩ arrived

variable {retryDelay : Option Duration} {s : String}

/-- A call that leaves `s`, the messages of every topic and the leases of `s` alone. -/
theorem Shifts.rest {b : Broker} {result : Broker × List Notice}
    (same : result.1.subscription? s = b.subscription? s)
    (messages : ∀ x, result.1.messagesOf x = b.messagesOf x)
    (none : leasesFor s result.2 = []) : Shifts retryDelay s b result := by
  constructor
  · intro missing
    exact ⟨same.trans missing, none⟩
  · intro sub found
    refine ⟨sub, [], same.trans found, fun watches leases now => ?_⟩
    rw [none, messages]
    simpa using (Moves.rest ⟨sub, watches, leases, _, now⟩ : Moves retryDelay _ _ [])

theorem Shifts.trans {b : Broker} {first second : Broker × List Notice}
    (shifts : Shifts retryDelay s b first) (more : Shifts retryDelay s first.1 second) :
    Shifts retryDelay s b (second.1, first.2 ++ second.2) := by
  constructor
  · intro missing
    obtain ⟨missing₁, none₁⟩ := shifts.missing missing
    obtain ⟨missing₂, none₂⟩ := more.missing missing₁
    exact ⟨missing₂, by simp [none₁, none₂]⟩
  · intro sub found
    obtain ⟨sub₁, arrived₁, found₁, moves₁⟩ := shifts.moves sub found
    obtain ⟨sub₂, arrived₂, found₂, moves₂⟩ := more.moves sub₁ found₁
    refine ⟨sub₂, arrived₁ ++ arrived₂, found₂, fun watches leases now => ?_⟩
    have chained := (moves₁ watches leases now).trans
      (moves₂ (watches ++ (leasesFor s first.2).map (⟨·, .awaiting⟩)) (leases ++ leasesFor s first.2)
        now)
    simpa using chained

/-! ## Leasing -/

section Leasing

variable (b : Broker)

theorem pump_steady (n : String) : Steady b (b.pump n).1 := by
  refine ⟨topics_pump b n, fun x => ?_, nextId_pump b n, retryDelay_pump b n⟩
  by_cases same : n = x
  · subst same
    cases found : b.subscription? n with
    | none =>
      rw [pump_of_missing b found]
      simp [found]
    | some sub =>
      obtain ⟨sub', after, pumped, -⟩ := pump_pumped b found
      rw [after, pumped.fields]
      rfl
  · rw [subscription?_pump_of_ne b same]

theorem pump_shifts (n : String) : Shifts retryDelay s b (b.pump n) := by
  by_cases same : n = s
  · subst same
    have mine : leasesFor n (b.pump n).2 = leasesOf (b.pump n).2 := by
      rw [leasesFor_of_owner (fun l member => pump_owner b member)]
      simp
    constructor
    · intro missing
      rw [pump_of_missing b missing]
      simp [missing]
    · intro sub found
      obtain ⟨sub', after, pumped, -⟩ := pump_pumped b found
      refine ⟨sub', [], after, fun watches leases now => ?_⟩
      have topic : sub'.topic = sub.topic := by rw [pumped.fields]
      rw [mine, topic, messagesOf_of_topics (topics_pump b n)]
      exact (Move.pump ⟨sub, watches, leases, b.messagesOf sub.topic, now⟩ sub' _ pumped).moves
  · apply Shifts.rest (subscription?_pump_of_ne b same) (messagesOf_of_topics (topics_pump b n))
    rw [leasesFor_of_owner (fun l member => pump_owner b member)]
    simp [same]

/-- The fold of `pumpAll` carries the notices gathered so far: they only ever get
more appended. -/
theorem foldl_pump (names : List String) (ns : List Notice) :
    names.foldl (fun (b, ns) name => let (b, more) := b.pump name; (b, ns ++ more)) (b, ns) =
      ((b.pumpAll names).1, ns ++ (b.pumpAll names).2) := by
  induction names generalizing b ns with
  | nil => simp [pumpAll]
  | cons head tail induction =>
    simp only [pumpAll, List.foldl_cons, List.nil_append]
    rw [induction, induction (b.pump head).1 (b.pump head).2]
    simp

/-- The step `pumpAll` folds with: pump one more subscription and gather its notices. -/
theorem pumpAll_cons (n : String) (names : List String) :
    b.pumpAll (n :: names) =
      (((b.pump n).1.pumpAll names).1, (b.pump n).2 ++ ((b.pump n).1.pumpAll names).2) := by
  simp only [pumpAll, List.foldl_cons, List.nil_append]
  rw [foldl_pump]
  rfl

theorem pumpAll_steady (names : List String) : Steady b (b.pumpAll names).1 := by
  induction names generalizing b with
  | nil => exact Steady.refl b
  | cons n names induction =>
    rw [pumpAll_cons]
    exact (pump_steady b n).trans (induction _)

theorem pumpAll_shifts (names : List String) : Shifts retryDelay s b (b.pumpAll names) := by
  induction names generalizing b with
  | nil => exact Shifts.rest rfl (fun _ => rfl) rfl
  | cons n names induction =>
    rw [pumpAll_cons]
    exact (pump_shifts b n).trans (induction _)

end Leasing

/-! ## Where a subscription is attached, and fresh identifiers -/

theorem digitString_injective : Function.Injective digitString := by
  intro i j same
  have digits : Nat.toDigits 10 i = Nat.toDigits 10 j := String.ofList_inj.1 same
  rw [← @Nat.ofDigitChars_ten_toDigits i, digits, Nat.ofDigitChars_ten_toDigits]

/-- Whether subscription `s` exists and is of topic `x`. -/
def subscribedTo (b : Broker) (s x : String) : Bool :=
  (b.subscription? s).map (·.topic) == some x

/-- Subscription `s` is attached once to its own topic, which exists, and to no
other; to none while it is missing. -/
structure Attached (b : Broker) (s : String) : Prop where
  count : ∀ x t, b.topic? x = some t →
    t.subscriptions.count s = if b.subscribedTo s x then 1 else 0
  topic : ∀ sub, b.subscription? s = some sub → b.hasTopic sub.topic

/-- Every stored message has an identifier given out already: the decimal text of
a number up to the last one given out. -/
def Numbered (b : Broker) : Prop :=
  ∀ x, ∀ m ∈ b.messagesOf x, ∃ i ≤ b.nextId, m.messageId = digitString i

/-- Attachment depends only on how often each topic names `s`, and on the topic
of `s`. -/
theorem Attached.of_shape {b b' : Broker} {s : String} (attached : Attached b s)
    (topics : ∀ x, (b'.topic? x).map (·.subscriptions.count s) =
      (b.topic? x).map (·.subscriptions.count s))
    (subscribed : (b'.subscription? s).map (·.topic) = (b.subscription? s).map (·.topic)) :
    Attached b' s := by
  have same : ∀ x, b'.subscribedTo s x = b.subscribedTo s x := by
    intro x
    simp only [subscribedTo, subscribed]
  constructor
  · intro x t' found'
    have shape := topics x
    rw [found'] at shape
    obtain ⟨t, found, count⟩ := Option.map_eq_some_iff.1 shape.symm
    rw [same, ← attached.count x t found]
    exact count.symm
  · intro sub' found'
    have shape := subscribed
    rw [found'] at shape
    obtain ⟨sub, found, topic⟩ := Option.map_eq_some_iff.1 shape.symm
    have exists_ := attached.topic sub found
    obtain ⟨t, present⟩ := Option.isSome_iff_exists.1 exists_
    have shaped := topics sub.topic
    rw [present] at shaped
    obtain ⟨t', present', -⟩ := Option.map_eq_some_iff.1 shaped
    simp only at topic
    rw [← topic]
    simp [hasTopic, present']

theorem Attached.steady {b b' : Broker} {s : String} (attached : Attached b s)
    (steady : Steady b b') : Attached b' s :=
  attached.of_shape (fun x => by rw [topic?_of_topics b steady.topics]) (steady.subscribed s)

theorem Numbered.steady {b b' : Broker} (numbered : Numbered b) (steady : Steady b b') :
    Numbered b' := by
  intro x m member
  rw [messagesOf_of_topics steady.topics] at member
  rw [steady.nextId]
  exact numbered x m member

theorem Numbered.fresh {b : Broker} (numbered : Numbered b) (x : String) :
    digitString (b.nextId + 1) ∉ (b.messagesOf x).map (·.messageId) := by
  intro member
  obtain ⟨m, stored, named⟩ := List.mem_map.1 member
  obtain ⟨i, bounded, numberedAs⟩ := numbered x m stored
  have same : b.nextId + 1 = i := digitString_injective (named.symm.trans numberedAs)
  omega

/-! ## Queueing a message -/

/-- The message `append` stores: its content under the next identifier. -/
def nextMessage (b : Broker) (data : ByteArray) (attributes : List (String × String))
    (orderingKey : Option String) : StoredMessage :=
  ⟨digitString (b.nextId + 1), data, attributes, orderingKey⟩

def store (b : Broker) (x : String) (m : StoredMessage) : Broker :=
  b.modifyTopic x fun t => { t with messages := t.messages ++ [m] }

/-- Queue a copy of a message on each of several subscriptions, in turn. -/
def queueOn (b : Broker) (m : StoredMessage) (names : List String) : Broker :=
  names.foldl (fun b name => b.modifySubscription name fun s =>
    { s with backlog := s.backlog ++ [⟨m, 0⟩] }) b

section Queueing

variable (b : Broker)

theorem append_of_missing {x : String} (missing : b.topic? x = none) (data : ByteArray)
    (attributes : List (String × String)) (orderingKey : Option String) :
    b.append x data attributes orderingKey =
      ({ b with nextId := b.nextId + 1 }, .error (.notFound x)) := by
  have same : ({ b with nextId := b.nextId + 1 } : Broker).topic? x = b.topic? x := rfl
  simp only [append, same, missing]

theorem append_of_found {x : String} {t : TopicState} (found : b.topic? x = some t)
    (data : ByteArray) (attributes : List (String × String)) (orderingKey : Option String) :
    b.append x data attributes orderingKey =
      ((({ b with nextId := b.nextId + 1 } : Broker).store x
          (b.nextMessage data attributes orderingKey)).queueOn
          (b.nextMessage data attributes orderingKey) t.subscriptions,
        .ok ((b.nextMessage data attributes orderingKey).messageId, t.subscriptions)) := by
  have same : ({ b with nextId := b.nextId + 1 } : Broker).topic? x = b.topic? x := rfl
  simp only [append, same, found]
  rfl

/-! Using up an identifier changes no lookup. -/

@[simp] theorem topic?_withNextId (n : Nat) (y : String) :
    ({ b with nextId := n } : Broker).topic? y = b.topic? y := rfl

@[simp] theorem subscription?_withNextId (n : Nat) (s : String) :
    ({ b with nextId := n } : Broker).subscription? s = b.subscription? s := rfl

@[simp] theorem messagesOf_withNextId (n : Nat) (y : String) :
    ({ b with nextId := n } : Broker).messagesOf y = b.messagesOf y := rfl

@[simp] theorem subscription?_store (x : String) (m : StoredMessage) (s : String) :
    (b.store x m).subscription? s = b.subscription? s := rfl

@[simp] theorem nextId_store (x : String) (m : StoredMessage) : (b.store x m).nextId = b.nextId :=
  rfl

@[simp] theorem retryDelay_store (x : String) (m : StoredMessage) :
    (b.store x m).retryDelay = b.retryDelay := rfl

theorem topic?_store (x : String) (m : StoredMessage) (y : String) :
    (b.store x m).topic? y =
      if x = y then (b.topic? y).map fun t => { t with messages := t.messages ++ [m] }
      else b.topic? y :=
  topic?_modifyTopic b x y _ fun _ => rfl

theorem messagesOf_store (x : String) (m : StoredMessage) (y : String) :
    (b.store x m).messagesOf y = b.messagesOf y ++ if x = y ∧ b.hasTopic y then [m] else [] := by
  by_cases same : x = y
  · subst same
    cases found : b.topic? x <;> simp [messagesOf, hasTopic, topic?_store, found]
  · simp [messagesOf, topic?_store, same]

@[simp] theorem topics_queueOn (m : StoredMessage) (names : List String) :
    (b.queueOn m names).topics = b.topics := by
  induction names generalizing b with
  | nil => rfl
  | cons head tail induction => exact induction _

@[simp] theorem nextId_queueOn (m : StoredMessage) (names : List String) :
    (b.queueOn m names).nextId = b.nextId := by
  induction names generalizing b with
  | nil => rfl
  | cons head tail induction => exact induction _

@[simp] theorem retryDelay_queueOn (m : StoredMessage) (names : List String) :
    (b.queueOn m names).retryDelay = b.retryDelay := by
  induction names generalizing b with
  | nil => rfl
  | cons head tail induction => exact induction _

/-- Each subscription gets one copy for each time it is named. -/
theorem subscription?_queueOn (m : StoredMessage) (names : List String) (s : String) :
    (b.queueOn m names).subscription? s = (b.subscription? s).map fun sub =>
      { sub with backlog := sub.backlog ++ List.replicate (names.count s) ⟨m, 0⟩ } := by
  induction names generalizing b with
  | nil => cases found : b.subscription? s <;> simp [queueOn, found]
  | cons head tail induction =>
    change ((b.modifySubscription head _).queueOn m tail).subscription? s = _
    rw [induction, subscription?_modifySubscription _ _ _
      (fun sub => { sub with backlog := sub.backlog ++ [⟨m, 0⟩] }) fun _ => rfl]
    by_cases same : head = s
    · subst same
      cases b.subscription? head <;> simp [List.replicate_succ]
    · simp [same]

end Queueing

section Appending

variable (b : Broker) (x : String) (data : ByteArray) (attributes : List (String × String))
  (orderingKey : Option String)

theorem append_nextId : (b.append x data attributes orderingKey).1.nextId = b.nextId + 1 := by
  cases found : b.topic? x with
  | none => rw [append_of_missing b found]
  | some t => simp [append_of_found b found]

theorem append_retryDelay : (b.append x data attributes orderingKey).1.retryDelay = b.retryDelay := by
  cases found : b.topic? x with
  | none => rw [append_of_missing b found]
  | some t => simp [append_of_found b found]

/-- The topic, if it exists, gets the message; every other topic is left alone. -/
theorem messagesOf_append (y : String) :
    (b.append x data attributes orderingKey).1.messagesOf y =
      b.messagesOf y ++
        if x = y ∧ b.hasTopic y then [b.nextMessage data attributes orderingKey] else [] := by
  cases found : b.topic? x with
  | none =>
    rw [append_of_missing b found]
    have missing : ¬(x = y ∧ b.hasTopic y = true) := by
      rintro ⟨rfl, present⟩
      simp [hasTopic, found] at present
    simp only [missing, if_false, List.append_nil]
    rfl
  | some t =>
    rw [append_of_found b found]
    simp only
    rw [messagesOf_of_topics (topics_queueOn _ _ _), messagesOf_store]
    rfl

theorem topic?_subscriptions_append (y : String) :
    ((b.append x data attributes orderingKey).1.topic? y).map (·.subscriptions) =
      (b.topic? y).map (·.subscriptions) := by
  cases found : b.topic? x with
  | none =>
    rw [append_of_missing b found]
    rfl
  | some t =>
    rw [append_of_found b found]
    simp only
    rw [topic?_of_topics _ (topics_queueOn _ _ _), topic?_store]
    by_cases same : x = y
    · subst same
      simp [found]
    · simp [same]

variable {s : String}

/-- A subscription attached to the topic gets one copy of the message; any other is
left alone. -/
theorem subscription?_append (attached : Attached b s) :
    (b.append x data attributes orderingKey).1.subscription? s =
      (b.subscription? s).map fun sub =>
        if sub.topic = x then
          { sub with backlog := sub.backlog ++ [⟨b.nextMessage data attributes orderingKey, 0⟩] }
        else sub := by
  cases found : b.topic? x with
  | none =>
    rw [append_of_missing b found]
    cases subFound : b.subscription? s with
    | none => exact subFound
    | some sub =>
      have elsewhere : sub.topic ≠ x := by
        intro same
        have present := attached.topic sub subFound
        simp [hasTopic, same, found] at present
      simpa [elsewhere] using subFound
  | some t =>
    rw [append_of_found b found]
    simp only
    rw [subscription?_queueOn, subscription?_store, attached.count x t found]
    cases subFound : b.subscription? s with
    | none => simp [subFound]
    | some sub =>
      by_cases same : sub.topic = x
      · simp [subscribedTo, subFound, same]
      · simp [subscribedTo, subFound, same]

theorem append_attached (attached : Attached b s) :
    Attached (b.append x data attributes orderingKey).1 s := by
  apply attached.of_shape fun y => by
    simpa [Option.map_map, Function.comp_def] using
      congrArg (Option.map (List.count s)) (topic?_subscriptions_append b x data attributes orderingKey y)
  rw [subscription?_append b x data attributes orderingKey attached]
  cases b.subscription? s with
  | none => rfl
  | some sub =>
    by_cases same : sub.topic = x <;> simp [same]

theorem append_numbered (numbered : Numbered b) :
    Numbered (b.append x data attributes orderingKey).1 := by
  intro y m member
  rw [messagesOf_append, List.mem_append] at member
  rw [append_nextId]
  cases member with
  | inl old =>
    obtain ⟨i, bounded, named⟩ := numbered y m old
    exact ⟨i, by omega, named⟩
  | inr new =>
    have same : m = b.nextMessage data attributes orderingKey := by
      split at new <;> simp_all
    exact ⟨b.nextId + 1, Nat.le_refl _, by rw [same]; rfl⟩

theorem append_shifts {retryDelay : Option Duration} (attached : Attached b s)
    (numbered : Numbered b) :
    Shifts retryDelay s b ((b.append x data attributes orderingKey).1, []) := by
  constructor
  · intro missing
    simp [subscription?_append b x data attributes orderingKey attached, missing]
  · intro sub found
    have after := subscription?_append b x data attributes orderingKey attached
    rw [found] at after
    have topicExists := attached.topic sub found
    by_cases same : sub.topic = x
    · let m := b.nextMessage data attributes orderingKey
      refine ⟨{ sub with backlog := sub.backlog ++ [⟨m, 0⟩] }, [m], by simpa [same] using after,
        fun watches leases now => ?_⟩
      have messages : (b.append x data attributes orderingKey).1.messagesOf sub.topic =
          b.messagesOf sub.topic ++ [m] := by
        rw [messagesOf_append, if_pos ⟨same.symm, topicExists⟩]
      have fresh : m.messageId ∉ (b.messagesOf sub.topic).map (·.messageId) :=
        numbered.fresh sub.topic
      simpa [messages] using
        (Move.queue ⟨sub, watches, leases, b.messagesOf sub.topic, now⟩ m fresh :
          Move retryDelay _ _ _).moves
    · refine ⟨sub, [], by simpa [same] using after, fun watches leases now => ?_⟩
      have messages : (b.append x data attributes orderingKey).1.messagesOf sub.topic =
          b.messagesOf sub.topic := by
        rw [messagesOf_append]
        simp [Ne.symm same]
      simpa [messages] using
        (Moves.rest ⟨sub, watches, leases, b.messagesOf sub.topic, now⟩ : Moves retryDelay _ _ [])

end Appending

/-! ## What every call keeps -/

/-- What every broker call keeps of a broker, for subscription `s`. -/
structure Kept (b : Broker) (s : String) : Prop where
  attached : Attached b s
  numbered : Numbered b

/-- A broker call that, from a broker where `s` is kept, keeps it and the
redelivery wait, and shifts `s`. -/
def Behaves (retryDelay : Option Duration) (s : String) (b : Broker)
    (result : Broker × List Notice) : Prop :=
  Kept b s → Kept result.1 s ∧ result.1.retryDelay = b.retryDelay ∧ Shifts retryDelay s b result

section Behaving

variable {retryDelay : Option Duration} {s : String} {b : Broker}

theorem Behaves.trans {first second : Broker × List Notice}
    (behaves : Behaves retryDelay s b first) (more : Behaves retryDelay s first.1 second) :
    Behaves retryDelay s b (second.1, first.2 ++ second.2) := by
  intro kept
  obtain ⟨kept₁, delay₁, shifts₁⟩ := behaves kept
  obtain ⟨kept₂, delay₂, shifts₂⟩ := more kept₁
  exact ⟨kept₂, delay₂.trans delay₁, shifts₁.trans shifts₂⟩

theorem Behaves.after {b' : Broker} {result : Broker × List Notice}
    (first : Behaves retryDelay s b (b', [])) (second : Behaves retryDelay s b' result) :
    Behaves retryDelay s b result := by
  simpa using first.trans second

theorem Behaves.trans_nil {first : Broker × List Notice} {b'' : Broker}
    (behaves : Behaves retryDelay s b first) (more : Behaves retryDelay s first.1 (b'', [])) :
    Behaves retryDelay s b (b'', first.2) := by
  simpa using behaves.trans more

theorem Behaves.of_steady {result : Broker × List Notice} (steady : Steady b result.1)
    (shifts : Shifts retryDelay s b result) : Behaves retryDelay s b result :=
  fun kept => ⟨⟨kept.attached.steady steady, kept.numbered.steady steady⟩, steady.retryDelay, shifts⟩

/-- A change of what no law reads: channels, reply slots, counters, faults. -/
theorem Behaves.rest {result : Broker × List Notice} (topics : result.1.topics = b.topics)
    (subscriptions : result.1.subscriptions = b.subscriptions) (nextId : result.1.nextId = b.nextId)
    (delay : result.1.retryDelay = b.retryDelay) (none : leasesFor s result.2 = []) :
    Behaves retryDelay s b result := by
  have same : ∀ s, result.1.subscription? s = b.subscription? s :=
    subscription?_of_subscriptions b subscriptions
  apply Behaves.of_steady ⟨topics, fun s => by rw [same], nextId, delay⟩
  exact Shifts.rest (same s) (messagesOf_of_topics topics) none

end Behaving

section Calls

variable {retryDelay : Option Duration} {s : String} (b : Broker)

theorem pump_behaves (n : String) : Behaves retryDelay s b (b.pump n) :=
  Behaves.of_steady (pump_steady b n) (pump_shifts b n)

theorem pumpAll_behaves (names : List String) : Behaves retryDelay s b (b.pumpAll names) :=
  Behaves.of_steady (pumpAll_steady b names) (pumpAll_shifts b names)

variable (x : String) (data : ByteArray) (attributes : List (String × String))
  (orderingKey : Option String)

theorem append_behaves : Behaves retryDelay s b ((b.append x data attributes orderingKey).1, []) :=
  fun kept =>
    ⟨⟨append_attached b x data attributes orderingKey kept.attached,
        append_numbered b x data attributes orderingKey kept.numbered⟩,
      append_retryDelay b x data attributes orderingKey,
      append_shifts b x data attributes orderingKey kept.attached kept.numbered⟩

theorem appendAndPump_behaves :
    Behaves retryDelay s b ((b.appendAndPump x data attributes orderingKey).1,
      (b.appendAndPump x data attributes orderingKey).2.2) := by
  have first : Behaves retryDelay s b ((b.append x data attributes orderingKey).1, []) :=
    append_behaves b x data attributes orderingKey
  cases appended : b.append x data attributes orderingKey with
  | mk b' outcome =>
    rw [appended] at first
    cases outcome with
    | error e => simpa [appendAndPump, appended] using first
    | ok pair => simpa [appendAndPump, appended] using first.after (pumpAll_behaves b' pair.2)

theorem publishRaw_behaves :
    Behaves retryDelay s b ((b.publishRaw x data attributes).1, (b.publishRaw x data attributes).2.2) :=
  appendAndPump_behaves b x data attributes none

theorem publish_behaves :
    Behaves retryDelay s b ((b.publish x data attributes orderingKey).1,
      (b.publish x data attributes orderingKey).2.2) := by
  unfold publish
  simp only
  split
  · exact Behaves.rest rfl rfl rfl rfl rfl
  · split
    · exact Behaves.rest rfl rfl rfl rfl rfl
    · refine Behaves.after ?_ (appendAndPump_behaves _ x data attributes orderingKey)
      exact Behaves.rest rfl rfl rfl rfl rfl
    · refine Behaves.after ?_ (appendAndPump_behaves _ x data attributes orderingKey)
      exact Behaves.rest rfl rfl rfl rfl rfl

end Calls

end Courier.Broker
