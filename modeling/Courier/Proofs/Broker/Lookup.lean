import Courier.Broker.Operations

namespace Courier.Broker

/-! # Looking up topics and subscriptions after a change

The broker keeps its topics and subscriptions in lists and finds them by name,
the first of a name winning. Every change maps over the list or appends to it,
and never renames an entry, so a lookup after a change is the old lookup with
the change applied: these lemmas let later proofs reason by name without
opening the lists again. -/

variable (b : Broker)

theorem subscription?_modifySubscription (name s : String)
    (f : SubscriptionState → SubscriptionState) (keepsName : ∀ x, (f x).name = x.name) :
    (b.modifySubscription name f).subscription? s =
      if name = s then (b.subscription? s).map f else b.subscription? s := by
  have samePredicate : ((fun x : SubscriptionState => x.name == s) ∘
      fun x => if x.name == name then f x else x) = fun x => x.name == s := by
    funext x
    by_cases named : x.name = name <;> simp [named, keepsName]
  unfold subscription? modifySubscription
  rw [List.find?_map, samePredicate]
  cases found : b.subscriptions.find? (·.name == s) with
  | none => simp
  | some x =>
    have named : x.name = s := by simpa using List.find?_some found
    by_cases same : name = s
    · subst same
      simp [named]
    · have other : x.name ≠ name := fun equal => same (equal ▸ named)
      simp [other, same]

theorem hasSubscription_iff (s : String) :
    b.hasSubscription s = true ↔ ∃ x, b.subscription? s = some x := by
  simp [hasSubscription, Option.isSome_iff_exists]

theorem name_of_subscription? {s : String} {x : SubscriptionState}
    (found : b.subscription? s = some x) : x.name = s := by
  simpa using List.find?_some found

theorem subscription?_putSubscription (t : SubscriptionState) (s : String) :
    (b.putSubscription t).subscription? s =
      if t.name = s then some t else b.subscription? s := by
  unfold putSubscription
  split
  · rename_i present
    have samePredicate : ((fun x : SubscriptionState => x.name == s) ∘
        fun x => if x.name == t.name then t else x) = fun x => x.name == s := by
      funext x
      by_cases named : x.name = t.name <;> simp [named]
    change List.find? _ (List.map _ b.subscriptions) = _
    rw [List.find?_map, samePredicate]
    obtain ⟨old, oldFound⟩ := (hasSubscription_iff b t.name).1 present
    cases found : b.subscriptions.find? (·.name == s) with
    | none =>
      by_cases same : t.name = s
      · subst same
        simp [subscription?, found] at oldFound
      · simp [same, subscription?, found]
    | some x =>
      have named : x.name = s := by simpa using List.find?_some found
      by_cases same : t.name = s
      · simp [named, same]
      · have other : x.name ≠ t.name := fun equal => same (equal ▸ named)
        simp [other, same, subscription?, found]
  · rename_i absent
    change List.find? _ (b.subscriptions ++ [t]) = _
    rw [List.find?_append]
    by_cases same : t.name = s
    · subst same
      have none : b.subscription? t.name = none := by
        cases found : b.subscription? t.name with
        | none => rfl
        | some x => simp [hasSubscription, found] at absent
      simp only [subscription?] at none
      simp [none]
    · simp [same, subscription?]

@[simp] theorem hasSubscription_putSubscription (t : SubscriptionState) (s : String) :
    (b.putSubscription t).hasSubscription s = (t.name == s || b.hasSubscription s) := by
  by_cases same : t.name = s <;>
    simp [hasSubscription, subscription?_putSubscription, same]

theorem topic?_modifyTopic (name x : String) (f : TopicState → TopicState)
    (keepsName : ∀ t, (f t).name = t.name) :
    (b.modifyTopic name f).topic? x = if name = x then (b.topic? x).map f else b.topic? x := by
  have samePredicate : ((fun t : TopicState => t.name == x) ∘
      fun t => if t.name == name then f t else t) = fun t => t.name == x := by
    funext t
    by_cases named : t.name = name <;> simp [named, keepsName]
  unfold topic? modifyTopic
  rw [List.find?_map, samePredicate]
  cases found : b.topics.find? (·.name == x) with
  | none => simp
  | some t =>
    have named : t.name = x := by simpa using List.find?_some found
    by_cases same : name = x
    · subst same
      simp [named]
    · have other : t.name ≠ name := fun equal => same (equal ▸ named)
      simp [other, same]

theorem name_of_topic? {x : String} {t : TopicState} (found : b.topic? x = some t) :
    t.name = x := by
  simpa using List.find?_some found

theorem topic?_addTopic (name x : String) :
    (b.addTopic name).topic? x =
      (b.topic? x).or (if name = x then some ⟨name, [], []⟩ else none) := by
  unfold addTopic
  split
  · rename_i present
    by_cases same : name = x
    · subst same
      obtain ⟨t, found⟩ := Option.isSome_iff_exists.1 present
      simp [topic?] at found ⊢
      simp [found]
    · simp [same]
  · rename_i absent
    change List.find? _ (b.topics ++ _) = _
    rw [List.find?_append]
    by_cases same : name = x <;> simp [same, topic?]

/-! Changes that leave subscriptions or topics as they are. -/

@[simp] theorem subscription?_modifyTopic (name s : String) (f : TopicState → TopicState) :
    (b.modifyTopic name f).subscription? s = b.subscription? s := rfl

@[simp] theorem subscription?_modifyChannel (id : Nat) (f : Channel → Channel) (s : String) :
    (b.modifyChannel id f).subscription? s = b.subscription? s := rfl

@[simp] theorem topic?_modifySubscription (name x : String)
    (f : SubscriptionState → SubscriptionState) :
    (b.modifySubscription name f).topic? x = b.topic? x := rfl

@[simp] theorem topic?_putSubscription (t : SubscriptionState) (x : String) :
    (b.putSubscription t).topic? x = b.topic? x := by
  unfold putSubscription
  split <;> rfl

@[simp] theorem topic?_modifyChannel (id : Nat) (f : Channel → Channel) (x : String) :
    (b.modifyChannel id f).topic? x = b.topic? x := rfl

@[simp] theorem subscription?_forgetSlot (slot : Nat) (s : String) :
    (b.forgetSlot slot).subscription? s = b.subscription? s := rfl

@[simp] theorem topic?_forgetSlot (slot : Nat) (x : String) :
    (b.forgetSlot slot).topic? x = b.topic? x := rfl

@[simp] theorem topics_modifyChannel (id : Nat) (f : Channel → Channel) :
    (b.modifyChannel id f).topics = b.topics := rfl

@[simp] theorem subscriptions_modifyChannel (id : Nat) (f : Channel → Channel) :
    (b.modifyChannel id f).subscriptions = b.subscriptions := rfl

@[simp] theorem nextId_modifyChannel (id : Nat) (f : Channel → Channel) :
    (b.modifyChannel id f).nextId = b.nextId := rfl

@[simp] theorem retryDelay_modifyChannel (id : Nat) (f : Channel → Channel) :
    (b.modifyChannel id f).retryDelay = b.retryDelay := rfl

@[simp] theorem topics_putSubscription (t : SubscriptionState) :
    (b.putSubscription t).topics = b.topics := by
  unfold putSubscription
  split <;> rfl

@[simp] theorem nextId_putSubscription (t : SubscriptionState) :
    (b.putSubscription t).nextId = b.nextId := by
  unfold putSubscription
  split <;> rfl

@[simp] theorem retryDelay_putSubscription (t : SubscriptionState) :
    (b.putSubscription t).retryDelay = b.retryDelay := by
  unfold putSubscription
  split <;> rfl

@[simp] theorem channel?_putSubscription (t : SubscriptionState) (id : Nat) :
    (b.putSubscription t).channel? id = b.channel? id := by
  unfold putSubscription
  split <;> rfl

/-- A channel put in place of the one of its number is what the lookup finds. -/
theorem channel?_modifyChannel_self {id : Nat} {c c' : Channel} (found : b.channel? id = some c)
    (same : c'.id = id) : (b.modifyChannel id fun _ => c').channel? id = some c' := by
  have samePredicate : ((fun x : Channel => x.id == id) ∘
      fun x => if x.id == id then c' else x) = fun x => x.id == id := by
    funext x
    by_cases numbered : x.id = id <;> simp [numbered, same]
  have numbered : c.id = id := by simpa using List.find?_some found
  unfold channel? modifyChannel
  rw [List.find?_map, samePredicate]
  simp [channel?] at found
  simp [found, numbered]

theorem subscription?_of_subscriptions {b' : Broker} (same : b'.subscriptions = b.subscriptions)
    (s : String) : b'.subscription? s = b.subscription? s := by
  simp [subscription?, same]

theorem topic?_of_topics {b' : Broker} (same : b'.topics = b.topics) (x : String) :
    b'.topic? x = b.topic? x := by
  simp [topic?, same]

end Courier.Broker
