import Courier.Proofs.Broker.Interleaving
import Courier.Proofs.Broker.Lookup

namespace Courier

/-! # What a pass of leasing does

`leaseFrom` walks a subscription's backlog once. Every lease it begins takes a
copy out of the backlog, counts one more outstanding lease, marks the copy's
ordering key busy and counts one more delivery attempt; every copy it passes over
stays where it was. It passes a copy over only when the copy's own key is busy,
and stops early only when every lease is taken or the channel is full or closed.
This module states all of that once, as `Took`, by one induction along the
backlog, and then for `pump`, which runs one pass over the whole backlog. -/

/-- The copy a lease took from the backlog, with the attempts it had there. -/
def Lease.copy (l : Lease) : Pending := { l.pending with attempts := l.pending.attempts - 1 }

namespace Broker

/-- The copies with a given ordering key, in order. -/
def ofKey (k : String) (copies : List Pending) : List Pending :=
  copies.filter fun p => p.message.orderingKey = some k

/-- A copy whose ordering key is among the busy keys. -/
def blockedBy (busyKeys : List String) (p : Pending) : Prop :=
  ∃ k, p.message.orderingKey = some k ∧ k ∈ busyKeys

/-- A pass that could lease no more: every lease taken, or the channel full or
closed. -/
def Leasing.Stopped (acc : Leasing) : Prop :=
  acc.sub.maxOutstanding ≤ acc.sub.outstanding ∨ acc.sub.sender = none ∨
    acc.channel.capacity ≤ acc.channel.buffer.length

@[simp] theorem leasesOf_nil : leasesOf [] = [] := rfl

@[simp] theorem leasesOf_append (ns more : List Notice) :
    leasesOf (ns ++ more) = leasesOf ns ++ leasesOf more := by
  simp [leasesOf]

@[simp] theorem leasesOf_cons_leased (l : Lease) (ns : List Notice) :
    leasesOf (.leased l :: ns) = l :: leasesOf ns := rfl

@[simp] theorem leasesOf_cons_delivered (c : Nat) (ns : List Notice) :
    leasesOf (.delivered c :: ns) = leasesOf ns := rfl

@[simp] theorem leasesOf_cons_replied (slot : Nat) (ns : List Notice) :
    leasesOf (.replied slot :: ns) = leasesOf ns := rfl

@[simp] theorem leasesOf_cons_senderGone (c : Nat) (ns : List Notice) :
    leasesOf (.senderGone c :: ns) = leasesOf ns := rfl

theorem copy_of_lease (p : Pending) (l : Lease) (leased : l.pending = { p with attempts := p.attempts + 1 }) :
    l.copy = p := by
  cases p
  simp [Lease.copy, leased]

theorem ofKey_append (k : String) (xs ys : List Pending) :
    ofKey k (xs ++ ys) = ofKey k xs ++ ofKey k ys := by
  simp [ofKey]

theorem ofKey_cons_of_key (k : String) (p : Pending) (ps : List Pending)
    (keyed : p.message.orderingKey = some k) : ofKey k (p :: ps) = p :: ofKey k ps := by
  simp [ofKey, keyed]

theorem ofKey_cons_of_ne (k : String) (p : Pending) (ps : List Pending)
    (other : p.message.orderingKey ≠ some k) : ofKey k (p :: ps) = ofKey k ps := by
  simp [ofKey, other]

/-- What a pass of leasing from accumulator `acc` over `kept ++ rest` came to in
`result`: `new` are the leases it began, in order. -/
structure Took (acc result : Leasing) (kept rest : List Pending) (new : List Lease) : Prop where
  notices : leasesOf result.notices = leasesOf acc.notices ++ new
  sub : result.sub =
    { acc.sub with
      backlog := result.sub.backlog
      busyKeys := result.sub.busyKeys
      outstanding := result.sub.outstanding
      sender := result.sub.sender }
  copies : (result.sub.backlog ++ new.map Lease.copy).Perm (kept ++ rest)
  outstanding : result.sub.outstanding = acc.sub.outstanding + new.length
  busyKeys : result.sub.busyKeys = acc.sub.busyKeys ++ new.filterMap (·.pending.message.orderingKey)
  owner : ∀ l ∈ new, l.subscription = acc.sub.name
  attempts : ∀ l ∈ new, l.pending.attempts = l.copy.attempts + 1
  /-- Of the copies with one key, the pass leases the first, if any. -/
  keyed : ∀ k, (k ∈ acc.sub.busyKeys ∨ ofKey k kept = []) →
    ofKey k (kept ++ rest) = ofKey k (new.map Lease.copy) ++ ofKey k result.sub.backlog
  /-- A busy key stays unleased. -/
  busyUnleased : ∀ k, k ∈ acc.sub.busyKeys → ofKey k (new.map Lease.copy) = []
  /-- At most one copy of each key is leased. -/
  single : ∀ k, (ofKey k (new.map Lease.copy)).length ≤ 1
  /-- A copy is left behind only for its own busy key, or because the pass stopped. -/
  left : ∀ p ∈ result.sub.backlog, blockedBy result.sub.busyKeys p ∨ result.Stopped


theorem blockedBy_iff_any (busyKeys : List String) (p : Pending) :
    blockedBy busyKeys p ↔ p.message.orderingKey.any busyKeys.contains = true := by
  cases keyed : p.message.orderingKey with
  | none => simp [blockedBy, keyed]
  | some k => simp [blockedBy, keyed]

theorem blockedBy_of_subset {busyKeys more : List String} {p : Pending}
    (blocked : blockedBy busyKeys p) (grown : ∀ k ∈ busyKeys, k ∈ more) : blockedBy more p := by
  obtain ⟨k, keyed, busy⟩ := blocked
  exact ⟨k, keyed, grown k busy⟩

theorem took_nothing {acc result : Leasing} {kept rest : List Pending}
    (notices : result.notices = acc.notices)
    (sub : result.sub = { acc.sub with backlog := kept ++ rest, sender := result.sub.sender })
    (left : ∀ p ∈ result.sub.backlog, blockedBy result.sub.busyKeys p ∨ result.Stopped) :
    Took acc result kept rest [] := by
  have backlog : result.sub.backlog = kept ++ rest := by rw [sub]
  have outstanding : result.sub.outstanding = acc.sub.outstanding := by rw [sub]
  have busyKeys : result.sub.busyKeys = acc.sub.busyKeys := by rw [sub]
  exact
    { notices := by simp [notices]
      sub := by rw [sub]
      copies := by simp [backlog]
      outstanding := by simp [outstanding]
      busyKeys := by simp [busyKeys]
      owner := by simp
      attempts := by simp
      keyed := by simp [backlog, ofKey]
      busyUnleased := by simp [ofKey]
      single := by simp [ofKey]
      left := left }

theorem leaseFrom_took (acc : Leasing) (kept rest : List Pending)
    (keptBlocked : ∀ p ∈ kept, blockedBy acc.sub.busyKeys p) :
    ∃ new, Took acc (leaseFrom acc kept rest) kept rest new := by
  revert keptBlocked
  fun_induction leaseFrom acc kept rest with
  | case1 acc kept =>
    intro keptBlocked
    exact ⟨[], took_nothing rfl (by simp) fun p member => .inl (keptBlocked p member)⟩
  | case2 acc kept p rest s full =>
    intro _
    exact ⟨[], took_nothing rfl (by simp [s]) fun _ _ => .inr (.inl full)⟩
  | case3 acc kept p rest s notFull busy induction =>
    intro keptBlocked
    have pBlocked : blockedBy acc.sub.busyKeys p := (blockedBy_iff_any _ p).2 busy
    obtain ⟨new, took⟩ := induction fun q member => by
      rcases List.mem_append.1 member with old | here
      · exact keptBlocked q old
      · rw [List.mem_singleton.1 here]
        exact pBlocked
    exact ⟨new,
      { notices := took.notices
        sub := took.sub
        copies := by simpa using took.copies
        outstanding := took.outstanding
        busyKeys := took.busyKeys
        owner := took.owner
        attempts := took.attempts
        keyed := by
          intro k free
          -- a skipped copy of key `k` has `k` busy, so the passed-over copies stay clear of it
          have freeAfter : k ∈ acc.sub.busyKeys ∨ ofKey k (kept ++ [p]) = [] := by
            rcases free with busyKey | none
            · exact .inl busyKey
            · obtain ⟨k', keyed, busyKey⟩ := pBlocked
              by_cases same : k' = k
              · subst same
                exact .inl busyKey
              · refine .inr ?_
                rw [ofKey_append, none]
                simp [ofKey, keyed, same]
          simpa using took.keyed k freeAfter
        busyUnleased := took.busyUnleased
        single := took.single
        left := took.left }⟩
  | case4 acc kept p rest s c notFull free closed =>
    intro _
    exact ⟨[], took_nothing rfl (by simp [s]) fun _ _ => .inr (.inr (.inl rfl))⟩
  | case5 acc kept p rest s c notFull free receiving crowded =>
    intro _
    exact ⟨[], took_nothing rfl (by simp [s]) fun _ _ => .inr (.inr (.inr crowded))⟩
  | case6 acc kept p rest s c notFull free receiving room leased slot delivery busy s' induction =>
    intro keptBlocked
    have pFree : ¬ blockedBy acc.sub.busyKeys p := fun blocked =>
      free ((blockedBy_iff_any _ p).1 blocked)
    have grown : ∀ k ∈ acc.sub.busyKeys, k ∈ busy := by
      intro k member
      simp only [busy]
      split <;> simp [s, member]
    obtain ⟨new, took⟩ := induction fun q member => blockedBy_of_subset (keptBlocked q member) grown
    have copied : (Lease.mk s'.name leased slot s'.settings.ackDeadline).copy = p :=
      copy_of_lease p _ rfl
    refine ⟨⟨s'.name, leased, slot, s'.settings.ackDeadline⟩ :: new,
      { notices := by simp [took.notices]
        sub := by rw [took.sub]
        copies := ?_
        outstanding := by rw [took.outstanding]; simp [s', s]; omega
        busyKeys := ?_
        owner := ?_
        attempts := ?_
        keyed := ?_
        busyUnleased := ?_
        single := ?_
        left := took.left }⟩
    · simp only [List.map_cons, copied]
      exact List.perm_middle.trans ((took.copies.cons p).trans List.perm_middle.symm)
    · rw [took.busyKeys]
      simp only [s', busy]
      cases keyed : p.message.orderingKey <;> simp [s, leased, keyed]
    · intro l member
      rcases List.mem_cons.1 member with rfl | later
      · simp [s', s]
      · simpa [s', s] using took.owner l later
    · intro l member
      rcases List.mem_cons.1 member with rfl | later
      · rw [copied]
      · exact took.attempts l later
    · intro k free
      have step := took.keyed k (free.imp (grown k) id)
      simp only [List.map_cons, copied]
      by_cases keyed : p.message.orderingKey = some k
      · -- the leased copy is the first of its key: none was passed over before it
        have none : ofKey k kept = [] := free.resolve_left fun busyKey => pFree ⟨k, keyed, busyKey⟩
        rw [ofKey_append, none, List.nil_append] at step
        rw [ofKey_append, none, ofKey_cons_of_key k p _ keyed, ofKey_cons_of_key k p _ keyed,
          List.nil_append, step, List.cons_append]
      · rw [ofKey_append, ofKey_cons_of_ne k p _ keyed, ofKey_cons_of_ne k p _ keyed,
          ← ofKey_append]
        exact step
    · intro k busyKey
      simp only [List.map_cons, copied]
      have other : p.message.orderingKey ≠ some k := fun keyed => pFree ⟨k, keyed, busyKey⟩
      rw [ofKey_cons_of_ne k p _ other]
      exact took.busyUnleased k (grown k busyKey)
    · intro k
      simp only [List.map_cons, copied]
      by_cases keyed : p.message.orderingKey = some k
      · -- once leased, the key is busy for the rest of the pass
        have busyNow : k ∈ busy := by simp [busy, keyed]
        rw [ofKey_cons_of_key k p _ keyed, took.busyUnleased k busyNow]
        simp
      · rw [ofKey_cons_of_ne k p _ keyed]
        exact took.single k

/-- A pass of leasing keeps its channel's number and either keeps the channel or
lets it go. -/
theorem leaseFrom_channel (acc : Leasing) (kept rest : List Pending) :
    (leaseFrom acc kept rest).channel.id = acc.channel.id ∧
      ((leaseFrom acc kept rest).sub.sender = acc.sub.sender ∨
        (leaseFrom acc kept rest).sub.sender = none) := by
  fun_induction leaseFrom acc kept rest with
  | case1 => simp
  | case2 _ _ _ _ s => exact ⟨rfl, .inl rfl⟩
  | case5 _ _ _ _ s => exact ⟨rfl, .inl rfl⟩
  | case3 _ _ _ _ _ _ _ induction => exact induction
  | case4 => simp
  | case6 _ _ _ _ _ _ _ _ _ _ _ _ _ _ _ induction => simpa using induction

/-! ## Letting go of a channel -/

/-- Letting go of a channel changes channels only and begins no lease. -/
theorem dropSender_keeps (b : Broker) (channel : Option Nat) :
    (b.dropSender channel).1.topics = b.topics ∧
      (b.dropSender channel).1.subscriptions = b.subscriptions ∧
      (b.dropSender channel).1.nextId = b.nextId ∧
      (b.dropSender channel).1.retryDelay = b.retryDelay ∧
      leasesOf (b.dropSender channel).2 = [] := by
  unfold dropSender
  split
  · simp
  · split
    · split <;> simp
    · simp

@[simp] theorem topics_dropSender (b : Broker) (channel : Option Nat) :
    (b.dropSender channel).1.topics = b.topics := (dropSender_keeps b channel).1

@[simp] theorem subscriptions_dropSender (b : Broker) (channel : Option Nat) :
    (b.dropSender channel).1.subscriptions = b.subscriptions := (dropSender_keeps b channel).2.1

@[simp] theorem nextId_dropSender (b : Broker) (channel : Option Nat) :
    (b.dropSender channel).1.nextId = b.nextId := (dropSender_keeps b channel).2.2.1

@[simp] theorem retryDelay_dropSender (b : Broker) (channel : Option Nat) :
    (b.dropSender channel).1.retryDelay = b.retryDelay := (dropSender_keeps b channel).2.2.2.1

@[simp] theorem leasesOf_dropSender (b : Broker) (channel : Option Nat) :
    leasesOf (b.dropSender channel).2 = [] := (dropSender_keeps b channel).2.2.2.2

/-! ## One pass over a subscription's backlog -/

/-- What `pump` did to a subscription: the state `after` it left and the leases
`new` it began, in order. -/
structure Pumped (before after : SubscriptionState) (new : List Lease) : Prop where
  fields : after =
    { before with
      backlog := after.backlog
      busyKeys := after.busyKeys
      outstanding := after.outstanding
      sender := after.sender }
  copies : (after.backlog ++ new.map Lease.copy).Perm before.backlog
  outstanding : after.outstanding = before.outstanding + new.length
  busyKeys : after.busyKeys = before.busyKeys ++ new.filterMap (·.pending.message.orderingKey)
  owner : ∀ l ∈ new, l.subscription = before.name
  attempts : ∀ l ∈ new, l.pending.attempts = l.copy.attempts + 1
  keyed : ∀ k, ofKey k before.backlog = ofKey k (new.map Lease.copy) ++ ofKey k after.backlog
  busyUnleased : ∀ k, k ∈ before.busyKeys → ofKey k (new.map Lease.copy) = []
  single : ∀ k, (ofKey k (new.map Lease.copy)).length ≤ 1

theorem Pumped.rest (before : SubscriptionState) : Pumped before before [] :=
  { fields := rfl
    copies := by simp
    outstanding := rfl
    busyKeys := by simp
    owner := by simp
    attempts := by simp
    keyed := by simp [ofKey]
    busyUnleased := by simp [ofKey]
    single := by simp [ofKey] }

theorem Took.pumped {S : SubscriptionState} {c : Channel} {next : Nat} {result : Leasing}
    {new : List Lease}
    (took : Took ⟨{ S with backlog := [] }, c, next, [], []⟩ result [] S.backlog new) :
    Pumped S result.sub new :=
  { fields := by rw [took.sub]
    copies := by simpa using took.copies
    outstanding := took.outstanding
    busyKeys := took.busyKeys
    owner := took.owner
    attempts := took.attempts
    keyed := fun k => by simpa using took.keyed k (.inr rfl)
    busyUnleased := took.busyUnleased
    single := took.single }

variable (b : Broker)

theorem pump_of_missing {n : String} (missing : b.subscription? n = none) : b.pump n = (b, []) := by
  unfold pump
  rw [missing]

theorem pump_of_no_channel {n : String} {S : SubscriptionState} (found : b.subscription? n = some S)
    (none : S.sender.bind b.channel? = none) : b.pump n = (b, []) := by
  unfold pump
  rw [found]
  simp only [none]

/-- The pass `pump` runs over a subscription that has a channel, and what the
broker keeps of it. -/
theorem pump_of_channel {n : String} {S : SubscriptionState} {c : Channel}
    (found : b.subscription? n = some S) (channel : S.sender.bind b.channel? = some c) :
    (b.pump n).1.topics = b.topics ∧
      (b.pump n).1.subscriptions =
        (b.putSubscription
          (leaseFrom ⟨{ S with backlog := [] }, c, b.nextObject, [], []⟩ [] S.backlog).sub).subscriptions ∧
      (b.pump n).1.nextId = b.nextId ∧
      (b.pump n).1.retryDelay = b.retryDelay ∧
      leasesOf (b.pump n).2 =
        leasesOf (leaseFrom ⟨{ S with backlog := [] }, c, b.nextObject, [], []⟩ [] S.backlog).notices := by
  unfold pump
  rw [found]
  simp only [channel]
  split <;> simp

@[simp] theorem topics_pump (n : String) : (b.pump n).1.topics = b.topics := by
  cases found : b.subscription? n with
  | none => rw [pump_of_missing b found]
  | some S =>
    cases channel : S.sender.bind b.channel? with
    | none => rw [pump_of_no_channel b found channel]
    | some c => exact (pump_of_channel b found channel).1

@[simp] theorem nextId_pump (n : String) : (b.pump n).1.nextId = b.nextId := by
  cases found : b.subscription? n with
  | none => rw [pump_of_missing b found]
  | some S =>
    cases channel : S.sender.bind b.channel? with
    | none => rw [pump_of_no_channel b found channel]
    | some c => exact (pump_of_channel b found channel).2.2.1

@[simp] theorem retryDelay_pump (n : String) : (b.pump n).1.retryDelay = b.retryDelay := by
  cases found : b.subscription? n with
  | none => rw [pump_of_missing b found]
  | some S =>
    cases channel : S.sender.bind b.channel? with
    | none => rw [pump_of_no_channel b found channel]
    | some c => exact (pump_of_channel b found channel).2.2.2.1

@[simp] theorem topic?_pump (n x : String) : (b.pump n).1.topic? x = b.topic? x :=
  topic?_of_topics b (topics_pump b n) x

/-- The one spec of `pump`: a subscription that exists is left in a state that
a pass of leasing explains, every other subscription is left alone, and every
lease begun is one of its own. -/
theorem pump_pumped {n : String} {S : SubscriptionState} (found : b.subscription? n = some S) :
    ∃ S', (b.pump n).1.subscription? n = some S' ∧ Pumped S S' (leasesOf (b.pump n).2) ∧
      ∀ s, n ≠ s → (b.pump n).1.subscription? s = b.subscription? s := by
  have named : S.name = n := name_of_subscription? b found
  cases channel : S.sender.bind b.channel? with
  | none =>
    rw [pump_of_no_channel b found channel]
    exact ⟨S, found, Pumped.rest S, fun _ _ => rfl⟩
  | some c =>
    obtain ⟨-, subscriptions, -, -, leases⟩ := pump_of_channel b found channel
    obtain ⟨new, took⟩ := leaseFrom_took ⟨{ S with backlog := [] }, c, b.nextObject, [], []⟩ [] S.backlog
      (by simp)
    have stays : (leaseFrom ⟨{ S with backlog := [] }, c, b.nextObject, [], []⟩ [] S.backlog).sub.name = n := by
      rw [took.sub]
      simpa using named
    have began := took.notices
    simp only [leasesOf_nil, List.nil_append] at began
    refine ⟨_, ?_, by simpa [leases, began] using took.pumped, fun s other => ?_⟩
    · rw [subscription?_of_subscriptions _ subscriptions, subscription?_putSubscription]
      simp [stays]
    · rw [subscription?_of_subscriptions _ subscriptions, subscription?_putSubscription]
      simp [stays, other]

/-- After a pass of leasing, the subscription is the one the pass left. -/
theorem subscription?_pump_of_channel {n : String} {S : SubscriptionState} {c : Channel}
    (found : b.subscription? n = some S) (channel : S.sender.bind b.channel? = some c) :
    (b.pump n).1.subscription? n =
      some (leaseFrom ⟨{ S with backlog := [] }, c, b.nextObject, [], []⟩ [] S.backlog).sub := by
  obtain ⟨-, subscriptions, -, -, -⟩ := pump_of_channel b found channel
  obtain ⟨new, took⟩ := leaseFrom_took ⟨{ S with backlog := [] }, c, b.nextObject, [], []⟩ [] S.backlog
    (by simp)
  have stays : (leaseFrom ⟨{ S with backlog := [] }, c, b.nextObject, [], []⟩ [] S.backlog).sub.name = n := by
    rw [took.sub]
    simpa using name_of_subscription? b found
  rw [subscription?_of_subscriptions _ subscriptions, subscription?_putSubscription]
  simp [stays]

/-- A pass of leasing that keeps its channel leaves the channel as the pass left it. -/
theorem channel?_pump_of_sender {n : String} {S : SubscriptionState} {c : Channel}
    (found : b.subscription? n = some S) (channel : S.sender.bind b.channel? = some c)
    (kept : (leaseFrom ⟨{ S with backlog := [] }, c, b.nextObject, [], []⟩ [] S.backlog).sub.sender.isSome) :
    (b.pump n).1.channel? c.id =
      some (leaseFrom ⟨{ S with backlog := [] }, c, b.nextObject, [], []⟩ [] S.backlog).channel := by
  obtain ⟨id, sender, present⟩ := Option.bind_eq_some_iff.1 channel
  have numbered : c.id = id := by simpa using List.find?_some present
  unfold pump
  rw [found]
  simp only [channel]
  rw [if_neg (by simpa [Option.ne_none_iff_isSome] using kept)]
  have sameId : (leaseFrom ⟨{ S with backlog := [] }, c, b.nextObject, [], []⟩ [] S.backlog).channel.id =
      c.id :=
    (leaseFrom_channel _ [] S.backlog).1
  -- the lookup reads the channels only, which putting the subscription back leaves alone
  exact channel?_modifyChannel_self (b.putSubscription _)
    (by rw [channel?_putSubscription]; exact numbered ▸ present) sameId

/-- Whether a subscription could begin one more lease now: a lease is free and it
delivers on a channel with room. -/
def CanLease (b : Broker) (S : SubscriptionState) : Prop :=
  S.outstanding < S.maxOutstanding ∧
    ∃ c, S.sender.bind b.channel? = some c ∧ c.buffer.length < c.capacity

/-- Leasing holds a copy back only for its own key: each copy that `pump` leaves in
the backlog has its ordering key busy, or the subscription can lease no more. -/
theorem pump_left {n : String} {S : SubscriptionState} (found : b.subscription? n = some S) :
    ∃ S', (b.pump n).1.subscription? n = some S' ∧
      ∀ p ∈ S'.backlog, blockedBy S'.busyKeys p ∨ ¬ (b.pump n).1.CanLease S' := by
  cases channel : S.sender.bind b.channel? with
  | none =>
    rw [pump_of_no_channel b found channel]
    exact ⟨S, found, fun _ _ => .inr fun ⟨_, _, bound, _⟩ => by simp [channel] at bound⟩
  | some c =>
    obtain ⟨new, took⟩ := leaseFrom_took ⟨{ S with backlog := [] }, c, b.nextObject, [], []⟩ [] S.backlog
      (by simp)
    refine ⟨_, subscription?_pump_of_channel b found channel, fun p member => ?_⟩
    rcases took.left p member with blocked | stopped
    · exact .inl blocked
    refine .inr fun ⟨free, c', bound, room⟩ => ?_
    -- the pass kept its channel, which the broker now holds as the pass left it
    rcases (leaseFrom_channel ⟨{ S with backlog := [] }, c, b.nextObject, [], []⟩ [] S.backlog).2
      with kept | dropped
    · have sender : S.sender = some c.id := by
        obtain ⟨id, sender, present⟩ := Option.bind_eq_some_iff.1 channel
        rw [sender, show c.id = id by simpa using List.find?_some present]
      rw [kept, sender, Option.bind_some,
        channel?_pump_of_sender b found channel (by rw [kept]; simp [sender])] at bound
      cases bound
      rcases stopped with full | gone | crowded
      · omega
      · rw [kept] at gone
        simp [sender] at gone
      · omega
    · simp [dropped] at bound

theorem subscription?_pump_of_ne {n s : String} (other : n ≠ s) :
    (b.pump n).1.subscription? s = b.subscription? s := by
  cases found : b.subscription? n with
  | none => rw [pump_of_missing b found]
  | some S =>
    obtain ⟨_, _, _, others⟩ := pump_pumped b found
    exact others s other

theorem pump_owner {n : String} {l : Lease} (member : l ∈ leasesOf (b.pump n).2) :
    l.subscription = n := by
  cases found : b.subscription? n with
  | none =>
    rw [pump_of_missing b found] at member
    simp at member
  | some S =>
    obtain ⟨_, _, pumped, _⟩ := pump_pumped b found
    rw [pumped.owner l member, name_of_subscription? b found]

end Broker

end Courier
