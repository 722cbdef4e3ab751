import Courier.Proofs.Broker.Conservation
import Mathlib.Data.List.Perm.Subperm

namespace Courier

/-! # Leases and the channel they travel on

A subscription delivers on one channel at a time, opened with a limit of leases.
Channels and reply slots take their numbers from one counter, so the leases sent
on the channel a subscription delivers on now are those of its unreleased leases
whose reply slots are numbered above the channel. Three laws hold of that
channel along every run that does not re-register the subscription:

* the unreleased leases sent on it never exceed its limit, which is the larger
  of the limit asked for when it opened and one;
* each pass of leasing takes out of the backlog exactly the copies it leases and
  keeps the others in their order;
* while no lease is released with its delivery still waiting in the channel, no
  leasable copy waits in the backlog while a lease is free and the consumer
  still receives.

The last law needs the waiting deliveries to be leases still out: a delivery
whose lease was released while it waited takes a place in the channel that no
lease accounts for, and a pass of leasing then stops at a full channel with a
lease free. -/

/-- The delivery a lease puts on its channel. -/
def Lease.delivery (l : Lease) : Delivery :=
  ⟨l.pending.message.messageId, l.pending.message.data, l.pending.message.attributes,
    l.pending.attempts, l.slot⟩

namespace Broker

/-! ## What one pass of leasing does to the channel -/

/-- A pass of leasing puts the delivery of each lease it begins on its channel, and
numbers the leases' reply slots one after another from the next free number. -/
theorem leaseFrom_numbers (acc : Leasing) (kept rest : List Pending) :
    ∃ new, leasesOf (leaseFrom acc kept rest).notices = leasesOf acc.notices ++ new ∧
      (leaseFrom acc kept rest).channel =
        { acc.channel with buffer := acc.channel.buffer ++ new.map Lease.delivery } ∧
      new.map (·.slot) = List.range' acc.nextObject new.length ∧
      (leaseFrom acc kept rest).nextObject = acc.nextObject + new.length ∧
      (leaseFrom acc kept rest).slots = acc.slots ++ new.map (·.slot) := by
  fun_induction leaseFrom acc kept rest with
  | case1 => exact ⟨[], by simp⟩
  | case2 => exact ⟨[], by simp⟩
  | case3 _ _ _ _ _ _ _ induction => exact induction
  | case4 => exact ⟨[], by simp⟩
  | case5 => exact ⟨[], by simp⟩
  | case6 acc kept p rest s c notFull free receiving room leased slot delivery busy s' induction =>
    obtain ⟨new, notices, channel, slots, next, recorded⟩ := induction
    refine ⟨⟨s'.name, leased, slot, s'.settings.ackDeadline⟩ :: new, ?_, ?_, ?_, ?_, ?_⟩
    · simp [notices]
    · rw [channel]
      simp [delivery, Lease.delivery, leased, c]
    · simp only [List.map_cons, slots, List.length_cons, List.range'_succ]
      rfl
    · rw [next]
      simp only [List.length_cons, slot]
      omega
    · rw [recorded]
      simp [slot]

/-- A pass of leasing begins a lease only while fewer than the limit are out, so
it never takes the count of leases out above the larger of where it started and
the limit. -/
theorem leaseFrom_outstanding_le (acc : Leasing) (kept rest : List Pending) :
    (leaseFrom acc kept rest).sub.outstanding ≤ max acc.sub.outstanding acc.sub.maxOutstanding := by
  fun_induction leaseFrom acc kept rest with
  | case1 => exact Nat.le_max_left _ _
  | case2 => exact Nat.le_max_left _ _
  | case3 _ _ _ _ _ _ _ induction => exact induction
  | case4 => exact Nat.le_max_left _ _
  | case5 => exact Nat.le_max_left _ _
  | case6 acc kept p rest s c notFull free receiving room leased slot delivery busy s' induction =>
    -- the lease began with fewer than the limit out, so one more stays within it
    have within : s'.outstanding ≤ s'.maxOutstanding := by
      simp only [s', s] at notFull ⊢
      omega
    calc _ ≤ max s'.outstanding s'.maxOutstanding := induction
      _ = acc.sub.maxOutstanding := Nat.max_eq_right within
      _ ≤ max acc.sub.outstanding acc.sub.maxOutstanding := Nat.le_max_right _ _

/-- The copies a pass of leasing leaves in the backlog keep their order. -/
theorem leaseFrom_sublist (acc : Leasing) (kept rest : List Pending) :
    List.Sublist (leaseFrom acc kept rest).sub.backlog (kept ++ rest) := by
  fun_induction leaseFrom acc kept rest with
  | case1 => simp
  | case2 => simp
  | case3 _ kept p rest _ _ _ induction => simpa using induction
  | case4 => simp
  | case5 => simp
  | case6 acc kept p rest s c notFull free receiving room leased slot delivery busy s' induction =>
    exact induction.trans (List.Sublist.append_left (List.sublist_cons_self p rest) kept)

/-- A pass of leasing takes out of the backlog exactly the copies it leases, and
keeps the others in their order. -/
theorem pump_backlog (b : Broker) {n : String} {S : SubscriptionState} (found : b.subscription? n = some S) :
    ∃ S', (b.pump n).1.subscription? n = some S' ∧ List.Sublist S'.backlog S.backlog ∧
      (S'.backlog ++ (leasesOf (b.pump n).2).map Lease.copy).Perm S.backlog := by
  obtain ⟨S', found', pumped, -⟩ := pump_pumped b found
  refine ⟨S', found', ?_, pumped.copies⟩
  cases channel : S.sender.bind b.channel? with
  | none =>
    -- no channel: the pass leaves the subscription as it was
    rw [pump_of_no_channel b found channel, found, Option.some.injEq] at found'
    rw [← found']
  | some c =>
    rw [subscription?_pump_of_channel b found channel, Option.some.injEq] at found'
    rw [← found']
    simpa using leaseFrom_sublist _ [] S.backlog

end Broker

/-- What the laws of a channel read: its capacity, the deliveries waiting in it and
whether its consumer still receives. -/
def Channel.feed (c : Channel) : Nat × List Delivery × Bool := (c.capacity, c.buffer, c.receiving)

namespace Broker

/-! ## Looking up channels after a change -/

variable (b : Broker)

/-- Changing the channels of a number, by a change that keeps their number, changes
what a lookup finds by that change. -/
theorem channel?_modifyChannel (id : Nat) (f : Channel → Channel)
    (keeps : ∀ x, x.id = id → (f x).id = id) (id' : Nat) :
    (b.modifyChannel id f).channel? id' = (b.channel? id').map fun x => if x.id = id then f x else x := by
  have samePredicate : ((fun x : Channel => x.id == id') ∘ fun x => if x.id == id then f x else x) =
      fun x => x.id == id' := by
    funext x
    by_cases numbered : x.id = id <;> simp [numbered, keeps x]
  unfold channel? modifyChannel
  rw [List.find?_map, samePredicate]
  simp

theorem mem_channels_modifyChannel (id : Nat) (f : Channel → Channel)
    (keeps : ∀ x, x.id = id → (f x).id = id) {c : Channel} (member : c ∈ (b.modifyChannel id f).channels) :
    ∃ x ∈ b.channels, c.id = x.id := by
  obtain ⟨x, old, rfl⟩ := List.mem_map.1 member
  refine ⟨x, old, ?_⟩
  by_cases numbered : x.id = id <;> simp [numbered, keeps x]

/-- Letting go of a channel's sending end changes nothing a law of channels reads. -/
theorem feed_dropSender (channel : Option Nat) (id : Nat) :
    ((b.dropSender channel).1.channel? id).map Channel.feed = (b.channel? id).map Channel.feed := by
  unfold dropSender
  split
  · rfl
  · split
    · split
      · dsimp only
        rw [channel?_modifyChannel b _ (fun x => { x with sending := false }) (fun _ same => same)]
        cases b.channel? id <;> simp only [Option.map_none, Option.map_some]
        congr 1
        split <;> rfl
      · rfl
    · rfl

@[simp] theorem nextObject_dropSender (channel : Option Nat) :
    (b.dropSender channel).1.nextObject = b.nextObject := by
  unfold dropSender
  split
  · rfl
  · split
    · split <;> rfl
    · rfl

theorem channels_dropSender (channel : Option Nat) {c : Channel}
    (member : c ∈ (b.dropSender channel).1.channels) : ∃ x ∈ b.channels, c.id = x.id := by
  unfold dropSender at member
  split at member
  · exact ⟨c, member, rfl⟩
  · split at member
    · split at member
      · exact mem_channels_modifyChannel b _ (fun x => { x with sending := false })
          (fun _ same => same) member
      · exact ⟨c, member, rfl⟩
    · exact ⟨c, member, rfl⟩

/-! ## What `pump` does to the channels -/

/-- The channel a pass of leasing goes over, as the broker has it afterwards: with
the deliveries the pass put on it, and all else as it was. -/
theorem pump_feeds {n : String} {S : SubscriptionState} {c : Channel} (found : b.subscription? n = some S)
    (channel : S.sender.bind b.channel? = some c) :
    let R := leaseFrom ⟨{ S with backlog := [] }, c, b.nextObject, [], []⟩ [] S.backlog
    (b.pump n).1.nextObject = R.nextObject ∧
      (∀ id, ((b.pump n).1.channel? id).map Channel.feed =
        (b.channel? id).map fun x => if x.id = c.id then R.channel.feed else x.feed) ∧
      ∀ x ∈ (b.pump n).1.channels, ∃ y ∈ b.channels, x.id = y.id := by
  intro R
  have sameId : R.channel.id = c.id := (leaseFrom_channel _ [] S.backlog).1
  let b₀ := (b.putSubscription R.sub).modifyChannel c.id fun _ => R.channel
  let b₁ : Broker := { b₀ with nextObject := R.nextObject, replies := b₀.replies ++ R.slots.map (·, .waiting) }
  have feeds : ∀ id, (b₁.channel? id).map Channel.feed =
      (b.channel? id).map fun x => if x.id = c.id then R.channel.feed else x.feed := by
    intro id
    have lookup : b₁.channel? id =
        ((b.putSubscription R.sub).modifyChannel c.id (fun _ => R.channel)).channel? id := rfl
    rw [lookup, channel?_modifyChannel _ _ _ (fun _ _ => sameId), channel?_putSubscription]
    cases b.channel? id with
    | none => rfl
    | some x => by_cases numbered : x.id = c.id <;> simp [numbered]
  have channels : ∀ x ∈ b₁.channels, ∃ y ∈ b.channels, x.id = y.id := fun x member =>
    mem_channels_modifyChannel (b.putSubscription R.sub) _ _ (fun _ _ => sameId)
      (by simpa [b₁] using member) |>.imp fun y ⟨old, same⟩ => ⟨by
        unfold putSubscription at old; split at old <;> exact old, same⟩
  have result : (b.pump n).1 = if R.sub.sender.isNone then (b₁.dropSender (some c.id)).1 else b₁ := by
    unfold pump
    rw [found]
    simp only [channel]
    by_cases dropped : R.sub.sender.isNone = true
    · rw [if_pos dropped, if_pos dropped]
    · rw [if_neg dropped, if_neg dropped]
  rw [result]
  split
  · refine ⟨nextObject_dropSender b₁ _, fun id => (feed_dropSender b₁ _ id).trans (feeds id),
      fun x member => ?_⟩
    obtain ⟨y, member', same⟩ := channels_dropSender b₁ _ member
    obtain ⟨z, old, same'⟩ := channels y member'
    exact ⟨z, old, same.trans same'⟩
  · exact ⟨rfl, feeds, channels⟩

/-- A pass of leasing takes up no number when the subscription has no channel. -/
theorem pump_of_idle {n : String} (idle : ∀ S, b.subscription? n = some S → S.sender.bind b.channel? = none) :
    b.pump n = (b, []) := by
  cases found : b.subscription? n with
  | none => exact pump_of_missing b found
  | some S => exact pump_of_no_channel b found (idle S found)

/-! ## The laws -/

/-- The leases among some tasks that are out and not yet released, whose reply
slots are numbered above `id`. -/
def outAbove (watches : List Watch) (id : Nat) : List Lease :=
  (watches.filter fun w => !w.stage.isBackingOff && decide (id < w.lease.slot)).map (·.lease)

/-- The tasks of leases that are out and not yet released. -/
def unreleased (watches : List Watch) : List Watch := watches.filter (!·.stage.isBackingOff)

/-- How a broker's subscriptions are wired to its channels: every channel, and
every channel a subscription delivers on, is numbered below the next free number,
and no two subscriptions deliver on one channel. -/
structure Wired (b : Broker) : Prop where
  channels : ∀ c ∈ b.channels, c.id < b.nextObject
  senders : ∀ n sub id, b.subscription? n = some sub → sub.sender = some id → id < b.nextObject
  apart : ∀ n m sub sub' id, b.subscription? n = some sub → b.subscription? m = some sub' →
    sub.sender = some id → sub'.sender = some id → n = m

/-- The laws of the leases of subscription `s`, with the tasks `watches` of its
leases, that hold along every run: reply slots are numbered below the next free
number, the leases out are the unreleased ones, and the channel `s` delivers on
takes as many deliveries as `s` may lease while the unreleased leases sent on it
stay within that limit. -/
structure Stocked (b : Broker) (s : String) (watches : List Watch) : Prop where
  numbered : ∀ w ∈ watches, w.lease.slot < b.nextObject
  counted : ∀ sub, b.subscription? s = some sub → sub.outstanding = (unreleased watches).length
  feeds : ∀ sub id, b.subscription? s = some sub → sub.sender = some id →
    ∃ c, b.channel? id = some c ∧ c.capacity = sub.maxOutstanding ∧
      (outAbove watches id).length ≤ sub.maxOutstanding

/-- Every delivery waiting in the channel subscription `s` delivers on belongs to a
lease sent on it and not yet released, and no two share a lease. -/
def Fed (b : Broker) (s : String) (watches : List Watch) : Prop :=
  ∀ sub id c, b.subscription? s = some sub → sub.sender = some id → b.channel? id = some c →
    (∀ d ∈ c.buffer, ∃ l ∈ outAbove watches id, l.slot = d.slot) ∧ (c.buffer.map (·.slot)).Nodup

/-- No copy that could be leased waits in the backlog of subscription `s` while a
lease is free and the channel `s` delivers on still receives. -/
def Conserving (b : Broker) (s : String) : Prop :=
  ∀ sub id c, b.subscription? s = some sub → sub.sender = some id → b.channel? id = some c →
    c.receiving → sub.outstanding < sub.maxOutstanding → ∀ p ∈ sub.backlog, blockedBy sub.busyKeys p

theorem length_outAbove_le (watches : List Watch) (id : Nat) :
    (outAbove watches id).length ≤ (unreleased watches).length := by
  induction watches with
  | nil => simp [outAbove, unreleased]
  | cons w rest induction =>
    by_cases held : w.stage.isBackingOff = true
    · simpa [outAbove, unreleased, held] using induction
    · by_cases above : id < w.lease.slot
      · simpa [outAbove, unreleased, held, above] using induction
      · simp [outAbove, unreleased, held, above] at induction ⊢
        omega

theorem mem_outAbove {l : Lease} {watches : List Watch} {id : Nat} :
    l ∈ outAbove watches id ↔
      ∃ w ∈ watches, w.stage.isBackingOff = false ∧ id < w.lease.slot ∧ w.lease = l := by
  simp [outAbove, and_assoc]

/-- The deliveries waiting in a channel that feeds a subscription are at most its
unreleased leases sent on that channel. -/
theorem length_buffer_le {c : Channel} {watches : List Watch} {id : Nat}
    (waiting : ∀ d ∈ c.buffer, ∃ l ∈ outAbove watches id, l.slot = d.slot)
    (apart : (c.buffer.map (·.slot)).Nodup) : c.buffer.length ≤ (outAbove watches id).length := by
  have within : c.buffer.map (·.slot) ⊆ (outAbove watches id).map (·.slot) := by
    intro slot member
    obtain ⟨d, waits, rfl⟩ := List.mem_map.1 member
    obtain ⟨l, out, same⟩ := waiting d waits
    exact List.mem_map.2 ⟨l, out, same⟩
  simpa using apart.length_le_of_subset within

@[simp] theorem outAbove_append (watches more : List Watch) (id : Nat) :
    outAbove (watches ++ more) id = outAbove watches id ++ outAbove more id := by
  simp [outAbove]

@[simp] theorem unreleased_append (watches more : List Watch) :
    unreleased (watches ++ more) = unreleased watches ++ unreleased more := by
  simp [unreleased]

/-- Tasks of leases just begun, with reply slots above a channel, are all out on it. -/
theorem outAbove_begun {new : List Lease} {id : Nat} (above : ∀ l ∈ new, id < l.slot) :
    outAbove (new.map (⟨·, .awaiting⟩)) id = new := by
  induction new with
  | nil => rfl
  | cons l rest induction =>
    have rest' : outAbove (rest.map (⟨·, .awaiting⟩)) id = rest :=
      induction fun l' member => above l' (List.mem_cons_of_mem l member)
    simp only [outAbove, List.map_cons, List.filter_cons, Stage.isBackingOff_awaiting,
      Bool.not_false, Bool.true_and, decide_eq_true (above l List.mem_cons_self)] at rest' ⊢
    simp [rest']

@[simp] theorem unreleased_begun (new : List Lease) :
    unreleased (new.map (⟨·, .awaiting⟩)) = new.map (⟨·, .awaiting⟩) := by
  simp [unreleased]

/-- A change that leaves subscription `s`, and what the laws read of the channel it
delivers on, as they were, and takes back no number. -/
structure Aside (s : String) (b b' : Broker) : Prop where
  sub : b'.subscription? s = b.subscription? s
  feed : ∀ sub id, b.subscription? s = some sub → sub.sender = some id →
    (b'.channel? id).map Channel.feed = (b.channel? id).map Channel.feed
  next : b.nextObject ≤ b'.nextObject

section Aside

variable {s : String} {b b' b'' : Broker} {watches : List Watch}

theorem Aside.refl (b : Broker) : Aside s b b := ⟨rfl, fun _ _ _ _ => rfl, Nat.le_refl _⟩

theorem Aside.trans (first : Aside s b b') (second : Aside s b' b'') : Aside s b b'' :=
  ⟨second.sub.trans first.sub,
    fun sub id found sender =>
      (second.feed sub id (first.sub.trans found) sender).trans (first.feed sub id found sender),
    Nat.le_trans first.next second.next⟩

/-- The channel a subscription delivers on, as a change aside of it leaves it. -/
theorem Aside.channel (aside : Aside s b b') {sub : SubscriptionState} {id : Nat} {c : Channel}
    (found : b.subscription? s = some sub) (sender : sub.sender = some id)
    (channel : b.channel? id = some c) : ∃ c', b'.channel? id = some c' ∧ c'.feed = c.feed := by
  have feed := aside.feed sub id found sender
  rw [channel, Option.map_some] at feed
  obtain ⟨c', found', same⟩ := Option.map_eq_some_iff.1 feed
  exact ⟨c', found', same⟩

theorem Aside.stocked (aside : Aside s b b') (stocked : Stocked b s watches) :
    Stocked b' s watches := by
  refine ⟨fun w member => Nat.lt_of_lt_of_le (stocked.numbered w member) aside.next,
    fun sub found => stocked.counted sub (aside.sub.symm.trans found), fun sub id found sender => ?_⟩
  have found₀ := aside.sub.symm.trans found
  obtain ⟨c, channel, capacity, bounded⟩ := stocked.feeds sub id found₀ sender
  obtain ⟨c', channel', same⟩ := aside.channel found₀ sender channel
  have sameCapacity : c'.capacity = c.capacity := congrArg Prod.fst same
  exact ⟨c', channel', sameCapacity.trans capacity, bounded⟩

theorem Aside.fed (aside : Aside s b b') (fed : Fed b s watches) : Fed b' s watches := by
  intro sub id c' found sender channel'
  have found₀ := aside.sub.symm.trans found
  have feed := aside.feed sub id found₀ sender
  rw [channel', Option.map_some] at feed
  obtain ⟨c, channel, same⟩ := Option.map_eq_some_iff.1 feed.symm
  have buffer : c'.buffer = c.buffer := (congrArg (·.2.1) same).symm
  rw [buffer]
  exact fed sub id c found₀ sender channel

theorem Aside.conserving (aside : Aside s b b') (conserving : Conserving b s) : Conserving b' s := by
  intro sub id c' found sender channel' receiving
  have found₀ := aside.sub.symm.trans found
  have feed := aside.feed sub id found₀ sender
  rw [channel', Option.map_some] at feed
  obtain ⟨c, channel, same⟩ := Option.map_eq_some_iff.1 feed.symm
  have receives : c.receiving = c'.receiving := congrArg (·.2.2) same
  exact conserving sub id c found₀ sender channel (receives ▸ receiving)

end Aside

/-- Wiring stays as it was under a change that takes back no number, makes no
channel under a new number, and only keeps or takes away the channel each
subscription delivers on. -/
theorem Wired.of_shape {b b' : Broker} (wired : Wired b) (next : b.nextObject ≤ b'.nextObject)
    (channels : ∀ c ∈ b'.channels, ∃ x ∈ b.channels, c.id = x.id)
    (senders : ∀ n sub', b'.subscription? n = some sub' →
      sub'.sender = none ∨ ∃ sub, b.subscription? n = some sub ∧ sub'.sender = sub.sender) :
    Wired b' := by
  refine ⟨fun c member => ?_, fun n sub' id found sender => ?_,
    fun n m sub₁ sub₂ id found₁ found₂ sender₁ sender₂ => ?_⟩
  · obtain ⟨x, old, same⟩ := channels c member
    exact same ▸ Nat.lt_of_lt_of_le (wired.channels x old) next
  · rcases senders n sub' found with none | ⟨sub, old, same⟩
    · simp [none] at sender
    · exact Nat.lt_of_lt_of_le (wired.senders n sub id old (same ▸ sender)) next
  · rcases senders n sub₁ found₁ with none | ⟨old₁, found₁', same₁⟩
    · simp [none] at sender₁
    rcases senders m sub₂ found₂ with none | ⟨old₂, found₂', same₂⟩
    · simp [none] at sender₂
    exact wired.apart n m old₁ old₂ id found₁' found₂' (same₁ ▸ sender₁) (same₂ ▸ sender₂)

/-! ## Passes of leasing keep the laws -/

section Pumping

variable (b : Broker)

theorem nextObject_le_pump (n : String) : b.nextObject ≤ (b.pump n).1.nextObject := by
  cases found : b.subscription? n with
  | none => simp only [pump_of_missing b found, Nat.le_refl]
  | some S =>
    cases channel : S.sender.bind b.channel? with
    | none => simp only [pump_of_no_channel b found channel, Nat.le_refl]
    | some c =>
      obtain ⟨new, -, -, -, next, -⟩ :=
        leaseFrom_numbers ⟨{ S with backlog := [] }, c, b.nextObject, [], []⟩ [] S.backlog
      rw [(pump_feeds b found channel).1, next]
      exact Nat.le_add_right _ _

theorem pump_wired (n : String) (wired : Wired b) : Wired (b.pump n).1 := by
  cases found : b.subscription? n with
  | none => rwa [pump_of_missing b found]
  | some S =>
    cases channel : S.sender.bind b.channel? with
    | none => rwa [pump_of_no_channel b found channel]
    | some c =>
      obtain ⟨-, -, channels⟩ := pump_feeds b found channel
      refine wired.of_shape (nextObject_le_pump b n) channels fun m sub' found' => ?_
      by_cases same : n = m
      · subst same
        rw [subscription?_pump_of_channel b found channel] at found'
        cases found'
        rcases (leaseFrom_channel ⟨{ S with backlog := [] }, c, b.nextObject, [], []⟩ [] S.backlog).2
          with kept | dropped
        · exact .inr ⟨S, found, kept⟩
        · exact .inl dropped
      · rw [subscription?_pump_of_ne b same] at found'
        exact .inr ⟨sub', found', rfl⟩

/-- A pass of leasing of another subscription leaves `s` and its channel alone:
the two deliver on different channels. -/
theorem pump_aside {s n : String} (other : n ≠ s) (wired : Wired b) : Aside s b (b.pump n).1 := by
  refine ⟨subscription?_pump_of_ne b other, fun sub id found sender => ?_, nextObject_le_pump b n⟩
  cases foundN : b.subscription? n with
  | none => rw [pump_of_missing b foundN]
  | some S =>
    cases channel : S.sender.bind b.channel? with
    | none => rw [pump_of_no_channel b foundN channel]
    | some c =>
      obtain ⟨-, feeds, -⟩ := pump_feeds b foundN channel
      rw [feeds id]
      obtain ⟨id', senderN, present⟩ := Option.bind_eq_some_iff.1 channel
      have numbered : c.id = id' := by simpa [channel?] using List.find?_some present
      have apart : id' ≠ id := fun same =>
        other (wired.apart n s S sub id foundN found (same ▸ senderN) sender)
      cases lookup : b.channel? id with
      | none => rfl
      | some x =>
        have numberedX : x.id = id := by simpa [channel?] using List.find?_some lookup
        simp [numberedX, numbered, Ne.symm apart]

/-- What a pass of leasing did to a subscription `S`, left as `S'`, and to the
channel `c` it delivers on, left as `c'`, beginning the leases `new`. -/
structure Passed (b b' : Broker) (S S' : SubscriptionState) (c c' : Channel) (new : List Lease) :
    Prop where
  pumped : Pumped S S' new
  capacity : c'.capacity = c.capacity
  receiving : c'.receiving = c.receiving
  buffer : c'.buffer = c.buffer ++ new.map Lease.delivery
  slots : new.map (·.slot) = List.range' b.nextObject new.length
  next : b'.nextObject = b.nextObject + new.length
  limit : S'.maxOutstanding = S.maxOutstanding
  sender : S'.sender = S.sender ∨ S'.sender = none
  bounded : S'.outstanding ≤ max S.outstanding S.maxOutstanding
  left : ∀ p ∈ S'.backlog, blockedBy S'.busyKeys p ∨ S'.maxOutstanding ≤ S'.outstanding ∨
    S'.sender = none ∨ c'.capacity ≤ c'.buffer.length

/-- The spec of a pass of leasing over a subscription that has a channel. -/
theorem pump_passed {n : String} {S : SubscriptionState} {c : Channel} (found : b.subscription? n = some S)
    (channel : S.sender.bind b.channel? = some c) :
    ∃ S' c', (b.pump n).1.subscription? n = some S' ∧ (b.pump n).1.channel? c.id = some c' ∧
      Passed b (b.pump n).1 S S' c c' (leasesOf (b.pump n).2) := by
  let acc : Leasing := ⟨{ S with backlog := [] }, c, b.nextObject, [], []⟩
  obtain ⟨new, notices, channelR, slots, nextR, -⟩ := leaseFrom_numbers acc [] S.backlog
  obtain ⟨new', took⟩ := leaseFrom_took acc [] S.backlog (by simp)
  have same : new' = new := by
    have began := took.notices
    rw [notices] at began
    simpa [acc] using began.symm
  subst same
  obtain ⟨next, feeds, -⟩ := pump_feeds b found channel
  have leases : leasesOf (b.pump n).2 = new' := by
    rw [(pump_of_channel b found channel).2.2.2.2, notices]
    simp [acc]
  obtain ⟨id, -, present⟩ := Option.bind_eq_some_iff.1 channel
  have numbered : c.id = id := by simpa [channel?] using List.find?_some present
  have present' : b.channel? c.id = some c := by rw [numbered]; exact present
  have lookup := feeds c.id
  rw [present', Option.map_some, if_pos rfl] at lookup
  obtain ⟨c', found', feed⟩ := Option.map_eq_some_iff.1 lookup
  have fields : (leaseFrom acc [] S.backlog).channel.feed = (c.capacity, c.buffer ++ new'.map Lease.delivery,
      c.receiving) := by
    rw [channelR]
    rfl
  rw [fields] at feed
  simp only [Channel.feed, Prod.mk.injEq] at feed
  refine ⟨_, c', subscription?_pump_of_channel b found channel, found', ?_⟩
  rw [leases]
  refine
    { pumped := took.pumped
      capacity := feed.1
      receiving := feed.2.2
      buffer := feed.2.1
      slots := slots
      next := by rw [next, nextR]
      limit := by rw [took.sub]
      sender := (leaseFrom_channel acc [] S.backlog).2
      bounded := leaseFrom_outstanding_le acc [] S.backlog
      left := fun p member => ?_ }
  rcases took.left p member with blocked | full | gone | crowded
  · exact .inl blocked
  · exact .inr (.inl full)
  · exact .inr (.inr (.inl gone))
  · refine .inr (.inr (.inr ?_))
    rw [feed.1, feed.2.1]
    rw [channelR] at crowded
    simpa [acc] using crowded

/-- The leases a pass begins are numbered from the next free number on. -/
theorem Passed.above {b₀ b' : Broker} {S S' : SubscriptionState} {c c' : Channel} {new : List Lease}
    (passed : Passed b₀ b' S S' c c' new) :
    ∀ l ∈ new, b₀.nextObject ≤ l.slot ∧ l.slot < b'.nextObject := by
  intro l member
  have listed : l.slot ∈ List.range' b₀.nextObject new.length := by
    rw [← passed.slots]
    exact List.mem_map_of_mem member
  rw [List.mem_range'_1] at listed
  rw [passed.next]
  exact listed

/-- A pass of leasing of `s` keeps the laws that hold along every run, with a task
for each lease it begins. -/
theorem pump_stocked {s : String} {watches : List Watch} (wired : Wired b)
    (stocked : Stocked b s watches) :
    Stocked (b.pump s).1 s (watches ++ (leasesOf (b.pump s).2).map (⟨·, .awaiting⟩)) := by
  cases found : b.subscription? s with
  | none => simpa [pump_of_missing b found] using stocked
  | some S =>
    cases channel : S.sender.bind b.channel? with
    | none => simpa [pump_of_no_channel b found channel] using stocked
    | some c =>
      obtain ⟨S', c', found', channel', passed⟩ := pump_passed b found channel
      obtain ⟨id, sender, present⟩ := Option.bind_eq_some_iff.1 channel
      have numbered : c.id = id := by simpa [channel?] using List.find?_some present
      have counted := stocked.counted S found
      obtain ⟨c₀, present₀, capacity, bounded⟩ := stocked.feeds S id found sender
      rw [present] at present₀
      cases present₀
      refine ⟨fun w member => ?_, fun sub found'' => ?_, fun sub id' found'' sender' => ?_⟩
      · rcases List.mem_append.1 member with old | begun
        · exact Nat.lt_of_lt_of_le (stocked.numbered w old) (nextObject_le_pump b s)
        · obtain ⟨l, member', rfl⟩ := List.mem_map.1 begun
          exact (passed.above l member').2
      · rw [found'] at found''
        cases found''
        rw [passed.pumped.outstanding, counted]
        simp
      · rw [found'] at found''
        cases found''
        have sameSender : S'.sender = S.sender := by
          rcases passed.sender with kept | dropped
          · exact kept
          · simp [dropped] at sender'
        rw [sameSender, sender] at sender'
        cases sender'
        refine ⟨c', numbered ▸ channel', by rw [passed.capacity, capacity, passed.limit], ?_⟩
        -- the leases begun go on top of those out, within the limit
        have idBelow : id < b.nextObject := wired.senders s S id found sender
        rw [outAbove_append, outAbove_begun fun l member =>
          Nat.lt_of_lt_of_le idBelow (passed.above l member).1, List.length_append, passed.limit]
        have outBelow : (outAbove watches id).length ≤ S.outstanding :=
          counted ▸ length_outAbove_le watches id
        have grown : S'.outstanding = S.outstanding + (leasesOf (b.pump s).2).length :=
          passed.pumped.outstanding
        have within := passed.bounded
        rcases Nat.le_total S.outstanding S.maxOutstanding with under | above
        · rw [Nat.max_eq_right under] at within
          omega
        · rw [Nat.max_eq_left above] at within
          omega

/-- Once every delivery waiting in the channel of `s` is a lease out, a pass of
leasing of `s` keeps that so, and leaves no leasable copy waiting while a lease is
free and the channel receives: the waiting deliveries are at most the leases out,
so a channel with a lease free has room. -/
theorem pump_fed {s : String} {watches : List Watch} (wired : Wired b) (stocked : Stocked b s watches)
    (fed : Fed b s watches) :
    Fed (b.pump s).1 s (watches ++ (leasesOf (b.pump s).2).map (⟨·, .awaiting⟩)) ∧
      Conserving (b.pump s).1 s := by
  cases found : b.subscription? s with
  | none =>
    rw [pump_of_missing b found]
    refine ⟨by simpa using fed, fun sub _ _ found' => ?_⟩
    simp [found] at found'
  | some S =>
    cases channel : S.sender.bind b.channel? with
    | none =>
      rw [pump_of_no_channel b found channel]
      refine ⟨by simpa using fed, fun sub id c found' sender lookup => ?_⟩
      rw [found] at found'
      cases found'
      simp [sender, lookup] at channel
    | some c =>
      obtain ⟨S', c', found', channel', passed⟩ := pump_passed b found channel
      obtain ⟨id, sender, present⟩ := Option.bind_eq_some_iff.1 channel
      have numbered : c.id = id := by simpa [channel?] using List.find?_some present
      have stockedAfter := pump_stocked b wired stocked
      have idBelow : id < b.nextObject := wired.senders s S id found sender
      -- only the channel `s` delivered on can be the one it delivers on now
      have onto : ∀ sub id' c'', (b.pump s).1.subscription? s = some sub → sub.sender = some id' →
          (b.pump s).1.channel? id' = some c'' → S' = sub ∧ id = id' ∧ c' = c'' := by
        intro sub id' c'' found'' sender' lookup
        have sameSub : S' = sub := Option.some.inj (found'.symm.trans found'')
        subst sameSub
        have sameSender : S'.sender = S.sender := by
          rcases passed.sender with kept | dropped
          · exact kept
          · simp [dropped] at sender'
        have sameId : id = id' := Option.some.inj (sender.symm.trans (sameSender.symm.trans sender'))
        subst sameId
        rw [← numbered, channel'] at lookup
        exact ⟨rfl, rfl, Option.some.inj lookup⟩
      have fedAfter : Fed (b.pump s).1 s (watches ++ (leasesOf (b.pump s).2).map (⟨·, .awaiting⟩)) := by
        intro sub id' c'' found'' sender' lookup
        obtain ⟨rfl, rfl, rfl⟩ := onto sub id' c'' found'' sender' lookup
        obtain ⟨waiting, apart⟩ := fed S id c found sender present
        have begun := @outAbove_begun _ id fun l member =>
          Nat.lt_of_lt_of_le idBelow (passed.above l member).1
        rw [passed.buffer, outAbove_append, begun]
        refine ⟨fun d member => ?_, ?_⟩
        · rcases List.mem_append.1 member with old | new
          · obtain ⟨l, out, same⟩ := waiting d old
            exact ⟨l, List.mem_append_left _ out, same⟩
          · obtain ⟨l, member', rfl⟩ := List.mem_map.1 new
            exact ⟨l, List.mem_append_right _ member', rfl⟩
        · have slots : (leasesOf (b.pump s).2).map (fun l => l.delivery.slot) =
              List.range' b.nextObject (leasesOf (b.pump s).2).length := passed.slots
          rw [List.map_append, List.map_map, Function.comp_def, slots, List.nodup_append]
          refine ⟨apart, List.nodup_range', fun x old y fresh same => ?_⟩
          obtain ⟨d, waits, rfl⟩ := List.mem_map.1 old
          obtain ⟨l, out, sameSlot⟩ := waiting d waits
          obtain ⟨w, member, -, -, rfl⟩ := mem_outAbove.1 out
          have below := stocked.numbered w member
          rw [List.mem_range'_1] at fresh
          omega
      refine ⟨fedAfter, fun sub id' c'' found'' sender' lookup receiving free p member => ?_⟩
      obtain ⟨rfl, rfl, rfl⟩ := onto sub id' c'' found'' sender' lookup
      rcases passed.left p member with blocked | full | gone | crowded
      · exact blocked
      · omega
      · simp [gone] at sender'
      · -- a full channel would hold more deliveries than leases are out
        obtain ⟨waiting, apart⟩ := fedAfter S' id c' found' sender' lookup
        have held := length_buffer_le waiting apart
        have out := length_outAbove_le (watches ++ (leasesOf (b.pump s).2).map (⟨·, .awaiting⟩)) id
        rw [← stockedAfter.counted S' found'] at out
        obtain ⟨c₁, lookup₁, capacity, -⟩ := stockedAfter.feeds S' id found' sender'
        rw [lookup] at lookup₁
        cases lookup₁
        omega

end Pumping

end Broker

end Courier
