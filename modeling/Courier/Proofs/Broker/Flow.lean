import Courier.Proofs.Broker.Channels

namespace Courier.Broker

/-! # Every broker call keeps the laws of a channel

A broker call `Fills` subscription `s` when it keeps the wiring of channels and,
for any tasks of `s` that meet the laws of its channel before, the laws hold
after with a task added for each lease the call began for `s`. It `Conserves` `s`
when, besides, no leasable copy of `s` waits after it if none waited before, and
it `Restores` `s` when none waits after it whatever waited before: a call whose
last step is a pass of leasing of `s`.

Calls compose as they do in module `Calls`: most calls change nothing the laws
read of `s` and its channel, the rest are passes of leasing, queueing, and the
opening and closing of channels. -/

/-- The tasks a call adds for the leases it began for `s`. -/
def begunFor (s : String) (notices : List Notice) : List Watch :=
  (leasesFor s notices).map (⟨·, .awaiting⟩)

@[simp] theorem begunFor_nil (s : String) : begunFor s [] = [] := rfl

@[simp] theorem begunFor_append (s : String) (ns more : List Notice) :
    begunFor s (ns ++ more) = begunFor s ns ++ begunFor s more := by
  simp [begunFor]

/-- Every channel of `b` is still there in `b'`, with its capacity. -/
def ChannelsKept (b b' : Broker) : Prop :=
  ∀ id c, b.channel? id = some c → ∃ c', b'.channel? id = some c' ∧ c'.capacity = c.capacity

theorem ChannelsKept.trans {b b' b'' : Broker} (first : ChannelsKept b b') (second : ChannelsKept b' b'') :
    ChannelsKept b b'' := fun id c found => by
  obtain ⟨c', found', same'⟩ := first id c found
  obtain ⟨c'', found'', same''⟩ := second id c' found'
  exact ⟨c'', found'', same''.trans same'⟩

theorem ChannelsKept.of_feeds {b b' : Broker}
    (feeds : ∀ id, (b'.channel? id).map Channel.feed = (b.channel? id).map Channel.feed) :
    ChannelsKept b b' := fun id c found => by
  have feed := feeds id
  rw [found, Option.map_some] at feed
  obtain ⟨c', found', same⟩ := Option.map_eq_some_iff.1 feed
  exact ⟨c', found', congrArg Prod.fst same⟩

theorem ChannelsKept.refl (b : Broker) : ChannelsKept b b := fun _ c found => ⟨c, found, rfl⟩

theorem ChannelsKept.of_channels {b b' : Broker} (same : b'.channels = b.channels) : ChannelsKept b b' :=
  fun id c found => ⟨c, by rw [← found]; simp only [channel?, same], rfl⟩

/-- A broker call that keeps the wiring of channels, the capacity of every channel
and the laws of the channel of `s`, with a task for each lease it began for `s`. -/
structure Fills (s : String) (b : Broker) (result : Broker × List Notice) : Prop where
  wired : Wired b → Wired result.1
  stocked : ∀ watches, Wired b → Stocked b s watches →
    Stocked result.1 s (watches ++ begunFor s result.2)
  fed : ∀ watches, Wired b → Stocked b s watches → Fed b s watches →
    Fed result.1 s (watches ++ begunFor s result.2)
  kept : Wired b → ChannelsKept b result.1

/-- A broker call after which no leasable copy of `s` waits while a lease is free,
if none did before. -/
def Conserves (s : String) (b : Broker) (result : Broker × List Notice) : Prop :=
  ∀ watches, Wired b → Stocked b s watches → Fed b s watches → Conserving b s →
    Conserving result.1 s

/-- A broker call after which no leasable copy of `s` waits while a lease is free. -/
def Restores (s : String) (b : Broker) (result : Broker × List Notice) : Prop :=
  ∀ watches, Wired b → Stocked b s watches → Fed b s watches → Conserving result.1 s

section Composing

variable {s : String} {b : Broker} {first second : Broker × List Notice}

theorem Fills.trans (fills : Fills s b first) (more : Fills s first.1 second) :
    Fills s b (second.1, first.2 ++ second.2) := by
  refine ⟨fun wired => more.wired (fills.wired wired), fun watches wired stocked => ?_,
    fun watches wired stocked fed => ?_, fun wired => (fills.kept wired).trans (more.kept (fills.wired wired))⟩
  · simpa using more.stocked _ (fills.wired wired) (fills.stocked watches wired stocked)
  · simpa using more.fed _ (fills.wired wired) (fills.stocked watches wired stocked)
      (fills.fed watches wired stocked fed)

theorem Conserves.trans (fills : Fills s b first) (conserves : Conserves s b first)
    (more : Conserves s first.1 second) : Conserves s b (second.1, first.2 ++ second.2) :=
  fun watches wired stocked fed conserving =>
    more _ (fills.wired wired) (fills.stocked watches wired stocked)
      (fills.fed watches wired stocked fed) (conserves watches wired stocked fed conserving)

structure Flows (s : String) (b : Broker) (result : Broker × List Notice) : Prop where
  fills : Fills s b result
  conserves : Conserves s b result

theorem Flows.trans (flows : Flows s b first) (more : Flows s first.1 second) :
    Flows s b (second.1, first.2 ++ second.2) :=
  ⟨flows.fills.trans more.fills, flows.conserves.trans flows.fills more.conserves⟩

theorem Flows.after {b' : Broker} (flows : Flows s b (b', [])) (more : Flows s b' second) :
    Flows s b second := by
  simpa using flows.trans more

theorem Flows.trans_nil {b'' : Broker} (flows : Flows s b first) (more : Flows s first.1 (b'', [])) :
    Flows s b (b'', first.2) := by
  simpa using flows.trans more

theorem Restores.conserves (restores : Restores s b first) : Conserves s b first :=
  fun watches wired stocked fed _ => restores watches wired stocked fed

theorem Restores.after (fills : Fills s b first) (more : Restores s first.1 second) :
    Restores s b (second.1, first.2 ++ second.2) :=
  fun watches wired stocked fed =>
    more _ (fills.wired wired) (fills.stocked watches wired stocked) (fills.fed watches wired stocked fed)

theorem Restores.trans (fills : Fills s b first) (restores : Restores s b first)
    (more : Conserves s first.1 second) : Restores s b (second.1, first.2 ++ second.2) :=
  fun watches wired stocked fed =>
    more _ (fills.wired wired) (fills.stocked watches wired stocked)
      (fills.fed watches wired stocked fed) (restores watches wired stocked fed)

end Composing

/-! ## Changes aside of a subscription -/

section Frames

variable {s : String} {b : Broker} {result : Broker × List Notice}

/-- A change that keeps or takes away each subscription's channel and keeps, for
`s`, its limit and the count of its leases out, keeps what the laws read of every
channel, makes no channel and takes back no number, and begins no lease for `s`. -/
theorem Fills.of_frame (next : b.nextObject ≤ result.1.nextObject)
    (channels : ∀ c ∈ result.1.channels, ∃ x ∈ b.channels, c.id = x.id)
    (feeds : ∀ id, (result.1.channel? id).map Channel.feed = (b.channel? id).map Channel.feed)
    (senders : ∀ n sub', result.1.subscription? n = some sub' →
      sub'.sender = none ∨ ∃ sub, b.subscription? n = some sub ∧ sub'.sender = sub.sender)
    (own : ∀ sub', result.1.subscription? s = some sub' → ∃ sub, b.subscription? s = some sub ∧
      (sub'.sender = none ∨ sub'.sender = sub.sender) ∧ sub'.maxOutstanding = sub.maxOutstanding ∧
        sub'.outstanding = sub.outstanding)
    (none : leasesFor s result.2 = []) : Fills s b result := by
  have nothing : begunFor s result.2 = [] := by simp [begunFor, none]
  -- what the laws read of `s` after the change, they read of `s` before it
  have transfer : ∀ sub' id, result.1.subscription? s = some sub' → sub'.sender = some id →
      ∃ sub, b.subscription? s = some sub ∧ sub.sender = some id ∧
        sub'.maxOutstanding = sub.maxOutstanding ∧ sub'.outstanding = sub.outstanding ∧
        (result.1.channel? id).map Channel.feed = (b.channel? id).map Channel.feed := by
    intro sub' id found sender
    obtain ⟨sub, found₀, sameSender, limit, count⟩ := own sub' found
    rcases sameSender with gone | same
    · simp [gone] at sender
    · exact ⟨sub, found₀, same ▸ sender, limit, count, feeds id⟩
  refine ⟨fun wired => wired.of_shape next channels senders,
    fun watches wired stocked => ?_, fun watches wired stocked fed => ?_, fun _ => ChannelsKept.of_feeds feeds⟩
  · rw [nothing, List.append_nil]
    refine ⟨fun w member => Nat.lt_of_lt_of_le (stocked.numbered w member) next,
      fun sub' found => ?_, fun sub' id found sender => ?_⟩
    · obtain ⟨sub, found₀, -, -, count⟩ := own sub' found
      rw [count]
      exact stocked.counted sub found₀
    · obtain ⟨sub, found₀, sender₀, limit, -, feed⟩ := transfer sub' id found sender
      obtain ⟨c, lookup, capacity, bounded⟩ := stocked.feeds sub id found₀ sender₀
      rw [lookup, Option.map_some] at feed
      obtain ⟨c', lookup', same⟩ := Option.map_eq_some_iff.1 feed
      have sameCapacity : c'.capacity = c.capacity := congrArg Prod.fst same
      exact ⟨c', lookup', by rw [sameCapacity, capacity, limit], limit ▸ bounded⟩
  · rw [nothing, List.append_nil]
    intro sub' id c' found sender lookup'
    obtain ⟨sub, found₀, sender₀, -, -, feed⟩ := transfer sub' id found sender
    rw [lookup', Option.map_some] at feed
    obtain ⟨c, lookup, same⟩ := Option.map_eq_some_iff.1 feed.symm
    have buffer : c'.buffer = c.buffer := (congrArg (·.2.1) same).symm
    rw [buffer]
    exact fed sub id c found₀ sender₀ lookup

/-- A change of what no law of channels reads: topics, reply slots, counters,
faults. -/
theorem Fills.rest (subscriptions : result.1.subscriptions = b.subscriptions)
    (channels : result.1.channels = b.channels) (next : result.1.nextObject = b.nextObject)
    (none : leasesFor s result.2 = []) : Flows s b result := by
  have same : ∀ n, result.1.subscription? n = b.subscription? n :=
    subscription?_of_subscriptions b subscriptions
  have lookup : ∀ id, result.1.channel? id = b.channel? id := fun id => by
    simp [channel?, channels]
  refine ⟨Fills.of_frame (Nat.le_of_eq next.symm) (fun c member => ⟨c, channels ▸ member, rfl⟩)
    (fun id => by rw [lookup]) (fun n sub' found => .inr ⟨sub', (same n) ▸ found, rfl⟩)
    (fun sub' found => ⟨sub', (same s) ▸ found, .inr rfl, rfl, rfl⟩) none, ?_⟩
  intro _ _ _ _ conserving
  exact Aside.conserving ⟨same s, fun _ id _ _ => by rw [lookup], Nat.le_of_eq next.symm⟩ conserving

end Frames

/-! ## Passes of leasing -/

section Leasing

variable {s : String} (b : Broker)

theorem pump_kept (n : String) : ChannelsKept b (b.pump n).1 := by
  cases found : b.subscription? n with
  | none =>
    rw [pump_of_missing b found]
    exact fun _ c lookup => ⟨c, lookup, rfl⟩
  | some S =>
    cases channel : S.sender.bind b.channel? with
    | none =>
      rw [pump_of_no_channel b found channel]
      exact fun _ c lookup => ⟨c, lookup, rfl⟩
    | some c =>
      obtain ⟨-, feeds, -⟩ := pump_feeds b found channel
      obtain ⟨new, -, channelR, -⟩ :=
        leaseFrom_numbers ⟨{ S with backlog := [] }, c, b.nextObject, [], []⟩ [] S.backlog
      obtain ⟨id', -, present⟩ := Option.bind_eq_some_iff.1 channel
      have numbered : c.id = id' := by simpa [channel?] using List.find?_some present
      intro id x lookup
      have feed := feeds id
      rw [lookup, Option.map_some] at feed
      obtain ⟨x', lookup', same⟩ := Option.map_eq_some_iff.1 feed
      refine ⟨x', lookup', ?_⟩
      have capacity := congrArg Prod.fst same
      split at capacity
      · -- the channel the pass went over is `c` itself
        rename_i sameId
        have named : x.id = id := by simpa [channel?] using List.find?_some lookup
        rw [← named, sameId, numbered, present] at lookup
        cases lookup
        show x'.feed.1 = c.capacity
        rw [capacity, channelR]
        rfl
      · exact capacity

/-- A pass of leasing of `s` restores: it leaves no leasable copy waiting. -/
theorem pump_fills_self : Fills s b (b.pump s) ∧ Restores s b (b.pump s) := by
  have mine : begunFor s (b.pump s).2 = (leasesOf (b.pump s).2).map (⟨·, .awaiting⟩) := by
    simp [begunFor, leasesFor_of_owner (fun l member => pump_owner b member)]
  refine ⟨⟨pump_wired b s, fun watches wired stocked => ?_, fun watches wired stocked fed => ?_,
    fun _ => pump_kept b s⟩, fun watches wired stocked fed => (pump_fed b wired stocked fed).2⟩
  · rw [mine]
    exact pump_stocked b wired stocked
  · rw [mine]
    exact (pump_fed b wired stocked fed).1

theorem pump_fills_other {n : String} (other : n ≠ s) :
    Flows s b (b.pump n) := by
  have nothing : begunFor s (b.pump n).2 = [] := by
    simp [begunFor, leasesFor_of_owner (fun l member => pump_owner b member), other]
  refine ⟨⟨pump_wired b n, fun watches wired stocked => ?_, fun watches wired stocked fed => ?_,
    fun _ => pump_kept b n⟩, fun _ wired _ _ conserving => (pump_aside b other wired).conserving conserving⟩
  · rw [nothing, List.append_nil]
    exact (pump_aside b other wired).stocked stocked
  · rw [nothing, List.append_nil]
    exact (pump_aside b other wired).fed fed

theorem pump_fills (n : String) : Flows s b (b.pump n) := by
  by_cases same : n = s
  · subst same
    exact ⟨(pump_fills_self b).1, (pump_fills_self b).2.conserves⟩
  · exact pump_fills_other b same

/-- Passes of leasing of several subscriptions, in turn; among them one of `s`
restores. -/
theorem pumpAll_fills (names : List String) :
    Flows s b (b.pumpAll names) ∧
      (s ∈ names → Restores s b (b.pumpAll names)) := by
  induction names generalizing b with
  | nil =>
    exact ⟨@Fills.rest s b (b.pumpAll []) rfl rfl rfl rfl, by simp⟩
  | cons n names induction =>
    rw [pumpAll_cons]
    have first := @pump_fills s b n
    obtain ⟨rest, restoresRest⟩ := induction (b.pump n).1
    refine ⟨first.trans rest, fun member => ?_⟩
    rcases List.mem_cons.1 member with same | later
    · subst same
      exact (pump_fills_self b).2.trans first.fills rest.conserves
    · exact Restores.after first.fills (restoresRest later)

end Leasing

/-! ## Queueing a message -/

section Queueing

variable {s : String} (b : Broker)

@[simp] theorem channels_queueOn (m : StoredMessage) (names : List String) :
    (b.queueOn m names).channels = b.channels := by
  induction names generalizing b with
  | nil => rfl
  | cons head tail induction => exact induction _

@[simp] theorem nextObject_queueOn (m : StoredMessage) (names : List String) :
    (b.queueOn m names).nextObject = b.nextObject := by
  induction names generalizing b with
  | nil => rfl
  | cons head tail induction => exact induction _

variable (x : String) (data : ByteArray) (attributes : List (String × String))
  (orderingKey : Option String)

theorem append_fills : Fills s b ((b.append x data attributes orderingKey).1, []) := by
  cases found : b.topic? x with
  | none =>
    rw [append_of_missing b found]
    exact (@Fills.rest s b ({ b with nextId := b.nextId + 1 }, []) rfl rfl rfl rfl).1
  | some t =>
    rw [append_of_found b found]
    have queued := subscription?_queueOn
      (({ b with nextId := b.nextId + 1 } : Broker).store x (b.nextMessage data attributes orderingKey))
      (b.nextMessage data attributes orderingKey) t.subscriptions
    have lookup : ∀ id, ((({ b with nextId := b.nextId + 1 } : Broker).store x
        (b.nextMessage data attributes orderingKey)).queueOn (b.nextMessage data attributes orderingKey)
        t.subscriptions).channel? id = b.channel? id := fun id => by
      simp [channel?, store, modifyTopic]
    refine Fills.of_frame (by simp [store, modifyTopic]) (fun c member => ⟨c, by simpa [store, modifyTopic]
      using member, rfl⟩) (fun id => by rw [lookup]) (fun n sub' found' => ?_) (fun sub' found' => ?_) rfl
    · rw [queued, subscription?_store, subscription?_withNextId] at found'
      obtain ⟨sub, found₀, rfl⟩ := Option.map_eq_some_iff.1 found'
      exact .inr ⟨sub, found₀, rfl⟩
    · rw [queued, subscription?_store, subscription?_withNextId] at found'
      obtain ⟨sub, found₀, rfl⟩ := Option.map_eq_some_iff.1 found'
      exact ⟨sub, found₀, .inr rfl, rfl, rfl⟩

/-- Queueing a message on a topic `s` is not attached to leaves `s` alone. -/
theorem append_aside (absent : ∀ t, b.topic? x = some t → s ∉ t.subscriptions) :
    Aside s b (b.append x data attributes orderingKey).1 := by
  cases found : b.topic? x with
  | none =>
    rw [append_of_missing b found]
    exact ⟨rfl, fun _ _ _ _ => rfl, Nat.le_refl _⟩
  | some t =>
    rw [append_of_found b found]
    have count : t.subscriptions.count s = 0 := List.count_eq_zero.2 (absent t found)
    refine ⟨?_, fun _ id _ _ => ?_, by simp [store, modifyTopic]⟩
    · rw [subscription?_queueOn, count, subscription?_store, subscription?_withNextId]
      cases b.subscription? s <;> simp
    · simp [channel?, store, modifyTopic]

/-- Publishing: queue the message on the attached subscriptions, and let each of
them lease. -/
theorem appendAndPump_fills :
    Flows s b ((b.appendAndPump x data attributes orderingKey).1,
      (b.appendAndPump x data attributes orderingKey).2.2) := by
  have appended : Fills s b ((b.append x data attributes orderingKey).1, []) :=
    append_fills b x data attributes orderingKey
  cases found : b.topic? x with
  | none =>
    have missing := append_of_missing b found data attributes orderingKey
    have same : b.appendAndPump x data attributes orderingKey =
        ({ b with nextId := b.nextId + 1 }, .error (.notFound x), []) := by
      simp only [appendAndPump, missing]
    rw [same]
    exact Fills.rest rfl rfl rfl rfl
  | some t =>
    have present := append_of_found b found data attributes orderingKey
    rw [present] at appended
    have same : b.appendAndPump x data attributes orderingKey =
        (((b.append x data attributes orderingKey).1.pumpAll t.subscriptions).1,
        .ok (b.nextMessage data attributes orderingKey).messageId,
        ((b.append x data attributes orderingKey).1.pumpAll t.subscriptions).2) := by
      simp only [appendAndPump, present]
    rw [same]
    rw [present]
    obtain ⟨⟨fills, conserves⟩, restores⟩ := @pumpAll_fills s
      (((({ b with nextId := b.nextId + 1 } : Broker).store x
        (b.nextMessage data attributes orderingKey)).queueOn (b.nextMessage data attributes orderingKey)
        t.subscriptions)) t.subscriptions
    refine ⟨by simpa using appended.trans fills, ?_⟩
    by_cases attached : s ∈ t.subscriptions
    · simpa using (Restores.after appended (restores attached)).conserves
    · have aside := append_aside b x data attributes orderingKey fun t' found' => by
        rw [found] at found'
        cases found'
        exact attached
      rw [present] at aside
      have first : Conserves s b (((({ b with nextId := b.nextId + 1 } : Broker).store x
          (b.nextMessage data attributes orderingKey)).queueOn (b.nextMessage data attributes orderingKey)
          t.subscriptions), []) :=
        fun _ _ _ _ conserving => aside.conserving conserving
      simpa using first.trans appended conserves

end Queueing

/-! ## Changes of channels and subscriptions -/

section Changes

variable {s : String} (b : Broker)

theorem dropSender_fills (channel : Option Nat) :
    Flows s b (b.dropSender channel) := by
  have same := subscription?_of_subscriptions b (subscriptions_dropSender b channel)
  have next := Nat.le_of_eq (nextObject_dropSender b channel).symm
  refine ⟨Fills.of_frame next (fun c member => channels_dropSender b channel member)
    (feed_dropSender b channel) (fun n sub' found => .inr ⟨sub', same n ▸ found, rfl⟩)
    (fun sub' found => ⟨sub', same s ▸ found, .inr rfl, rfl, rfl⟩) (by simp [leasesFor]), ?_⟩
  intro _ _ _ _ conserving
  exact Aside.conserving ⟨same s, fun _ id _ _ => feed_dropSender b channel id, next⟩ conserving

/-- A change of one subscription that keeps its name and channel and, when it is
`s`, its limit and the count of its leases out. -/
theorem modifySubscription_fills {n : String} (f : SubscriptionState → SubscriptionState)
    (names : ∀ x, (f x).name = x.name) (sender : ∀ x, (f x).sender = x.sender)
    (own : n = s → ∀ x, (f x).maxOutstanding = x.maxOutstanding ∧ (f x).outstanding = x.outstanding) :
    Fills s b (b.modifySubscription n f, []) := by
  refine Fills.of_frame (Nat.le_refl _) (fun c member => ⟨c, member, rfl⟩) (fun _ => rfl)
    (fun m sub' found => ?_) (fun sub' found => ?_) rfl
  · rw [subscription?_modifySubscription b n m f names] at found
    split at found
    · obtain ⟨sub, found₀, rfl⟩ := Option.map_eq_some_iff.1 found
      exact .inr ⟨sub, found₀, sender sub⟩
    · exact .inr ⟨sub', found, rfl⟩
  · rw [subscription?_modifySubscription b n s f names] at found
    split at found
    · rename_i same
      obtain ⟨sub, found₀, rfl⟩ := Option.map_eq_some_iff.1 found
      exact ⟨sub, found₀, .inr (sender sub), (own same sub).1, (own same sub).2⟩
    · exact ⟨sub', found, .inr rfl, rfl, rfl⟩

theorem modifySubscription_aside {n : String} (other : n ≠ s) (f : SubscriptionState → SubscriptionState)
    (names : ∀ x, (f x).name = x.name) : Aside s b (b.modifySubscription n f) :=
  ⟨by rw [subscription?_modifySubscription b n s f names, if_neg other], fun _ _ _ _ => rfl,
    Nat.le_refl _⟩

theorem unbind_fills (n : String) :
    Flows s b (b.modifySubscription n ({ · with sender := none }), []) := by
  have lookup := subscription?_modifySubscription b n s ({ · with sender := none }) fun _ => rfl
  refine ⟨Fills.of_frame (Nat.le_refl _) (fun c member => ⟨c, member, rfl⟩) (fun _ => rfl)
    (fun m sub' found => ?_) (fun sub' found => ?_) rfl, ?_⟩
  · rw [subscription?_modifySubscription b n m (fun x => { x with sender := none }) fun _ => rfl] at found
    split at found
    · obtain ⟨sub, -, rfl⟩ := Option.map_eq_some_iff.1 found
      exact .inl rfl
    · exact .inr ⟨sub', found, rfl⟩
  · rw [lookup] at found
    split at found
    · obtain ⟨sub, found₀, rfl⟩ := Option.map_eq_some_iff.1 found
      exact ⟨sub, found₀, .inl rfl, rfl, rfl⟩
    · exact ⟨sub', found, .inr rfl, rfl, rfl⟩
  · intro _ _ _ _ conserving
    by_cases same : n = s
    · -- `s` delivers on no channel now
      intro sub id _ found sender
      rw [lookup, if_pos same] at found
      obtain ⟨_, _, rfl⟩ := Option.map_eq_some_iff.1 found
      simp at sender
    · exact (modifySubscription_aside b same (fun x => { x with sender := none }) fun _ => rfl).conserving
        conserving

/-- A change of the channels of one number that keeps their number and capacity,
takes deliveries out of them only, and never makes them receive again. -/
theorem modifyChannel_fills {id : Nat} (f : Channel → Channel) (keeps : ∀ x, x.id = id → (f x).id = id)
    (capacity : ∀ x, b.channel? id = some x → (f x).capacity = x.capacity)
    (buffer : ∀ x, b.channel? id = some x → List.Sublist (f x).buffer x.buffer)
    (receiving : ∀ x, b.channel? id = some x → (f x).receiving = true → x.receiving = true) :
    Flows s b (b.modifyChannel id f, []) := by
  -- the channel of a number after the change is the one before it, changed or not
  have changed : ∀ j x', (b.modifyChannel id f).channel? j = some x' → ∃ x, b.channel? j = some x ∧
      x'.capacity = x.capacity ∧ List.Sublist x'.buffer x.buffer ∧ (x'.receiving = true → x.receiving = true) := by
    intro j x' found'
    rw [channel?_modifyChannel b id f keeps] at found'
    obtain ⟨x, found, rfl⟩ := Option.map_eq_some_iff.1 found'
    refine ⟨x, found, ?_⟩
    split
    · rename_i numbered
      have named : x.id = j := by simpa [channel?] using List.find?_some found
      have atId : b.channel? id = some x := by rw [← numbered, named]; exact found
      exact ⟨capacity x atId, buffer x atId, receiving x atId⟩
    · exact ⟨rfl, List.Sublist.refl _, fun receives => receives⟩
  have present : ∀ j x, b.channel? j = some x → ∃ x', (b.modifyChannel id f).channel? j = some x' := by
    intro j x found
    rw [channel?_modifyChannel b id f keeps, found]
    exact ⟨_, rfl⟩
  refine ⟨⟨fun wired => wired.of_shape (Nat.le_refl _)
      (fun c member => mem_channels_modifyChannel b id f keeps member)
      (fun n sub' found => .inr ⟨sub', found, rfl⟩), fun watches wired stocked => ?_,
    fun watches wired stocked fed => ?_, fun _ j x lookup => ?_⟩, fun _ _ _ _ conserving => ?_⟩
  · simp only [begunFor_nil, List.append_nil]
    refine ⟨stocked.numbered, stocked.counted, fun sub j found sender => ?_⟩
    obtain ⟨x, lookup, capacityX, bounded⟩ := stocked.feeds sub j found sender
    obtain ⟨x', lookup'⟩ := present j x lookup
    obtain ⟨x₀, lookup₀, sameCapacity, -, -⟩ := changed j x' lookup'
    rw [lookup] at lookup₀
    cases lookup₀
    exact ⟨x', lookup', sameCapacity.trans capacityX, bounded⟩
  · simp only [begunFor_nil, List.append_nil]
    intro sub j x' found sender lookup'
    obtain ⟨x, lookup, -, within, -⟩ := changed j x' lookup'
    obtain ⟨waiting, apart⟩ := fed sub j x found sender lookup
    exact ⟨fun d member => waiting d (within.subset member), apart.sublist (within.map _)⟩
  · obtain ⟨x', lookup'⟩ := present j x lookup
    obtain ⟨x₀, lookup₀, sameCapacity, -, -⟩ := changed j x' lookup'
    rw [lookup] at lookup₀
    cases lookup₀
    exact ⟨x', lookup', sameCapacity⟩
  · intro sub j x' found sender lookup' receives
    obtain ⟨x, lookup, -, -, receivedBefore⟩ := changed j x' lookup'
    exact conserving sub j x found sender lookup (receivedBefore receives)

theorem settle_fills (slot : Nat) (reply : Reply) :
    Flows s b (b.settle slot reply) := by
  unfold settle
  split
  · exact Fills.rest rfl rfl rfl (by simp [leasesFor])
  · exact Fills.rest rfl rfl rfl rfl

theorem settleAll_fills (ds : List Delivery) :
    let result := ds.foldl (fun (b, ns) d => let (b, more) := b.settle d.slot .dropped; (b, ns ++ more))
      (b, [])
    Flows s b result := by
  -- the fold carries the notices gathered so far
  have carried : ∀ (ds : List Delivery) (b' : Broker) (ns : List Notice),
      Flows s b (b', ns) →
      let result := ds.foldl (fun (b, ns) d => let (b, more) := b.settle d.slot .dropped; (b, ns ++ more))
        (b', ns)
      Flows s b result := by
    intro ds
    induction ds with
    | nil => exact fun _ _ flows => flows
    | cons d ds induction =>
      intro b' ns flows
      exact induction _ _ (flows.trans (settle_fills b' d.slot .dropped))
  exact carried ds b [] (Fills.rest rfl rfl rfl rfl)

end Changes

/-! ## The calls -/

section Calls

variable {s : String} (b : Broker)

/-- A change aside of `s` that keeps the wiring and begins no lease for `s`. -/
theorem Flows.of_aside {result : Broker × List Notice} (wired : Wired b → Wired result.1)
    (aside : Wired b → Aside s b result.1) (kept : Wired b → ChannelsKept b result.1)
    (none : leasesFor s result.2 = []) : Flows s b result := by
  have nothing : begunFor s result.2 = [] := by simp [begunFor, none]
  refine ⟨⟨wired, fun watches wired₀ stocked => ?_, fun watches wired₀ stocked fed => ?_, kept⟩,
    fun _ wired₀ _ _ conserving => (aside wired₀).conserving conserving⟩
  · rw [nothing, List.append_nil]
    exact (aside wired₀).stocked stocked
  · rw [nothing, List.append_nil]
    exact (aside wired₀).fed fed

@[simp] theorem channels_addTopic (name : String) : (b.addTopic name).channels = b.channels := by
  unfold addTopic
  split <;> rfl

@[simp] theorem nextObject_addTopic (name : String) : (b.addTopic name).nextObject = b.nextObject := by
  unfold addTopic
  split <;> rfl

theorem addTopic_flows (name : String) : Flows s b (b.addTopic name, []) :=
  Fills.rest (subscriptions_addTopic b name) (channels_addTopic b name) (nextObject_addTopic b name) rfl

theorem createTopic_flows (name : String) : Flows s b ((b.createTopic name).1, []) := by
  unfold createTopic
  simp only
  split
  · exact Fills.rest rfl rfl rfl rfl
  · split
    · exact Fills.rest rfl rfl rfl rfl
    · refine Flows.after ?_ (addTopic_flows _ name)
      exact Fills.rest rfl rfl rfl rfl

theorem topicExists_flows (name : String) : Flows s b ((b.topicExists name).1, []) := by
  unfold topicExists
  split
  · exact Fills.rest rfl rfl rfl rfl
  · split
    · refine Flows.after ?_ (addTopic_flows _ name)
      exact Fills.rest rfl rfl rfl rfl
    · exact Fills.rest rfl rfl rfl rfl

theorem flush_flows (topic : String) : Flows s b ((b.flush topic).1, []) := by
  unfold flush
  simp only
  split
  · exact Fills.rest rfl rfl rfl rfl
  · split
    · exact Fills.rest rfl rfl rfl rfl
    · split <;> exact Fills.rest rfl rfl rfl rfl

theorem publish_flows (x : String) (data : ByteArray) (attributes : List (String × String))
    (orderingKey : Option String) :
    Flows s b ((b.publish x data attributes orderingKey).1, (b.publish x data attributes orderingKey).2.2) := by
  unfold publish
  simp only
  split
  · exact Fills.rest rfl rfl rfl rfl
  · split
    · exact Fills.rest rfl rfl rfl rfl
    · refine Flows.after ?_ (appendAndPump_fills _ x data attributes orderingKey)
      exact Fills.rest rfl rfl rfl rfl
    · refine Flows.after ?_ (appendAndPump_fills _ x data attributes orderingKey)
      exact Fills.rest rfl rfl rfl rfl

/-- Moving a copy to the dead-letter topic is publishing it there, then a pass of
leasing of the subscription that gave up on it. -/
theorem forwardDeadLetter_eq (n : String) (p : Pending) (topic : String) :
    b.forwardDeadLetter n p topic =
      let published :=
        b.appendAndPump topic p.message.data (putAttribute deadLetterSourceAttribute n p.message.attributes) none
      ((published.1.pump n).1, published.2.2 ++ (published.1.pump n).2) := by
  unfold forwardDeadLetter appendAndPump
  dsimp only
  rcases b.append topic p.message.data (putAttribute deadLetterSourceAttribute n p.message.attributes) none
    with ⟨b', _ | ⟨id, targets⟩⟩ <;> rfl

theorem forwardDeadLetter_flows (n : String) (p : Pending) (topic : String) :
    Flows s b (b.forwardDeadLetter n p topic) ∧ (n = s → Restores s b (b.forwardDeadLetter n p topic)) := by
  rw [forwardDeadLetter_eq]
  have published := appendAndPump_fills (s := s) b topic p.message.data
    (putAttribute deadLetterSourceAttribute n p.message.attributes) none
  refine ⟨published.trans (pump_fills _ n), fun same => ?_⟩
  subst same
  exact Restores.after published.fills (pump_fills_self _).2

/-- A change of a subscription other than `s` that keeps its name and channel. -/
theorem modifySubscription_flows {n : String} (other : n ≠ s) (f : SubscriptionState → SubscriptionState)
    (names : ∀ x, (f x).name = x.name) (sender : ∀ x, (f x).sender = x.sender) :
    Flows s b (b.modifySubscription n f, []) :=
  ⟨modifySubscription_fills b f names sender fun same => absurd same other,
    fun _ _ _ _ conserving => (modifySubscription_aside b other f names).conserving conserving⟩

section Others

variable {n : String} (other : n ≠ s) (p : Pending)
include other

theorem acknowledge_flows : Flows s b (b.acknowledge n p) := by
  refine Flows.after ?_ (pump_fills _ n)
  exact modifySubscription_flows b other _ (fun _ => rfl) fun _ => rfl

theorem beginBackoff_flows : Flows s b (b.beginBackoff n) := by
  refine Flows.after ?_ (pump_fills _ n)
  exact modifySubscription_flows b other _ (fun _ => rfl) fun _ => rfl

theorem endBackoff_flows : Flows s b (b.endBackoff n p) := by
  refine Flows.after ?_ (pump_fills _ n)
  exact modifySubscription_flows b other _ (fun _ => rfl) fun _ => rfl

theorem deadLetter_flows (topic : String) : Flows s b (b.deadLetter n p topic) := by
  rw [deadLetter_eq]
  refine Flows.after ?_ (forwardDeadLetter_flows _ n p topic).1
  exact modifySubscription_flows b other _ (fun _ => rfl) fun _ => rfl

end Others

theorem close_flows (name : String) : Flows s b ((b.close name).1, (b.close name).2.2) := by
  unfold close
  simp only
  split
  · exact Fills.rest rfl rfl rfl rfl
  · split
    · exact Fills.rest rfl rfl rfl rfl
    · split
      · exact Fills.rest rfl rfl rfl rfl
      · refine Flows.after ?_ ((dropSender_fills _ _).trans_nil (unbind_fills _ name))
        exact Fills.rest rfl rfl rfl rfl

/-! ## Attaching subscriptions -/

@[simp] theorem channels_putSubscription (t : SubscriptionState) :
    (b.putSubscription t).channels = b.channels := by
  unfold putSubscription
  split <;> rfl

@[simp] theorem nextObject_putSubscription (t : SubscriptionState) :
    (b.putSubscription t).nextObject = b.nextObject := by
  unfold putSubscription
  split <;> rfl

/-- A fresh subscription other than `s`: it delivers on no channel yet. -/
theorem putFresh_flows {name : String} (other : name ≠ s) (topic : String) (settings : SubscriptionSettings) :
    Flows s b (b.putSubscription (.fresh name topic settings), []) := by
  have same : (b.putSubscription (.fresh name topic settings)).subscription? s = b.subscription? s := by
    rw [subscription?_putSubscription]
    simp [SubscriptionState.fresh, other]
  have lookup : ∀ id, (b.putSubscription (.fresh name topic settings)).channel? id = b.channel? id :=
    channel?_putSubscription b _
  refine ⟨Fills.of_frame (by simp) (fun c member => ⟨c, by simpa using member, rfl⟩)
    (fun id => by rw [lookup]) (fun m sub' found => ?_) (fun sub' found => ⟨sub', same ▸ found, .inr rfl,
      rfl, rfl⟩) rfl, fun _ _ _ _ conserving => Aside.conserving ⟨same, fun _ id _ _ => by rw [lookup],
      by simp⟩ conserving⟩
  rw [subscription?_putSubscription] at found
  split at found
  · cases found
    exact .inl rfl
  · exact .inr ⟨sub', found, rfl⟩

theorem addSubscription_flows {name : String} (other : name ≠ s) (topic : String)
    (settings : SubscriptionSettings) : Flows s b (b.addSubscription name topic settings) := by
  unfold addSubscription
  split
  · exact Fills.rest rfl rfl rfl rfl
  · cases dropped : b.dropSender ((b.subscription? name).bind (·.sender)) with
    | mk b' gone =>
      have first : Flows s b (b', gone) := by
        rw [← dropped]
        exact dropSender_fills b _
      refine first.trans_nil (Flows.after ?_ (putFresh_flows _ other topic settings))
      exact Fills.rest rfl rfl rfl rfl

theorem createSubscription_flows {name : String} (other : name ≠ s) (topic : String)
    (settings : SubscriptionSettings) : Flows s b ((b.createSubscription name topic settings).1, []) := by
  unfold createSubscription
  simp only
  split
  · exact Fills.rest rfl rfl rfl rfl
  · split
    · exact Fills.rest rfl rfl rfl rfl
    · split
      · exact Fills.rest rfl rfl rfl rfl
      · refine Flows.after ?_ (putFresh_flows _ other topic settings)
        exact Fills.rest rfl rfl rfl rfl

/-! ## The consumer's end -/

theorem receive_flows {channel : Nat} {b' : Broker} {item : Option Delivery}
    (received : b.receive channel = some (b', item)) : Flows s b (b', []) := by
  unfold receive at received
  split at received
  · cases received
    exact Fills.rest rfl rfl rfl rfl
  · rename_i c found
    split at received
    · rename_i d rest taken
      cases received
      refine modifyChannel_fills b _ (fun _ same => same) (fun x lookup => ?_) (fun x lookup => ?_)
        (fun x lookup receives => ?_)
      · rfl
      · rw [found] at lookup
        cases lookup
        rw [taken]
        exact List.sublist_cons_self d rest
      · exact receives
    · split at received
      · cases received
      · cases received
        exact Fills.rest rfl rfl rfl rfl

theorem closeReceiver_flows (channel : Nat) : Flows s b (b.closeReceiver channel, []) :=
  modifyChannel_fills b (fun x => { x with receiving := false }) (fun _ same => same) (fun _ _ => rfl)
    (fun _ _ => List.Sublist.refl _) (fun _ _ receives => by simp at receives)

theorem dropReceiver_flows (channel : Nat) : Flows s b (b.dropReceiver channel) := by
  unfold dropReceiver
  split
  · exact Fills.rest rfl rfl rfl rfl
  · refine Flows.after ?_ (settleAll_fills _ _)
    exact modifyChannel_fills b (fun x => { x with receiving := false, buffer := [] }) (fun _ same => same)
      (fun _ _ => rfl) (fun _ _ => List.nil_sublist _) (fun _ _ receives => by simp at receives)

end Calls

/-! ## Opening a channel -/

/-- A subscription gets a new channel of a limit, numbered with the next free
number, and the broker lets go of its old one: `openDelivery` before its pass of
leasing. -/
def rebind (b : Broker) (name : String) (limit : Nat) (old : Option Nat) : Broker × List Notice :=
  let opened : Broker :=
    { b with nextObject := b.nextObject + 1,
             channels := b.channels ++ [⟨b.nextObject, limit, [], true, true⟩] }
  let (b', gone) := opened.dropSender old
  (b'.modifySubscription name fun x => { x with sender := some b.nextObject, maxOutstanding := limit }, gone)

section Opening

variable {s : String} (b : Broker)

theorem openDelivery_eq {name : String} {S : SubscriptionState} (available : b.checkAvailable = .ok ())
    (found : b.subscription? name = some S) (limit : Nat) :
    b.openDelivery name limit =
      (((b.rebind name (Nat.max limit 1) S.sender).1.pump name).1, .ok b.nextObject,
        (b.rebind name (Nat.max limit 1) S.sender).2 ++ ((b.rebind name (Nat.max limit 1) S.sender).1.pump name).2) := by
  unfold openDelivery rebind
  rw [available]
  simp only [found]

/-- What the laws read of the channels after a subscription is given a new one:
the new channel, empty, under its number, and every other as it was. -/
theorem feed_rebind (name : String) (limit : Nat) (old : Option Nat) (wired : Wired b) (id : Nat) :
    ((b.rebind name limit old).1.channel? id).map Channel.feed =
      if id = b.nextObject then some (limit, [], true) else (b.channel? id).map Channel.feed := by
  let opened : Broker :=
    { b with nextObject := b.nextObject + 1,
             channels := b.channels ++ [⟨b.nextObject, limit, [], true, true⟩] }
  have lookup : opened.channel? id =
      if id = b.nextObject then some ⟨b.nextObject, limit, [], true, true⟩ else b.channel? id := by
    show (b.channels ++ _).find? _ = _
    rw [List.find?_append]
    split
    · rename_i fresh
      subst fresh
      have none : b.channels.find? (·.id == b.nextObject) = none := by
        rw [List.find?_eq_none]
        intro c member
        have below := wired.channels c member
        simp only [beq_iff_eq]
        omega
      simp [none]
    · rename_i other
      have empty : [(⟨b.nextObject, limit, [], true, true⟩ : Channel)].find? (·.id == id) = none := by
        simp [Ne.symm other]
      rw [empty, Option.or_none]
      rfl
  have dropped := feed_dropSender opened old id
  unfold rebind
  simp only
  rw [show ((opened.dropSender old).1.modifySubscription name fun x =>
      { x with sender := some b.nextObject, maxOutstanding := limit }).channel? id =
      (opened.dropSender old).1.channel? id from rfl, dropped, lookup]
  split <;> rfl

theorem nextObject_rebind (name : String) (limit : Nat) (old : Option Nat) :
    (b.rebind name limit old).1.nextObject = b.nextObject + 1 := by
  unfold rebind
  exact nextObject_dropSender _ old

theorem leasesOf_rebind (name : String) (limit : Nat) (old : Option Nat) :
    leasesOf (b.rebind name limit old).2 = [] := by
  unfold rebind
  simp

theorem subscription?_rebind (name : String) (limit : Nat) (old : Option Nat) (n : String) :
    (b.rebind name limit old).1.subscription? n =
      if name = n then (b.subscription? n).map fun x =>
        { x with sender := some b.nextObject, maxOutstanding := limit }
      else b.subscription? n := by
  unfold rebind
  simp only
  rw [subscription?_modifySubscription _ name n
    (fun x => { x with sender := some b.nextObject, maxOutstanding := limit }) fun _ => rfl,
    subscription?_of_subscriptions _ (subscriptions_dropSender _ old)]
  rfl

/-- The new channel is numbered apart from every channel a subscription delivered on. -/
theorem rebind_wired (name : String) (limit : Nat) (old : Option Nat) (wired : Wired b) :
    Wired (b.rebind name limit old).1 := by
  have next := nextObject_rebind b name limit old
  refine ⟨fun c member => ?_, fun n sub' id found sender => ?_,
    fun n m sub₁ sub₂ id found₁ found₂ sender₁ sender₂ => ?_⟩
  · -- every channel is an old one or the new one
    unfold rebind at member
    simp only at member
    obtain ⟨x, old', same⟩ := channels_dropSender _ old member
    rw [next, same]
    rcases List.mem_append.1 old' with kept | fresh
    · exact Nat.lt_succ_of_lt (wired.channels x kept)
    · rw [List.mem_singleton.1 fresh]
      exact Nat.lt_succ_self _
  · rw [subscription?_rebind] at found
    rw [next]
    split at found
    · obtain ⟨x, -, rfl⟩ := Option.map_eq_some_iff.1 found
      cases sender
      exact Nat.lt_succ_self _
    · exact Nat.lt_succ_of_lt (wired.senders n sub' id found sender)
  · -- only the subscription given the new channel delivers on it
    rw [subscription?_rebind] at found₁ found₂
    split at found₁ <;> split at found₂
    · rename_i same₁ same₂
      exact same₁.symm.trans same₂
    · obtain ⟨x, -, rfl⟩ := Option.map_eq_some_iff.1 found₁
      cases sender₁
      have := wired.senders m sub₂ _ found₂ sender₂
      omega
    · obtain ⟨x, -, rfl⟩ := Option.map_eq_some_iff.1 found₂
      cases sender₂
      have := wired.senders n sub₁ _ found₁ sender₁
      omega
    · exact wired.apart n m sub₁ sub₂ id found₁ found₂ sender₁ sender₂

/-- Giving a subscription a new channel keeps every old channel and its capacity. -/
theorem rebind_kept (name : String) (limit : Nat) (old : Option Nat) (wired : Wired b) :
    ChannelsKept b (b.rebind name limit old).1 := by
  intro id c lookup
  have named : c.id = id := by simpa [channel?] using List.find?_some lookup
  have below : id < b.nextObject := named ▸ wired.channels c (List.mem_of_find?_eq_some lookup)
  have feed := feed_rebind b name limit old wired id
  rw [if_neg (Nat.ne_of_lt below), lookup, Option.map_some] at feed
  obtain ⟨c', found', same⟩ := Option.map_eq_some_iff.1 feed
  exact ⟨c', found', congrArg Prod.fst same⟩

/-- Giving another subscription a new channel leaves `s` and its channel alone. -/
theorem rebind_flows {name : String} (other : name ≠ s) (limit : Nat) (old : Option Nat) :
    Flows s b (b.rebind name limit old) := by
  refine Flows.of_aside b (rebind_wired b name limit old) (fun wired => ⟨?_, fun sub id found sender => ?_,
    by rw [nextObject_rebind]; exact Nat.le_succ _⟩) (rebind_kept b name limit old)
    (by simp [leasesFor, leasesOf_rebind])
  · rw [subscription?_rebind, if_neg other]
  · have below := wired.senders s sub id found sender
    rw [feed_rebind b name limit old wired, if_neg (Nat.ne_of_lt below)]

/-- Giving `s` a new channel: nothing waits in it, and no lease of `s` is out on it. -/
theorem rebind_fills (limit : Nat) (old : Option Nat) : Fills s b (b.rebind s limit old) := by
  have nothing : begunFor s (b.rebind s limit old).2 = [] := by
    simp [begunFor, leasesFor, leasesOf_rebind]
  -- after the change `s` delivers on the new channel, which the lookup finds empty
  have onto : ∀ wired : Wired b, ∀ sub' id, (b.rebind s limit old).1.subscription? s = some sub' →
      sub'.sender = some id → ∃ sub, b.subscription? s = some sub ∧ id = b.nextObject ∧
        sub' = { sub with sender := some b.nextObject, maxOutstanding := limit } ∧
        ((b.rebind s limit old).1.channel? id).map Channel.feed = some (limit, [], true) := by
    intro wired sub' id found sender
    rw [subscription?_rebind, if_pos rfl] at found
    obtain ⟨sub, found₀, rfl⟩ := Option.map_eq_some_iff.1 found
    cases sender
    exact ⟨sub, found₀, rfl, rfl, by rw [feed_rebind b s limit old wired, if_pos rfl]⟩
  refine ⟨rebind_wired b s limit old, fun watches wired stocked => ?_, fun watches wired stocked _ => ?_,
    rebind_kept b s limit old⟩
  · rw [nothing, List.append_nil]
    refine ⟨fun w member => ?_, fun sub' found => ?_, fun sub' id found sender => ?_⟩
    · rw [nextObject_rebind]
      exact Nat.lt_succ_of_lt (stocked.numbered w member)
    · rw [subscription?_rebind, if_pos rfl] at found
      obtain ⟨sub, found₀, rfl⟩ := Option.map_eq_some_iff.1 found
      exact stocked.counted sub found₀
    · obtain ⟨sub, found₀, rfl, rfl, feed⟩ := onto wired sub' id found sender
      obtain ⟨c, lookup, same⟩ := Option.map_eq_some_iff.1 feed
      -- every lease of `s` out so far has a reply slot numbered below the new channel
      have none : outAbove watches b.nextObject = [] := by
        rw [outAbove, List.map_eq_nil_iff, List.filter_eq_nil_iff]
        intro w member
        have below := stocked.numbered w member
        simp only [Bool.and_eq_true, Bool.not_eq_true', decide_eq_true_eq, not_and, Nat.not_lt]
        omega
      refine ⟨c, lookup, congrArg Prod.fst same, ?_⟩
      rw [none]
      exact Nat.zero_le _
  · rw [nothing, List.append_nil]
    intro sub' id c found sender lookup
    obtain ⟨-, -, rfl, -, feed⟩ := onto wired sub' id found sender
    rw [lookup, Option.map_some, Option.some.injEq] at feed
    have empty : c.buffer = [] := congrArg (·.2.1) feed
    simp [empty]

theorem openDelivery_flows (name : String) (limit : Nat) :
    Flows s b ((b.openDelivery name limit).1, (b.openDelivery name limit).2.2) := by
  cases available : b.checkAvailable with
  | error e =>
    have same : b.openDelivery name limit = (b, .error e, []) := by
      unfold openDelivery
      rw [available]
    rw [same]
    exact Fills.rest rfl rfl rfl rfl
  | ok u =>
    cases found : b.subscription? name with
    | none =>
      have same : b.openDelivery name limit = (b, .error (.notFound name), []) := by
        unfold openDelivery
        rw [available]
        simp only [found]
      rw [same]
      exact Fills.rest rfl rfl rfl rfl
    | some S =>
      rw [openDelivery_eq b available found]
      by_cases same : name = s
      · subst same
        have fills := @rebind_fills name b (Nat.max limit 1) S.sender
        have pumped := @pump_fills_self name (b.rebind name (Nat.max limit 1) S.sender).1
        exact ⟨fills.trans pumped.1, (Restores.after fills pumped.2).conserves⟩
      · exact (rebind_flows b same _ _).trans (pump_fills _ name)

/-- The channel `openDelivery` opens takes the larger of the limit asked for and one. -/
theorem openDelivery_capacity (wired : Wired b) {name : String} {limit id : Nat}
    (opened : (b.openDelivery name limit).2.1 = .ok id) :
    ∃ c, (b.openDelivery name limit).1.channel? id = some c ∧ c.capacity = max limit 1 := by
  cases available : b.checkAvailable with
  | error e =>
    have same : b.openDelivery name limit = (b, .error e, []) := by
      unfold openDelivery
      rw [available]
    rw [same] at opened
    cases opened
  | ok u =>
    cases found : b.subscription? name with
    | none =>
      have same : b.openDelivery name limit = (b, .error (.notFound name), []) := by
        unfold openDelivery
        rw [available]
        simp only [found]
      rw [same] at opened
      cases opened
    | some S =>
      rw [openDelivery_eq b available found] at opened ⊢
      cases opened
      -- the new channel, numbered with the next free number, survives the pass of leasing
      have feed := feed_rebind b name (Nat.max limit 1) S.sender wired b.nextObject
      rw [if_pos rfl] at feed
      obtain ⟨c, lookup, same⟩ := Option.map_eq_some_iff.1 feed
      obtain ⟨c', lookup', capacity⟩ := pump_kept _ name b.nextObject c lookup
      exact ⟨c', lookup', capacity.trans (congrArg Prod.fst same)⟩

end Opening

/-! ## Releasing leases of `s` -/

theorem outAbove_sublist {watches watches' : List Watch} (sub : List.Sublist watches' watches) (id : Nat) :
    List.Sublist (outAbove watches' id) (outAbove watches id) :=
  (sub.filter _).map _

theorem outAbove_erase (pre post : List Watch) (w : Watch) (id : Nat) :
    List.Sublist (outAbove (pre ++ post) id) (outAbove (pre ++ w :: post) id) :=
  outAbove_sublist (List.Sublist.append_left (List.sublist_cons_self w post) pre) id

theorem outAbove_released (pre post : List Watch) (w : Watch) (released : w.stage.isBackingOff = true)
    (id : Nat) : outAbove (pre ++ w :: post) id = outAbove (pre ++ post) id := by
  simp [outAbove, released]

theorem unreleased_released (pre post : List Watch) (w : Watch) (released : w.stage.isBackingOff = true) :
    unreleased (pre ++ w :: post) = unreleased (pre ++ post) := by
  simp [unreleased, released]

theorem length_unreleased_out (pre post : List Watch) (w : Watch) (out : w.stage.isBackingOff = false) :
    (unreleased (pre ++ w :: post)).length = (unreleased (pre ++ post)).length + 1 := by
  simp [unreleased, out]
  omega

/-- Of the leases out, those whose reply slot is not the one of the task taken away
stay out. -/
theorem mem_outAbove_erase {pre post : List Watch} {w : Watch} {id : Nat} {l : Lease}
    (out : l ∈ outAbove (pre ++ w :: post) id) (other : l.slot ≠ w.lease.slot) :
    l ∈ outAbove (pre ++ post) id := by
  obtain ⟨v, member, held, above, rfl⟩ := mem_outAbove.1 out
  refine mem_outAbove.2 ⟨v, ?_, held, above, rfl⟩
  rcases List.mem_append.1 member with early | late
  · exact List.mem_append_left _ early
  · rcases List.mem_cons.1 late with same | late
    · subst same
      exact absurd rfl other
    · exact List.mem_append_right _ late

section Releasing

variable {s : String} (b : Broker)

/-- A change of `s` that keeps its channel and limit, while its tasks keep fewer
leases out and its count of leases out follows them. -/
theorem retire_laws {f : SubscriptionState → SubscriptionState} (names : ∀ x, (f x).name = x.name)
    (sender : ∀ x, (f x).sender = x.sender) (limit : ∀ x, (f x).maxOutstanding = x.maxOutstanding)
    {watches watches' : List Watch} (numbered : ∀ w ∈ watches', w.lease.slot < b.nextObject)
    (outs : ∀ id, List.Sublist (outAbove watches' id) (outAbove watches id))
    (counted : ∀ x, b.subscription? s = some x → (f x).outstanding = (unreleased watches').length)
    (wired : Wired b) (stocked : Stocked b s watches) :
    Wired (b.modifySubscription s f) ∧ Stocked (b.modifySubscription s f) s watches' ∧
      (Fed b s watches →
        (∀ sub id c, b.subscription? s = some sub → sub.sender = some id → b.channel? id = some c →
          ∀ d ∈ c.buffer, ∀ l ∈ outAbove watches id, l.slot = d.slot → l ∈ outAbove watches' id) →
        Fed (b.modifySubscription s f) s watches') := by
  have lookup : ∀ n, (b.modifySubscription s f).subscription? n =
      if s = n then (b.subscription? n).map f else b.subscription? n :=
    fun n => subscription?_modifySubscription b s n f names
  have own : ∀ sub', (b.modifySubscription s f).subscription? s = some sub' →
      ∃ x, b.subscription? s = some x ∧ sub' = f x := by
    intro sub' found
    rw [lookup, if_pos rfl] at found
    obtain ⟨x, found₀, rfl⟩ := Option.map_eq_some_iff.1 found
    exact ⟨x, found₀, rfl⟩
  refine ⟨wired.of_shape (Nat.le_refl _) (fun c member => ⟨c, member, rfl⟩) fun n sub' found => ?_,
    ⟨numbered, fun sub' found => ?_, fun sub' id found sender' => ?_⟩, fun fed kept => ?_⟩
  · rw [lookup] at found
    split at found
    · obtain ⟨x, found₀, rfl⟩ := Option.map_eq_some_iff.1 found
      exact .inr ⟨x, found₀, sender x⟩
    · exact .inr ⟨sub', found, rfl⟩
  · obtain ⟨x, found₀, rfl⟩ := own sub' found
    exact counted x found₀
  · obtain ⟨x, found₀, rfl⟩ := own sub' found
    rw [sender] at sender'
    obtain ⟨c, channel, capacity, bounded⟩ := stocked.feeds x id found₀ sender'
    exact ⟨c, channel, by rw [capacity, limit], by
      rw [limit]
      exact Nat.le_trans (outs id).length_le bounded⟩
  · intro sub' id c found sender' channel
    obtain ⟨x, found₀, rfl⟩ := own sub' found
    rw [sender] at sender'
    obtain ⟨waiting, apart⟩ := fed x id c found₀ sender' channel
    refine ⟨fun d member => ?_, apart⟩
    obtain ⟨l, out, same⟩ := waiting d member
    exact ⟨l, kept x id c found₀ sender' channel d member l out same, same⟩

/-- Attaching a fresh `s`: it delivers on no channel, and has no task. -/
theorem fresh_laws (wired : Wired b) (topic : String) (settings : SubscriptionSettings) :
    Wired (b.putSubscription (.fresh s topic settings)) ∧
      Stocked (b.putSubscription (.fresh s topic settings)) s [] ∧
      Fed (b.putSubscription (.fresh s topic settings)) s [] ∧
      Conserving (b.putSubscription (.fresh s topic settings)) s := by
  have lookup : (b.putSubscription (.fresh s topic settings)).subscription? s =
      some (.fresh s topic settings) := by
    rw [subscription?_putSubscription]
    simp [SubscriptionState.fresh]
  refine ⟨wired.of_shape (by simp) (fun c member => ⟨c, by simpa using member, rfl⟩)
      fun n sub' found => ?_, ⟨by simp, fun sub' found => ?_, fun sub' id found sender => ?_⟩,
    fun sub' id _ found sender => ?_, fun sub' id _ found sender => ?_⟩
  · rw [subscription?_putSubscription] at found
    split at found
    · cases found
      exact .inl rfl
    · exact .inr ⟨sub', found, rfl⟩
  all_goals
    rw [lookup] at found
    cases found
  · rfl
  all_goals simp [SubscriptionState.fresh] at sender

/-- A section of a task of `s` that releases or puts back the copy of its lease:
it changes `s` by `f`, keeping its channel and limit, while the tasks of `s` go
from `watches` to `watches'` with fewer leases out; then a call that leases again
restores. -/
theorem retire_then {f : SubscriptionState → SubscriptionState} (names : ∀ x, (f x).name = x.name)
    (sender : ∀ x, (f x).sender = x.sender) (limit : ∀ x, (f x).maxOutstanding = x.maxOutstanding)
    {watches watches' : List Watch} (numbered : ∀ w ∈ watches', w.lease.slot < b.nextObject)
    (outs : ∀ id, List.Sublist (outAbove watches' id) (outAbove watches id))
    (counted : ∀ x, b.subscription? s = some x → (f x).outstanding = (unreleased watches').length)
    {result : Broker × List Notice} (fills : Fills s (b.modifySubscription s f) result)
    (restores : Restores s (b.modifySubscription s f) result) (wired : Wired b)
    (stocked : Stocked b s watches) :
    Wired result.1 ∧ ChannelsKept b result.1 ∧ Stocked result.1 s (watches' ++ begunFor s result.2) ∧
      (Fed b s watches →
        (∀ sub id c, b.subscription? s = some sub → sub.sender = some id → b.channel? id = some c →
          ∀ d ∈ c.buffer, ∀ l ∈ outAbove watches id, l.slot = d.slot → l ∈ outAbove watches' id) →
        Fed result.1 s (watches' ++ begunFor s result.2) ∧ Conserving result.1 s) := by
  obtain ⟨wired₁, stocked₁, fed₁⟩ := retire_laws b names sender limit numbered outs counted wired stocked
  refine ⟨fills.wired wired₁, (ChannelsKept.of_channels rfl).trans (fills.kept wired₁),
    fills.stocked _ wired₁ stocked₁, fun fed kept => ?_⟩
  have fedAfter := fed₁ fed kept
  exact ⟨fills.fed _ wired₁ stocked₁ fedAfter, restores _ wired₁ stocked₁ fedAfter⟩

end Releasing

end Courier.Broker
