import Courier.Proofs.Broker.Conservation

namespace Courier.Broker

/-! # One message of a key at a time, in the order queued

Copies that share an ordering key go out one at a time. A pass of leasing marks a
key busy when it leases a copy of it and passes over every other copy of that key;
the key is freed when the copy is acknowledged or dead-lettered, or when it goes
back to the front of the backlog after its backoff. So of each key at most one
message is out (leased or waiting out a backoff), the busy keys are the keys out,
and the messages of a key queued on a subscription are, in queue order: those
already acknowledged or dead-lettered, then the one out, then those still in the
backlog. In particular a message of a key is out only once every earlier message
of its key is settled, and a refused message goes out again before any later one.

All of it is `KeyOrder`, kept by every move. Beside it, `pump_left` says that a
pass of leasing holds a copy back only for the copy's own busy key. -/

/-- The messages with ordering key `k`, in order. -/
def keyed (k : String) (ms : List StoredMessage) : List StoredMessage :=
  ms.filter fun m => m.orderingKey = some k

/-- The messages of key `k` a subscription has out: leased, or waiting out a
backoff. -/
def View.inflight (v : View) (k : String) : List StoredMessage :=
  keyed k (v.watches.map (·.lease.pending.message))

/-- The messages of key `k` in a subscription's backlog, in order. -/
def View.waiting (v : View) (k : String) : List StoredMessage :=
  keyed k (v.sub.backlog.map (·.message))

/-- The ordering laws of one subscription, with the messages queued on it. -/
structure KeyOrder (v : View) (queued : List StoredMessage) : Prop where
  single : ∀ k, (v.inflight k).length ≤ 1
  busy : ∀ k, k ∈ v.sub.busyKeys ↔ v.inflight k ≠ []
  order : ∀ k, ∃ settled, keyed k queued = settled ++ v.inflight k ++ v.waiting k ∧
    ∀ m ∈ settled, m.messageId ∈ v.sub.acknowledged ++ v.sub.deadLettered

@[simp] theorem keyed_nil (k : String) : keyed k [] = [] := rfl

@[simp] theorem keyed_append (k : String) (ms more : List StoredMessage) :
    keyed k (ms ++ more) = keyed k ms ++ keyed k more := by
  simp [keyed]

theorem keyed_singleton (k : String) (m : StoredMessage) :
    keyed k [m] = if m.orderingKey = some k then [m] else [] := by
  by_cases key : m.orderingKey = some k <;> simp [keyed, key]

/-- The keys of messages are those with a message of their own. -/
theorem mem_keys_iff (k : String) (ms : List StoredMessage) :
    k ∈ ms.filterMap (·.orderingKey) ↔ keyed k ms ≠ [] := by
  simp [keyed, List.filter_eq_nil_iff]

theorem ofKey_map_message (k : String) (ps : List Pending) :
    (ofKey k ps).map (·.message) = keyed k (ps.map (·.message)) := by
  simp [ofKey, keyed, List.filter_map, Function.comp_def]

theorem mem_release_busyKeys (s : SubscriptionState) (p : Pending) (k : String) :
    k ∈ (s.release p).busyKeys ↔ k ∈ s.busyKeys ∧ p.message.orderingKey ≠ some k := by
  cases key : p.message.orderingKey with
  | none => simp [SubscriptionState.release, key]
  | some key' =>
    simp only [SubscriptionState.release, key, List.mem_filter, bne_iff_ne, ne_eq,
      Option.some.injEq]
    exact and_congr_right fun _ => ⟨fun other same => other same.symm, fun other same => other same.symm⟩

/-- Taking a task out of the tasks: of the key of its message, the one out was that
message and none is left; the other keys keep what they had out. -/
theorem inflight_remove {v w : View} {pre post : List Watch} {x : Watch} (k : String)
    (split : v.watches = pre ++ x :: post) (watches : w.watches = pre ++ post)
    (single : (v.inflight k).length ≤ 1) :
    (x.lease.pending.message.orderingKey = some k ∧
        v.inflight k = [x.lease.pending.message] ∧ w.inflight k = []) ∨
      (x.lease.pending.message.orderingKey ≠ some k ∧ w.inflight k = v.inflight k) := by
  simp only [View.inflight, split, watches, List.map_append, List.map_cons,
    keyed_append] at single ⊢
  rw [← List.singleton_append, keyed_append, keyed_singleton] at single ⊢
  by_cases key : x.lease.pending.message.orderingKey = some k
  · -- one message of the key is out, and it is this one
    simp only [key, if_true, List.length_append, List.length_singleton] at single
    have before : keyed k (pre.map (·.lease.pending.message)) = [] :=
      List.eq_nil_of_length_eq_zero (by omega)
    have after : keyed k (post.map (·.lease.pending.message)) = [] :=
      List.eq_nil_of_length_eq_zero (by omega)
    exact .inl ⟨key, by simp [key, before, after], by simp [before, after]⟩
  · exact .inr ⟨key, by simp [key]⟩

namespace KeyOrder

variable {v w : View} {queued : List StoredMessage}

/-- A move that changes neither what is out, nor the backlog, nor the busy keys, and
forgets no settled copy, keeps the laws. -/
theorem of_same (order : KeyOrder v queued) (inflight : ∀ k, w.inflight k = v.inflight k)
    (waiting : ∀ k, w.waiting k = v.waiting k) (busy : w.sub.busyKeys = v.sub.busyKeys)
    (settled : ∀ id ∈ v.sub.acknowledged ++ v.sub.deadLettered,
      id ∈ w.sub.acknowledged ++ w.sub.deadLettered) :
    KeyOrder w queued where
  single k := inflight k ▸ order.single k
  busy k := by
    rw [busy, inflight]
    exact order.busy k
  order k := by
    obtain ⟨before, queue, kept⟩ := order.order k
    exact ⟨before, by rw [inflight, waiting, queue], fun m member => settled _ (kept m member)⟩

/-- A message queued goes to the back of its key's backlog. -/
theorem queue (order : KeyOrder v queued) (m : StoredMessage) :
    KeyOrder { v with sub := { v.sub with backlog := v.sub.backlog ++ [⟨m, 0⟩] }
                      messages := v.messages ++ [m] } (queued ++ [m]) where
  single k := order.single k
  busy k := order.busy k
  order k := by
    obtain ⟨before, queue, kept⟩ := order.order k
    refine ⟨before, ?_, kept⟩
    simp only [keyed_append, queue, View.waiting, View.inflight, List.map_append, List.map_cons,
      List.map_nil, List.append_assoc]

/-- A pass of leasing puts out at most one message of a free key, the first one
waiting, and none of a busy key. -/
theorem pump (order : KeyOrder v queued) {sub : SubscriptionState} {new : List Lease}
    (pumped : Pumped v.sub sub new) :
    KeyOrder { v with sub := sub
                      watches := v.watches ++ new.map (⟨·, .awaiting⟩)
                      leases := v.leases ++ new } queued := by
  -- the messages of key `k` the pass put out
  let leased k := keyed k (new.map (·.pending.message))
  have inflight : ∀ k, View.inflight { v with sub := sub
                                              watches := v.watches ++ new.map (⟨·, .awaiting⟩)
                                              leases := v.leases ++ new } k =
      v.inflight k ++ leased k := by
    intro k
    simp [View.inflight, leased, Function.comp_def]
  have taken : ∀ k, (ofKey k (new.map Lease.copy)).map (·.message) = leased k := by
    intro k
    rw [ofKey_map_message, List.map_map]
    rfl
  have waiting : ∀ k, v.waiting k = leased k ++ keyed k (sub.backlog.map (·.message)) := by
    intro k
    have split := congrArg (List.map (·.message)) (pumped.keyed k)
    rwa [List.map_append, taken, ofKey_map_message, ofKey_map_message] at split
  have settled : sub.acknowledged ++ sub.deadLettered = v.sub.acknowledged ++ v.sub.deadLettered := by
    rw [pumped.fields]
  refine ⟨fun k => ?_, fun k => ?_, fun k => ?_⟩
  · rw [inflight]
    by_cases busyKey : k ∈ v.sub.busyKeys
    · -- a busy key gets nothing out
      have none : leased k = [] := by
        rw [← taken, pumped.busyUnleased k busyKey, List.map_nil]
      rw [none, List.append_nil]
      exact order.single k
    · -- a free key had nothing out, and gets at most one
      have idle : v.inflight k = [] := by simpa using mt (order.busy k).2 busyKey
      rw [idle, List.nil_append, ← taken, List.length_map]
      exact pumped.single k
  · have keys : new.filterMap (·.pending.message.orderingKey) =
        (new.map (·.pending.message)).filterMap (·.orderingKey) := by
      rw [List.filterMap_map]
      rfl
    rw [pumped.busyKeys, keys, inflight, List.mem_append, mem_keys_iff, order.busy k]
    by_cases idle : v.inflight k = [] <;> simp [leased, idle]
  · obtain ⟨before, queue, kept⟩ := order.order k
    refine ⟨before, ?_, by rwa [settled]⟩
    rw [queue, waiting, inflight]
    simp [View.waiting]

/-- Taking a task out and freeing its key keeps at most one message out per key, and
the busy keys the keys out. -/
theorem remove {pre post : List Watch} {x : Watch} (order : KeyOrder v queued)
    (split : v.watches = pre ++ x :: post) (watches : w.watches = pre ++ post)
    (busy : w.sub.busyKeys = (v.sub.release x.lease.pending).busyKeys) :
    (∀ k, (w.inflight k).length ≤ 1) ∧ ∀ k, k ∈ w.sub.busyKeys ↔ w.inflight k ≠ [] := by
  refine ⟨fun k => ?_, fun k => ?_⟩
  · rcases inflight_remove k split watches (order.single k) with ⟨-, -, none⟩ | ⟨-, same⟩
    · simp [none]
    · rw [same]
      exact order.single k
  · rw [busy, mem_release_busyKeys]
    rcases inflight_remove k split watches (order.single k) with ⟨key, -, none⟩ | ⟨other, same⟩
    · simp [key, none]
    · rw [same, ← order.busy k]
      simp [other]

/-- Settling the copy of a task: the task goes, its key is freed, and its message
joins the settled ones. -/
theorem settle {pre post : List Watch} {x : Watch} (order : KeyOrder v queued)
    (split : v.watches = pre ++ x :: post) (watches : w.watches = pre ++ post)
    (backlog : w.sub.backlog = v.sub.backlog)
    (busy : w.sub.busyKeys = (v.sub.release x.lease.pending).busyKeys)
    (settled : ∀ id ∈ v.sub.acknowledged ++ v.sub.deadLettered ++ [x.lease.pending.message.messageId],
      id ∈ w.sub.acknowledged ++ w.sub.deadLettered) :
    KeyOrder w queued := by
  obtain ⟨single, busy⟩ := order.remove split watches busy
  refine ⟨single, busy, fun k => ?_⟩
  have waiting : w.waiting k = v.waiting k := by simp [View.waiting, backlog]
  obtain ⟨before, queue, kept⟩ := order.order k
  have old : ∀ m ∈ before, m.messageId ∈ w.sub.acknowledged ++ w.sub.deadLettered :=
    fun m member => settled _ (List.mem_append_left _ (kept m member))
  rcases inflight_remove k split watches (order.single k) with ⟨-, out, none⟩ | ⟨-, same⟩
  · -- the message settled was the one of its key out
    refine ⟨before ++ [x.lease.pending.message], by rw [queue, out, none, waiting]; simp, ?_⟩
    intro m member
    rcases List.mem_append.1 member with earlier | this
    · exact old m earlier
    · rw [List.mem_singleton.1 this]
      exact settled _ (by simp)
  · exact ⟨before, by rw [queue, same, waiting], old⟩

/-- A copy back from its backoff: the task goes, its key is freed, and its message
goes to the front of the backlog, first of its key. -/
theorem requeue {pre post : List Watch} {x : Watch} (order : KeyOrder v queued)
    (split : v.watches = pre ++ x :: post) (watches : w.watches = pre ++ post)
    (backlog : w.sub.backlog = x.lease.pending :: v.sub.backlog)
    (busy : w.sub.busyKeys = (v.sub.release x.lease.pending).busyKeys)
    (settled : ∀ id ∈ v.sub.acknowledged ++ v.sub.deadLettered,
      id ∈ w.sub.acknowledged ++ w.sub.deadLettered) :
    KeyOrder w queued := by
  obtain ⟨single, busy⟩ := order.remove split watches busy
  refine ⟨single, busy, fun k => ?_⟩
  obtain ⟨before, queue, kept⟩ := order.order k
  refine ⟨before, ?_, fun m member => settled _ (kept m member)⟩
  rcases inflight_remove k split watches (order.single k) with ⟨key, out, none⟩ | ⟨other, same⟩
  · rw [queue, out, none]
    simp [View.waiting, backlog, key, keyed]
  · rw [queue, same]
    simp [View.waiting, backlog, other, keyed]

end KeyOrder

/-- Every move keeps the ordering laws, the messages it queues added. -/
theorem Move.keyOrder {retryDelay : Option Duration} {v w : View} {more : List StoredMessage}
    (move : Move retryDelay v w more) {queued : List StoredMessage} (order : KeyOrder v queued) :
    KeyOrder w (queued ++ more) := by
  cases move with
  | queue m fresh => exact order.queue m
  | pump sub new pumped =>
    rw [List.append_nil]
    exact order.pump pumped
  | deliver sender limit =>
    rw [List.append_nil]
    exact order.of_same (fun _ => rfl) (fun _ => rfl) rfl fun _ => id
  | acknowledge pre post l split =>
    rw [List.append_nil]
    refine order.settle split rfl rfl rfl fun id member => ?_
    simp only [SubscriptionState.release, List.mem_append, List.mem_singleton] at member ⊢
    rcases member with (acknowledged | deadLettered) | this
    · exact .inl (.inl acknowledged)
    · exact .inr deadLettered
    · exact .inl (.inr this)
  | refuse pre post l split =>
    rw [List.append_nil]
    exact order.of_same (fun k => by simp [View.inflight, split]) (fun _ => rfl) rfl fun _ => id
  | deadLetter pre post l topic split =>
    rw [List.append_nil]
    exact order.settle split rfl rfl rfl (by simp [SubscriptionState.release])
  | beginBackoff pre post l delay split =>
    rw [List.append_nil]
    exact order.of_same (fun k => by simp [View.inflight, split]) (fun _ => rfl) rfl fun _ => id
  | endBackoff pre post l wake split due =>
    rw [List.append_nil]
    exact order.requeue split rfl rfl rfl fun _ => id
  | elapse millis =>
    rw [List.append_nil]
    exact order.of_same (fun _ => rfl) (fun _ => rfl) rfl fun _ => id

theorem View.Fresh.keyOrder {v : View} (fresh : v.Fresh) : KeyOrder v [] := by
  obtain ⟨sub, watches, -⟩ := fresh
  have inflight : ∀ k, v.inflight k = [] := fun k => by simp [View.inflight, watches]
  refine ⟨fun k => by simp [inflight], fun k => ?_, fun k => ⟨[], ?_, by simp⟩⟩
  · rw [sub]
    simp [SubscriptionState.fresh, inflight]
  · rw [inflight, View.waiting, sub]
    simp [SubscriptionState.fresh]

/-- Per ordering key, delivery is one at a time and in queue order, along every run
from an empty broker in which no call re-registers `s`, and at every moment of it:
of each key at most one message of `s` is out (leased or waiting out a backoff), the
busy keys of `s` are the keys out, and the messages of a key queued on `s` are, in
order, ones acknowledged or dead-lettered, then the one out, then the ones waiting
in the backlog. And every pass of leasing holds a copy back only for the copy's
own busy key, unless the subscription can lease no more. -/
theorem keys_delivered_in_order (retryDelay : Option Duration) (s : String) (calls : List Call)
    (keeps : System.keeps s (System.start retryDelay) calls = true) :
    (∀ v, ((System.start retryDelay).run calls).view s = some v → ∀ k,
      (v.inflight k).length ≤ 1 ∧ (k ∈ v.sub.busyKeys ↔ v.inflight k ≠ []) ∧
        ∃ settled, keyed k (System.arrivals s (System.start retryDelay) calls) =
            settled ++ v.inflight k ++ v.waiting k ∧
          ∀ m ∈ settled, m.messageId ∈ v.sub.acknowledged ++ v.sub.deadLettered) ∧
      ∀ (b : Broker) (n : String) (S : SubscriptionState), b.subscription? n = some S →
        ∃ S', (b.pump n).1.subscription? n = some S' ∧
          ∀ p ∈ S'.backlog, blockedBy S'.busyKeys p ∨ ¬ (b.pump n).1.CanLease S' := by
  refine ⟨fun v viewed k => ?_, fun b n S found => pump_left b found⟩
  have order : KeyOrder v (System.arrivals s (System.start retryDelay) calls) :=
    System.start_law (fun move order => move.keyOrder order) (fun _ fresh => fresh.keyOrder) keeps
      viewed
  exact ⟨order.single k, order.busy k, order.order k⟩

/-- Two messages of one key published on a subscription with a channel: the run
keeps the subscription, and at most one of them is out. -/
theorem keys_delivered_in_order_on_two_publishes :
    let calls : List Call := [.addTopic "t",
      .addSubscription "s" "t" (SubscriptionSettings.forTopic "t" none), .openDelivery "s" 1,
      .publish "t" ByteArray.empty [] (some "k"), .publish "t" ByteArray.empty [] (some "k")]
    System.keeps "s" (System.start none) calls = true ∧
      ∀ v, ((System.start none).run calls).view "s" = some v → (v.inflight "k").length ≤ 1 :=
  ⟨by decide, fun v viewed => ((keys_delivered_in_order none "s" [.addTopic "t",
    .addSubscription "s" "t" (SubscriptionSettings.forTopic "t" none), .openDelivery "s" 1,
    .publish "t" ByteArray.empty [] (some "k"), .publish "t" ByteArray.empty [] (some "k")]
    (by decide)).1 v viewed "k").1⟩

end Courier.Broker
