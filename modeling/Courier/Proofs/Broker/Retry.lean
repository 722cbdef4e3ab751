import Courier.Proofs.Broker.Ordering

namespace Courier.Broker

/-! # Where a refused copy goes

A refused copy whose attempts are not used up goes back to the front of its
subscription's backlog when its backoff ends, and the pass of leasing that follows
either delivers it again at once or stops at it, so that it stays first. A copy
given up on is copied to the dead-letter topic: exactly one message, with the
copy's data, its attributes with the name of the subscription that gave up, and
no ordering key, and nothing at all when that topic is missing. -/

variable (b : Broker)

theorem leaseFrom_keeps_leases {acc : Leasing} {l : Lease} (rest : List Pending)
    (member : l ∈ leasesOf acc.notices) : l ∈ leasesOf (leaseFrom acc [] rest).notices := by
  obtain ⟨new, took⟩ := leaseFrom_took acc [] rest (by simp)
  rw [took.notices]
  exact List.mem_append_left _ member

/-- A pass of leasing that starts at a copy whose key is free delivers that copy,
or leaves it first in the backlog. -/
theorem leaseFrom_first (acc : Leasing) (p : Pending) (rest : List Pending)
    (free : ¬ blockedBy acc.sub.busyKeys p) :
    (leaseFrom acc [] (p :: rest)).sub.backlog.head? = some p ∨
      ∃ l ∈ leasesOf (leaseFrom acc [] (p :: rest)).notices,
        l.pending = { p with attempts := p.attempts + 1 } := by
  rw [leaseFrom]
  split
  · simp
  split
  · rename_i busy
    exact absurd ((blockedBy_iff_any _ p).2 busy) free
  split
  · simp
  split
  · simp
  -- the copy is leased; the rest of the pass only adds leases after it
  exact .inr ⟨⟨acc.sub.name, { p with attempts := p.attempts + 1 }, acc.nextObject,
    acc.sub.settings.ackDeadline⟩, leaseFrom_keeps_leases rest (by simp), rfl⟩

/-- A subscription as the end of a backoff leaves it: the copy is back at the
front of the backlog, and its key is released. -/
def returned (p : Pending) (s : SubscriptionState) : SubscriptionState :=
  { s with retrying := s.retrying - 1,
           busyKeys := match p.message.orderingKey with
             | some key => s.busyKeys.filter (· != key)
             | none => s.busyKeys,
           backlog := p :: s.backlog }

/-- A copy back from its backoff is first in its subscription's backlog, or is
delivered again at once. -/
theorem endBackoff_front {n : String} {S : SubscriptionState} (p : Pending)
    (found : b.subscription? n = some S) :
    ∃ S', (b.endBackoff n p).1.subscription? n = some S' ∧
      (S'.backlog.head? = some p ∨
        ∃ l ∈ leasesOf (b.endBackoff n p).2, l.pending = { p with attempts := p.attempts + 1 }) := by
  have found' : (b.modifySubscription n (returned p)).subscription? n = some (returned p S) := by
    rw [subscription?_modifySubscription b n n (returned p) fun _ => rfl]
    simp [found]
  -- the copy's own key was just freed
  have free : ¬ blockedBy (returned p S).busyKeys p := by
    rintro ⟨k, keyed, busy⟩
    simp [returned, keyed] at busy
  have unfolded : b.endBackoff n p = (b.modifySubscription n (returned p)).pump n := rfl
  rw [unfolded]
  cases channel : (returned p S).sender.bind (b.modifySubscription n (returned p)).channel? with
  | none =>
    rw [pump_of_no_channel _ found' channel]
    exact ⟨_, found', .inl rfl⟩
  | some c =>
    refine ⟨_, subscription?_pump_of_channel _ found' channel, ?_⟩
    obtain ⟨-, -, -, -, leases⟩ := pump_of_channel _ found' channel
    rcases leaseFrom_first ⟨{ returned p S with backlog := [] }, c,
        (b.modifySubscription n (returned p)).nextObject, [], []⟩ p S.backlog free with first | leased
    · exact .inl first
    · exact .inr (by rw [leases]; exact leased)

/-- The dead-letter part of giving up, with the copy already recorded, changes the
topics as appending the copy does. -/
theorem messagesOf_forwardDeadLetter (n : String) (p : Pending) (topic y : String) :
    (b.forwardDeadLetter n p topic).1.messagesOf y =
      (b.append topic p.message.data (putAttribute deadLetterSourceAttribute n p.message.attributes)
        none).1.messagesOf y := by
  unfold forwardDeadLetter
  simp only
  split
  · rename_i b' id targets result
    rw [result]
    exact messagesOf_of_topics ((pumpAll_steady b' targets).trans (pump_steady _ n)).topics y
  · rename_i b' error result
    rw [result]
    exact messagesOf_of_topics (pump_steady b' n).topics y

/-- Giving up on a copy appends exactly one message to the dead-letter topic, when
that exists: the copy's data, its attributes with the subscription that gave up,
and no ordering key. No other topic changes. -/
theorem messagesOf_deadLetter (n : String) (p : Pending) (topic y : String) :
    (b.deadLetter n p topic).1.messagesOf y =
      b.messagesOf y ++
        if topic = y ∧ b.hasTopic y then
          [b.nextMessage p.message.data (putAttribute deadLetterSourceAttribute n p.message.attributes)
            none]
        else [] := by
  rw [deadLetter_eq, messagesOf_forwardDeadLetter, messagesOf_append]
  rfl

end Courier.Broker
