import Courier.Proofs.Broker.Retry
import Courier.Proofs.Broker.Publishing
import Mathlib.Data.List.Nodup

namespace Courier.Broker

/-! # Delivery attempts follow the subscription's policy

Each delivery of a copy counts one more attempt: the deliveries of a message on a
subscription carry attempts 1, 2, 3, and so on, with no gap and no repeat. A
refused copy whose attempts are not used up waits the planned delay (the fixed
redelivery wait when one is set, else the backoff after that attempt) and goes
back to the front of the backlog; once they are used up it is dead-lettered
instead. So a copy is delivered at most as often as its subscription allows, and
at least once, and a dead-lettered copy was delivered exactly that often.

The wait is a sleep, and a sleep lasts at most thirty years: a refused copy is
back no sooner than its delay after the refusal, or thirty years when the delay
is longer.

`AttemptLog` states the attempts of each copy, place by place; every move keeps
it. `Backoff` follows one refused copy until its backoff is over. -/

/-- The most deliveries a copy gets: the attempts allowed, and at least one. -/
def mostDeliveries (settings : SubscriptionSettings) : Nat :=
  max settings.deadLetter.maxDeliveryAttempts 1

theorem mostDeliveries_pos (settings : SubscriptionSettings) : 0 < mostDeliveries settings := by
  unfold mostDeliveries
  omega

/-- The attempts the deliveries of a message carry, in order. -/
def attemptsOf (id : String) (leases : List Lease) : List Nat :=
  (leases.filter (·.pending.message.messageId = id)).map (·.pending.attempts)

/-- What a task's stage says of its lease under the subscription's policy: a
refused lease with attempts left waits the planned delay, and one without names
the dead-letter topic. -/
def StageLaw (retryDelay : Option Duration) (settings : SubscriptionSettings) (w : Watch) : Prop :=
  match w.stage with
  | .awaiting => True
  | .refused delay => w.lease.pending.attempts < settings.deadLetter.maxDeliveryAttempts ∧
      delay = retryDelay.getD (settings.retryBackoff.delayAfter w.lease.pending.attempts)
  | .backingOff _ => w.lease.pending.attempts < settings.deadLetter.maxDeliveryAttempts
  | .exhausted topic => settings.deadLetter.maxDeliveryAttempts ≤ w.lease.pending.attempts ∧
      topic = settings.deadLetter.topic

/-- The ids of a subscription's copies, place by place. -/
def View.places (v : View) : List String :=
  v.sub.backlog.map (·.message.messageId) ++ v.watches.map (·.lease.pending.message.messageId) ++
    v.sub.acknowledged ++ v.sub.deadLettered

/-- The delivery log of one subscription, with the messages queued on it: the
queued messages have distinct ids, and each copy has had the deliveries its place
allows, numbered from one. -/
structure AttemptLog (retryDelay : Option Duration) (v : View) (queued : List StoredMessage) :
    Prop where
  distinct : (queued.map (·.messageId)).Nodup
  known : ∀ m ∈ queued, m.messageId ∈ v.messages.map (·.messageId)
  logged : ∀ l ∈ v.leases, l.pending.message.messageId ∈ queued.map (·.messageId)
  waiting : ∀ p ∈ v.sub.backlog,
    attemptsOf p.message.messageId v.leases = List.range' 1 p.attempts ∧
      p.attempts < mostDeliveries v.sub.settings
  out : ∀ w ∈ v.watches,
    attemptsOf w.lease.pending.message.messageId v.leases = List.range' 1 w.lease.pending.attempts ∧
      0 < w.lease.pending.attempts ∧ w.lease.pending.attempts ≤ mostDeliveries v.sub.settings ∧
      StageLaw retryDelay v.sub.settings w
  acknowledged : ∀ id ∈ v.sub.acknowledged, ∃ n, 0 < n ∧ n ≤ mostDeliveries v.sub.settings ∧
    attemptsOf id v.leases = List.range' 1 n
  deadLettered : ∀ id ∈ v.sub.deadLettered,
    attemptsOf id v.leases = List.range' 1 (mostDeliveries v.sub.settings)

@[simp] theorem attemptsOf_append (id : String) (leases more : List Lease) :
    attemptsOf id (leases ++ more) = attemptsOf id leases ++ attemptsOf id more := by
  simp [attemptsOf]

theorem attemptsOf_of_not_mem {id : String} {leases : List Lease}
    (absent : id ∉ leases.map (·.pending.message.messageId)) : attemptsOf id leases = [] := by
  simp only [attemptsOf, List.map_eq_nil_iff, List.filter_eq_nil_iff, decide_eq_true_eq]
  intro l member same
  exact absent (List.mem_map.2 ⟨l, member, same⟩)

/-- Among leases of distinct messages, a lease's message has its one attempt. -/
theorem attemptsOf_of_nodup {leases : List Lease}
    (distinct : (leases.map (·.pending.message.messageId)).Nodup) {l : Lease} (member : l ∈ leases) :
    attemptsOf l.pending.message.messageId leases = [l.pending.attempts] := by
  induction leases with
  | nil => simp at member
  | cons head tail induction =>
    rw [List.map_cons, List.nodup_cons] at distinct
    rcases List.mem_cons.1 member with rfl | later
    · have rest : attemptsOf l.pending.message.messageId tail = [] :=
        attemptsOf_of_not_mem distinct.1
      simpa [attemptsOf] using rest
    · have other : head.pending.message.messageId ≠ l.pending.message.messageId := fun same =>
        distinct.1 (same ▸ List.mem_map.2 ⟨l, later, rfl⟩)
      simpa [attemptsOf, other] using induction distinct.2 later

/-- A copy is in one place at most: the places hold the queued ids. -/
theorem Ledger.places_nodup {v : View} {queued : List StoredMessage} (ledger : Ledger v queued)
    (distinct : (queued.map (·.messageId)).Nodup) : v.places.Nodup := by
  refine List.nodup_iff_count.2 fun x => ?_
  have held := List.perm_iff_count.1 ledger.holdings x
  rw [View.count_holdings] at held
  have once := List.nodup_iff_count.1 distinct x
  simp only [View.places, List.count_append]
  omega

/-- With each copy in one place at most, the backlog and the tasks hold distinct
messages, and no message of the backlog is elsewhere. -/
theorem View.places_apart {v : View} (distinct : v.places.Nodup) :
    (v.sub.backlog.map (·.message.messageId)).Nodup ∧
      (v.watches.map (·.lease.pending.message.messageId)).Nodup ∧
      ∀ id ∈ v.sub.backlog.map (·.message.messageId),
        id ∉ v.watches.map (·.lease.pending.message.messageId) ∧ id ∉ v.sub.acknowledged ∧
          id ∉ v.sub.deadLettered := by
  simp only [View.places, List.append_assoc, List.nodup_append] at distinct
  obtain ⟨backlog, ⟨watches, -, -⟩, apart⟩ := distinct
  refine ⟨backlog, watches, fun id member => ⟨fun out => ?_, fun acknowledged => ?_,
    fun deadLettered => ?_⟩⟩
  · exact apart id member id (List.mem_append_left _ out) rfl
  · exact apart id member id (List.mem_append_right _ (List.mem_append_left _ acknowledged)) rfl
  · exact apart id member id (List.mem_append_right _ (List.mem_append_right _ deadLettered)) rfl

namespace AttemptLog

variable {retryDelay : Option Duration} {v : View} {queued : List StoredMessage}

theorem backlog_queued (ledger : Ledger v queued) {p : Pending} (member : p ∈ v.sub.backlog) :
    p.message.messageId ∈ queued.map (·.messageId) := by
  refine ledger.holdings.subset ?_
  simp only [View.holdings, List.append_assoc]
  exact List.mem_append_left _ (List.mem_map_of_mem member)

theorem queue (log : AttemptLog retryDelay v queued) (m : StoredMessage)
    (fresh : m.messageId ∉ v.messages.map (·.messageId)) :
    AttemptLog retryDelay { v with sub := { v.sub with backlog := v.sub.backlog ++ [⟨m, 0⟩] }
                                   messages := v.messages ++ [m] } (queued ++ [m]) := by
  have unqueued : m.messageId ∉ queued.map (·.messageId) := fun member => by
    obtain ⟨m', queuedMember, same⟩ := List.mem_map.1 member
    exact fresh (same ▸ log.known m' queuedMember)
  have unlogged : attemptsOf m.messageId v.leases = [] :=
    attemptsOf_of_not_mem fun member => by
      obtain ⟨l, leased, same⟩ := List.mem_map.1 member
      exact unqueued (same ▸ log.logged l leased)
  refine ⟨?_, fun m' member => ?_, fun l leased => ?_, fun p member => ?_, log.out,
    log.acknowledged, log.deadLettered⟩
  · rw [List.map_append, List.nodup_append]
    refine ⟨log.distinct, by simp, fun a old b new => ?_⟩
    have added : b = m.messageId := by simpa using new
    rw [added]
    exact fun same => unqueued (same ▸ old)
  · show m'.messageId ∈ (v.messages ++ [m]).map (·.messageId)
    rw [List.map_append]
    rcases List.mem_append.1 member with old | new
    · exact List.mem_append_left _ (log.known m' old)
    · simp [List.mem_singleton.1 new]
  · rw [List.map_append]
    exact List.mem_append_left _ (log.logged l leased)
  · rcases List.mem_append.1 member with old | new
    · exact log.waiting p old
    · rw [List.mem_singleton.1 new]
      exact ⟨unlogged, mostDeliveries_pos _⟩

/-- A pass of leasing delivers each copy it takes once more, numbered one past the
deliveries it had. -/
theorem pump (log : AttemptLog retryDelay v queued) (ledger : Ledger v queued)
    {sub : SubscriptionState} {new : List Lease} (pumped : Pumped v.sub sub new) :
    AttemptLog retryDelay { v with sub := sub
                                   watches := v.watches ++ new.map (⟨·, .awaiting⟩)
                                   leases := v.leases ++ new } queued := by
  obtain ⟨backlogDistinct, -, apart⟩ := View.places_apart (ledger.places_nodup log.distinct)
  -- the leases begun are of copies taken from the backlog, each at most once
  have ids : (sub.backlog.map (·.message.messageId) ++ new.map (·.pending.message.messageId)).Perm
      (v.sub.backlog.map (·.message.messageId)) := by
    simpa [Function.comp_def, Lease.copy] using pumped.copies.map (·.message.messageId)
  obtain ⟨-, newDistinct, leftApart⟩ := List.nodup_append.1 (ids.nodup_iff.2 backlogDistinct)
  have taken : ∀ l ∈ new, l.copy ∈ v.sub.backlog := fun l member =>
    pumped.copies.subset (List.mem_append_right _ (List.mem_map_of_mem member))
  have elsewhere : ∀ id, id ∉ v.sub.backlog.map (·.message.messageId) → attemptsOf id new = [] :=
    fun id absent => attemptsOf_of_not_mem fun member =>
      absent (ids.subset (List.mem_append_right _ member))
  have settings : sub.settings = v.sub.settings := by rw [pumped.fields]
  have settled : sub.acknowledged = v.sub.acknowledged ∧ sub.deadLettered = v.sub.deadLettered := by
    rw [pumped.fields]
    exact ⟨rfl, rfl⟩
  refine ⟨log.distinct, log.known, fun l member => ?_, fun p member => ?_, fun w member => ?_,
    fun id member => ?_, fun id member => ?_⟩
  · rcases List.mem_append.1 member with old | begun
    · exact log.logged l old
    · have queuedCopy := backlog_queued ledger (taken l begun)
      exact queuedCopy
  · have kept : p ∈ v.sub.backlog := pumped.copies.subset (List.mem_append_left _ member)
    have notTaken : attemptsOf p.message.messageId new = [] :=
      attemptsOf_of_not_mem fun taken => leftApart _ (List.mem_map_of_mem member) _ taken rfl
    simpa [settings, notTaken] using log.waiting p kept
  · rcases List.mem_append.1 member with old | begun
    · have notTaken := elsewhere _ (fun inBacklog => (apart _ inBacklog).1 (List.mem_map_of_mem old))
      simpa [settings, notTaken] using log.out w old
    · obtain ⟨l, leased, rfl⟩ := List.mem_map.1 begun
      obtain ⟨before, fewer⟩ := log.waiting l.copy (taken l leased)
      have once := attemptsOf_of_nodup newDistinct leased
      have counted := pumped.attempts l leased
      have message : l.copy.message = l.pending.message := rfl
      rw [message] at before
      have positive : 0 < l.pending.attempts := by omega
      have bounded : l.pending.attempts ≤ mostDeliveries v.sub.settings := by omega
      refine ⟨?_, positive, settings ▸ bounded, trivial⟩
      show attemptsOf l.pending.message.messageId (v.leases ++ new) = _
      rw [attemptsOf_append, before, once, counted, List.range'_1_concat, Nat.add_comm 1]
  · have notTaken := elsewhere id (fun inBacklog => (apart _ inBacklog).2.1 (settled.1 ▸ member))
    simpa [settings, notTaken] using log.acknowledged id (settled.1 ▸ member)
  · have notTaken := elsewhere id (fun inBacklog => (apart _ inBacklog).2.2 (settled.2 ▸ member))
    simpa [settings, notTaken] using log.deadLettered id (settled.2 ▸ member)

/-- The task a move acts on, as the log has it. -/
theorem out_of_split (log : AttemptLog retryDelay v queued) {pre post : List Watch} {l : Lease}
    {stage : Stage} (split : v.watches = pre ++ ⟨l, stage⟩ :: post) :
    attemptsOf l.pending.message.messageId v.leases = List.range' 1 l.pending.attempts ∧
      0 < l.pending.attempts ∧ l.pending.attempts ≤ mostDeliveries v.sub.settings ∧
      StageLaw retryDelay v.sub.settings ⟨l, stage⟩ :=
  log.out ⟨l, stage⟩ (by rw [split]; simp)

/-- A move that leaves every place and the log as they were keeps the log. -/
theorem reframe (log : AttemptLog retryDelay v queued) {w : View} (messages : w.messages = v.messages)
    (leases : w.leases = v.leases) (sub : w.sub.backlog = v.sub.backlog ∧
      w.sub.settings = v.sub.settings ∧ w.sub.acknowledged = v.sub.acknowledged ∧
      w.sub.deadLettered = v.sub.deadLettered)
    (watches : w.watches = v.watches) : AttemptLog retryDelay w queued := by
  obtain ⟨backlog, settings, acknowledged, deadLettered⟩ := sub
  refine ⟨log.distinct, ?_, ?_, ?_, ?_, ?_, ?_⟩ <;>
    simp only [messages, leases, backlog, settings, acknowledged, deadLettered, watches]
  · exact log.known
  · exact log.logged
  · exact log.waiting
  · exact log.out
  · exact log.acknowledged
  · exact log.deadLettered

/-- A task moved to another stage of its lease, one its policy allows. -/
theorem restage (log : AttemptLog retryDelay v queued) {w : View} {pre post : List Watch}
    {l : Lease} {stage stage' : Stage} (split : v.watches = pre ++ ⟨l, stage⟩ :: post)
    (messages : w.messages = v.messages) (leases : w.leases = v.leases)
    (sub : w.sub.backlog = v.sub.backlog ∧ w.sub.settings = v.sub.settings ∧
      w.sub.acknowledged = v.sub.acknowledged ∧ w.sub.deadLettered = v.sub.deadLettered)
    (watches : w.watches = pre ++ ⟨l, stage'⟩ :: post)
    (law : StageLaw retryDelay v.sub.settings ⟨l, stage'⟩) : AttemptLog retryDelay w queued := by
  obtain ⟨backlog, settings, acknowledged, deadLettered⟩ := sub
  obtain ⟨attempts, positive, bounded, -⟩ := log.out_of_split split
  refine ⟨log.distinct, ?_, ?_, ?_, fun x member => ?_, ?_, ?_⟩ <;>
    simp only [messages, leases, backlog, settings, acknowledged, deadLettered] at *
  · exact log.known
  · exact log.logged
  · exact log.waiting
  rotate_left
  · exact log.acknowledged
  · exact log.deadLettered
  rw [watches] at member
  rcases List.mem_append.1 member with before | here
  · exact log.out x (by rw [split]; exact List.mem_append_left _ before)
  rcases List.mem_cons.1 here with rfl | after
  · exact ⟨attempts, positive, bounded, law⟩
  · exact log.out x (by rw [split]; exact List.mem_append_right _ (List.mem_cons_of_mem _ after))

theorem mem_of_split {pre post : List Watch} {x w : Watch} (split : v.watches = pre ++ x :: post)
    (member : w ∈ pre ++ post) : w ∈ v.watches := by
  rw [split]
  exact ((List.sublist_cons_self x post).append_left pre).subset member

theorem acknowledge (log : AttemptLog retryDelay v queued) {pre post : List Watch} {l : Lease}
    (split : v.watches = pre ++ ⟨l, .awaiting⟩ :: post) :
    AttemptLog retryDelay
      { v with sub := { v.sub.release l.pending with
                        acknowledged := v.sub.acknowledged ++ [l.pending.message.messageId] }
               watches := pre ++ post } queued := by
  obtain ⟨attempts, positive, bounded, -⟩ := log.out_of_split split
  refine ⟨log.distinct, log.known, log.logged, log.waiting,
    fun w member => log.out w (mem_of_split split member), fun id member => ?_, log.deadLettered⟩
  rcases List.mem_append.1 member with old | this
  · exact log.acknowledged id old
  · rw [List.mem_singleton.1 this]
    exact ⟨_, positive, bounded, attempts⟩

theorem deadLetter (log : AttemptLog retryDelay v queued) {pre post : List Watch} {l : Lease}
    {topic : String} (split : v.watches = pre ++ ⟨l, .exhausted topic⟩ :: post) :
    AttemptLog retryDelay
      { v with sub := { v.sub.release l.pending with
                        deadLettered := v.sub.deadLettered ++ [l.pending.message.messageId] }
               watches := pre ++ post } queued := by
  obtain ⟨attempts, positive, bounded, law⟩ := log.out_of_split split
  have used : v.sub.settings.deadLetter.maxDeliveryAttempts ≤ l.pending.attempts := law.1
  have most : l.pending.attempts = mostDeliveries v.sub.settings := by
    unfold mostDeliveries at bounded ⊢
    omega
  refine ⟨log.distinct, log.known, log.logged, log.waiting,
    fun w member => log.out w (mem_of_split split member), log.acknowledged, fun id member => ?_⟩
  rcases List.mem_append.1 member with old | this
  · exact log.deadLettered id old
  · rw [List.mem_singleton.1 this]
    show attemptsOf l.pending.message.messageId v.leases = List.range' 1 (mostDeliveries v.sub.settings)
    rw [← most]
    exact attempts

theorem requeue (log : AttemptLog retryDelay v queued) {pre post : List Watch} {l : Lease}
    {wake : Nat} (split : v.watches = pre ++ ⟨l, .backingOff wake⟩ :: post) :
    AttemptLog retryDelay
      { v with sub := { v.sub with retrying := v.sub.retrying - 1
                                   busyKeys := (v.sub.release l.pending).busyKeys
                                   backlog := l.pending :: v.sub.backlog }
               watches := pre ++ post } queued := by
  obtain ⟨attempts, -, -, law⟩ := log.out_of_split split
  have left : l.pending.attempts < v.sub.settings.deadLetter.maxDeliveryAttempts := law
  refine ⟨log.distinct, log.known, log.logged, fun p member => ?_,
    fun w member => log.out w (mem_of_split split member), log.acknowledged, log.deadLettered⟩
  rcases List.mem_cons.1 member with rfl | old
  · refine ⟨attempts, ?_⟩
    show l.pending.attempts < mostDeliveries v.sub.settings
    unfold mostDeliveries
    omega
  · exact log.waiting p old

end AttemptLog

theorem refusalStage_law (retryDelay : Option Duration) (sub : SubscriptionState) (l : Lease) :
    StageLaw retryDelay sub.settings ⟨l, refusalStage retryDelay sub l.pending⟩ := by
  unfold refusalStage
  split
  · rename_i used
    exact ⟨used, rfl⟩
  · rename_i left
    refine ⟨?_, rfl⟩
    show l.pending.attempts < sub.settings.deadLetter.maxDeliveryAttempts
    omega

/-- Every move keeps the delivery log, the messages it queues added. -/
theorem Move.attemptLog {retryDelay : Option Duration} {v w : View} {more : List StoredMessage}
    (move : Move retryDelay v w more) {queued : List StoredMessage} (ledger : Ledger v queued)
    (log : AttemptLog retryDelay v queued) : AttemptLog retryDelay w (queued ++ more) := by
  cases move with
  | queue m fresh => exact log.queue m fresh
  | pump sub new pumped =>
    rw [List.append_nil]
    exact log.pump ledger pumped
  | deliver sender limit =>
    rw [List.append_nil]
    exact log.reframe rfl rfl ⟨rfl, rfl, rfl, rfl⟩ rfl
  | acknowledge pre post l split =>
    rw [List.append_nil]
    exact log.acknowledge split
  | refuse pre post l split =>
    rw [List.append_nil]
    exact log.restage split rfl rfl ⟨rfl, rfl, rfl, rfl⟩ rfl (refusalStage_law _ _ l)
  | deadLetter pre post l topic split =>
    rw [List.append_nil]
    exact log.deadLetter split
  | beginBackoff pre post l delay split =>
    rw [List.append_nil]
    have law := (log.out_of_split split).2.2.2
    exact log.restage split rfl rfl ⟨rfl, rfl, rfl, rfl⟩ rfl law.1
  | endBackoff pre post l wake split due =>
    rw [List.append_nil]
    exact log.requeue split
  | elapse millis =>
    rw [List.append_nil]
    exact log.reframe rfl rfl ⟨rfl, rfl, rfl, rfl⟩ rfl

theorem View.Fresh.attemptLog {v : View} (fresh : v.Fresh) (retryDelay : Option Duration) :
    AttemptLog retryDelay v [] := by
  obtain ⟨sub, watches, leases⟩ := fresh
  refine ⟨by simp, by simp, by simp [leases], fun p member => ?_, by simp [watches], fun id member => ?_,
    fun id member => ?_⟩ <;> rw [sub] at member <;> simp [SubscriptionState.fresh] at member

/-- How a refused copy waits: still refused with its delay, or backing off until
no sooner than the wait after `start`. -/
def Waits (delay : Duration) (start : Nat) : Stage → Prop
  | .refused planned => planned = delay
  | .backingOff wake => start + delay.waitTicks ≤ wake
  | _ => False

/-- One copy refused at `start` with a delay: its task still waits, or the wait
has passed. -/
def Backoff (id : String) (delay : Duration) (start : Nat) (v : View) : Prop :=
  start ≤ v.now ∧ (start + delay.waitTicks ≤ v.now ∨
    ∃ l stage, ⟨l, stage⟩ ∈ v.watches ∧ l.pending.message.messageId = id ∧ Waits delay start stage)

theorem Move.now_le {retryDelay : Option Duration} {v w : View} {more : List StoredMessage}
    (move : Move retryDelay v w more) : v.now ≤ w.now := by
  cases move with
  | elapse millis => exact Nat.le_add_right v.now millis
  | _ => exact Nat.le_refl _

theorem mem_split_cases {pre post : List Watch} {x w : Watch} (member : w ∈ pre ++ x :: post) :
    w = x ∨ w ∈ pre ++ post := by
  simp only [List.mem_append, List.mem_cons] at member ⊢
  rcases member with before | here | after
  · exact .inr (.inl before)
  · exact .inl here
  · exact .inr (.inr after)

theorem mem_replaced {pre post : List Watch} {w : Watch} (y : Watch) (member : w ∈ pre ++ post) :
    w ∈ pre ++ y :: post :=
  ((List.sublist_cons_self y post).append_left pre).subset member

/-- Every move keeps following a refused copy: only the end of its backoff, once
due, takes it out of its wait. -/
theorem Move.backoff {retryDelay : Option Duration} {v w : View} {more : List StoredMessage}
    (move : Move retryDelay v w more) {id : String} {delay : Duration} {start : Nat}
    (backoff : Backoff id delay start v) : Backoff id delay start w := by
  obtain ⟨started, done | ⟨l, stage, member, named, waits⟩⟩ := backoff
  · exact ⟨Nat.le_trans started move.now_le, .inl (Nat.le_trans done move.now_le)⟩
  refine ⟨Nat.le_trans started move.now_le, ?_⟩
  -- the copy's task stays where it is unless the move acts on it
  have stays : ∀ watches : List Watch, ⟨l, stage⟩ ∈ watches → w.watches = watches →
      start + delay.waitTicks ≤ w.now ∨ ∃ l stage, ⟨l, stage⟩ ∈ w.watches ∧
        l.pending.message.messageId = id ∧ Waits delay start stage :=
    fun watches kept same => .inr ⟨l, stage, same ▸ kept, named, waits⟩
  cases move with
  | queue m fresh => exact stays _ member rfl
  | pump sub new pumped => exact stays _ (List.mem_append_left _ member) rfl
  | deliver sender limit => exact stays _ member rfl
  | elapse millis => exact stays _ member rfl
  | acknowledge pre post l' split =>
    rw [split] at member
    rcases mem_split_cases member with same | other
    · cases same
      exact waits.elim
    · exact stays _ other rfl
  | refuse pre post l' split =>
    rw [split] at member
    rcases mem_split_cases member with same | other
    · cases same
      exact waits.elim
    · exact stays _ (mem_replaced _ other) rfl
  | deadLetter pre post l' topic split =>
    rw [split] at member
    rcases mem_split_cases member with same | other
    · cases same
      exact waits.elim
    · exact stays _ other rfl
  | beginBackoff pre post l' planned split =>
    rw [split] at member
    rcases mem_split_cases member with same | other
    · -- the backoff starts now, after the refusal, and lasts the wait
      cases same
      have planned' : planned = delay := waits
      refine .inr ⟨_, .backingOff (v.now + planned.waitTicks),
        List.mem_append_right _ List.mem_cons_self, named, ?_⟩
      show start + delay.waitTicks ≤ v.now + planned.waitTicks
      rw [planned']
      omega
    · exact stays _ (mem_replaced _ other) rfl
  | endBackoff pre post l' wake split due =>
    rw [split] at member
    rcases mem_split_cases member with same | other
    · -- the backoff ended when due, no sooner than the wait
      cases same
      have late : start + delay.waitTicks ≤ wake := waits
      exact .inl (Nat.le_trans late due)
    · exact stays _ other rfl

/-- Once a refused copy is back in the backlog or out again, its wait has passed. -/
theorem Backoff.over {id : String} {delay : Duration} {start : Nat} {v : View}
    (backoff : Backoff id delay start v) (distinct : v.places.Nodup)
    (back : id ∈ v.sub.backlog.map (·.message.messageId) ∨
      ∃ l, ⟨l, .awaiting⟩ ∈ v.watches ∧ l.pending.message.messageId = id) :
    start + delay.waitTicks ≤ v.now := by
  obtain ⟨-, done | ⟨l, stage, member, named, waits⟩⟩ := backoff
  · exact done
  obtain ⟨-, watchesDistinct, apart⟩ := View.places_apart distinct
  rcases back with waiting | ⟨l', out, named'⟩
  · exact absurd (List.mem_map.2 ⟨_, member, named⟩) (apart id waiting).1
  · -- a copy has one task, and that one waits for its answer
    have same := List.inj_on_of_nodup_map watchesDistinct member out (named.trans named'.symm)
    cases same
    exact waits.elim

theorem View.mem_holdings {v : View} {id : String} : id ∈ v.holdings ↔ id ∈ v.places := by
  rw [← List.count_pos_iff, ← List.count_pos_iff, View.count_holdings]
  simp only [View.places, List.count_append]

/-- Each copy queued on a subscription has had deliveries numbered 1 to n, n at
most the most allowed, and exactly that many when it was dead-lettered. -/
theorem AttemptLog.attempts {retryDelay : Option Duration} {v : View}
    {queued : List StoredMessage} (log : AttemptLog retryDelay v queued) (ledger : Ledger v queued)
    {m : StoredMessage} (member : m ∈ queued) :
    ∃ n, n ≤ mostDeliveries v.sub.settings ∧ attemptsOf m.messageId v.leases = List.range' 1 n ∧
      (m.messageId ∈ v.sub.deadLettered → n = mostDeliveries v.sub.settings) := by
  by_cases dead : m.messageId ∈ v.sub.deadLettered
  · exact ⟨_, Nat.le_refl _, log.deadLettered _ dead, fun _ => rfl⟩
  have held : m.messageId ∈ v.places :=
    View.mem_holdings.1 (ledger.holdings.symm.subset (List.mem_map_of_mem member))
  simp only [View.places, List.mem_append, dead, or_false] at held
  rcases held with (waiting | out) | acknowledged
  · obtain ⟨p, kept, named⟩ := List.mem_map.1 waiting
    obtain ⟨attempts, fewer⟩ := log.waiting p kept
    exact ⟨p.attempts, Nat.le_of_lt fewer, named ▸ attempts, fun dead' => absurd dead' dead⟩
  · obtain ⟨w, kept, named⟩ := List.mem_map.1 out
    obtain ⟨attempts, -, bounded, -⟩ := log.out w kept
    exact ⟨_, bounded, named ▸ attempts, fun dead' => absurd dead' dead⟩
  · obtain ⟨n, -, bounded, attempts⟩ := log.acknowledged _ acknowledged
    exact ⟨n, bounded, attempts, fun dead' => absurd dead' dead⟩

/-- After every run from an empty broker that does not re-register `s`, the
ledger and the delivery log of `s` hold. -/
theorem System.start_logged {retryDelay : Option Duration} {s : String} {calls : List Call}
    (keeps : System.keeps s (System.start retryDelay) calls = true) {v : View}
    (viewed : ((System.start retryDelay).run calls).view s = some v) :
    Ledger v (System.arrivals s (System.start retryDelay) calls) ∧
      AttemptLog retryDelay v (System.arrivals s (System.start retryDelay) calls) := by
  have step : ∀ {v w : View} {queued more : List StoredMessage}, Move retryDelay v w more →
      Ledger v queued ∧ AttemptLog retryDelay v queued →
        Ledger w (queued ++ more) ∧ AttemptLog retryDelay w (queued ++ more) :=
    fun move held => ⟨move.ledger held.1, move.attemptLog held.1 held.2⟩
  exact @System.start_law retryDelay s (fun v queued => Ledger v queued ∧ AttemptLog retryDelay v queued)
    step (fun _ fresh => ⟨fresh.ledger, fresh.attemptLog retryDelay⟩) calls keeps v viewed

/-- Giving up on a copy whose dead-letter topic exists publishes the
dead-letter message as a publish to that topic does: one copy of it is queued on
each subscription of the topic that the run never re-registered, and none on
any other. -/
theorem System.giveUp_fans_out {retryDelay : Option Duration} {calls : List Call} {task : Nat} {l : Lease}
    {topic : String} (exhausted : ((System.start retryDelay).run calls).watches[task]? = some ⟨l, .exhausted topic⟩)
    (present : ((System.start retryDelay).run calls).broker.hasTopic topic = true) {s : String}
    (keeps : System.keeps s (System.start retryDelay) (calls ++ [.giveUp task]) = true) :
    ((((System.start retryDelay).run calls).apply (.giveUp task)).holdings s).count
        (digitString (((System.start retryDelay).run calls).broker.nextId + 1)) =
      if ((System.start retryDelay).run calls).broker.subscribedTo s topic then 1 else 0 := by
  have applied : (((System.start retryDelay).run calls).apply (.giveUp task)).broker =
      (((System.start retryDelay).run calls).broker.deadLetter l.subscription l.pending topic).1 := by
    simp only [System.apply, exhausted]
    rfl
  refine System.copies_of_appended (x := topic) (m := ((System.start retryDelay).run calls).broker.nextMessage
    l.pending.message.data (putAttribute deadLetterSourceAttribute l.subscription l.pending.message.attributes) none)
    keeps rfl fun y => ?_
  rw [applied, messagesOf_deadLetter]
  by_cases same : y = topic
  · subst same
    simp [present]
  · simp [same, Ne.symm same]

/-- Delivery attempts and dead-lettering follow each subscription's policy, along
every run from an empty broker in which no call re-registers `s`.

At every moment, the deliveries of each message queued on `s` carry attempts 1 to n
with no gap and no repeat, n at most the most deliveries allowed and exactly that
for a dead-lettered message, which is recorded once; the leases and busy keys are
those of the copies out. Each refusal takes the stage its policy plans: with
attempts left, the wait is the fixed redelivery wait if set, else the backoff after
that attempt; without, the dead-letter topic. A copy refused at one moment is back
in the backlog, or out again, only once that wait has passed, a wait of more than
thirty years counting as thirty years. A copy back from its backoff is first in
the backlog or out again at once; and giving up on a copy appends one message to
the dead-letter topic when it exists, with the copy's data, its attributes with
the subscription's name, and no ordering key, and nothing otherwise; that
message is fanned out to the dead-letter topic's subscriptions as a publish is,
one copy on each. -/
theorem deliveries_follow_policy (retryDelay : Option Duration) (s : String)
    (calls later : List Call)
    (keeps : System.keeps s (System.start retryDelay) (calls ++ later) = true) :
    (∀ v, ((System.start retryDelay).run (calls ++ later)).view s = some v →
      (∀ m ∈ System.arrivals s (System.start retryDelay) (calls ++ later),
        ∃ n, n ≤ mostDeliveries v.sub.settings ∧
          attemptsOf m.messageId v.leases = List.range' 1 n ∧
          (m.messageId ∈ v.sub.deadLettered → n = mostDeliveries v.sub.settings)) ∧
      v.sub.deadLettered.Nodup ∧ v.sub.outstanding = v.leased.length ∧
      (∀ k, k ∈ v.sub.busyKeys ↔ v.inflight k ≠ []) ∧
      ∀ w ∈ v.watches, StageLaw retryDelay v.sub.settings w) ∧
    (∀ v w l delay, ((System.start retryDelay).run calls).view s = some v →
      ⟨l, .refused delay⟩ ∈ v.watches →
      ((System.start retryDelay).run (calls ++ later)).view s = some w →
      (l.pending.message.messageId ∈ w.sub.backlog.map (·.message.messageId) ∨
        ∃ l', ⟨l', .awaiting⟩ ∈ w.watches ∧
          l'.pending.message.messageId = l.pending.message.messageId) →
      v.now + delay.waitTicks ≤ w.now) ∧
    (∀ (b : Broker) (n : String) (S : SubscriptionState) (p : Pending),
      b.subscription? n = some S →
      ∃ S', (b.endBackoff n p).1.subscription? n = some S' ∧
        (S'.backlog.head? = some p ∨
          ∃ l ∈ leasesOf (b.endBackoff n p).2, l.pending = { p with attempts := p.attempts + 1 })) ∧
    (∀ (b : Broker) (n : String) (p : Pending) (topic y : String),
      (b.deadLetter n p topic).1.messagesOf y =
        b.messagesOf y ++
          if topic = y ∧ b.hasTopic y then
            [b.nextMessage p.message.data
              (putAttribute deadLetterSourceAttribute n p.message.attributes) none]
          else []) ∧
    ∀ (earlier : List Call) (task : Nat) (l : Lease) (topic : String),
      ((System.start retryDelay).run earlier).watches[task]? = some ⟨l, .exhausted topic⟩ →
      ((System.start retryDelay).run earlier).broker.hasTopic topic = true →
      ∀ s', System.keeps s' (System.start retryDelay) (earlier ++ [.giveUp task]) = true →
        ((((System.start retryDelay).run earlier).apply (.giveUp task)).holdings s').count
            (digitString (((System.start retryDelay).run earlier).broker.nextId + 1)) =
          if ((System.start retryDelay).run earlier).broker.subscribedTo s' topic then 1 else 0 := by
  refine ⟨fun v viewed => ?_, fun v w l delay viewed refused viewedLater back => ?_,
    fun b n S p found => endBackoff_front b p found,
    fun b n p topic y => messagesOf_deadLetter b n p topic y,
    fun earlier task l topic exhausted present s' keeps => System.giveUp_fans_out exhausted present keeps⟩
  · obtain ⟨ledger, log⟩ := System.start_logged keeps viewed
    have order : KeyOrder v (System.arrivals s (System.start retryDelay) (calls ++ later)) :=
      System.start_law (fun move order => move.keyOrder order) (fun _ fresh => fresh.keyOrder) keeps
        viewed
    have distinct := ledger.places_nodup log.distinct
    refine ⟨fun m member => log.attempts ledger member, ?_, ledger.outstanding, order.busy,
      fun w member => (log.out w member).2.2.2⟩
    simp only [View.places, List.nodup_append] at distinct
    exact distinct.2.1
  · -- follow the refused copy from the end of `calls` along the moves of `later`
    have split := keeps
    rw [System.keeps_append, Bool.and_eq_true] at split
    have trackedMiddle := (System.run_moves (System.start_tracked retryDelay s) calls split.1).1
    obtain ⟨-, moves, -⟩ := System.run_moves trackedMiddle later split.2
    obtain ⟨w', viewed', steps⟩ := moves v viewed
    rw [← System.run_append, viewedLater] at viewed'
    cases viewed'
    have following : Backoff l.pending.message.messageId delay v.now w := by
      simpa using @Moves.keep retryDelay
        (fun u _ => Backoff l.pending.message.messageId delay v.now u)
        (fun move backoff => move.backoff backoff) _ _ _ steps [] ⟨Nat.le_refl _, .inr ⟨l, _, refused, rfl, rfl⟩⟩
    obtain ⟨ledger, log⟩ := System.start_logged keeps viewedLater
    exact following.over (ledger.places_nodup log.distinct) back

/-- A subscription with a channel refuses its first delivery: the run keeps the
subscription, and the refusal's stage follows the policy. -/
theorem deliveries_follow_policy_on_one_refusal :
    let calls : List Call := [.addTopic "t",
      .addSubscription "s" "t" (SubscriptionSettings.forTopic "t" none), .openDelivery "s" 1,
      .publishRaw "t" ByteArray.empty [], .answer 0 false]
    System.keeps "s" (System.start none) calls = true ∧
      ∀ v, ((System.start none).run calls).view "s" = some v →
        ∀ w ∈ v.watches, StageLaw none v.sub.settings w :=
  ⟨by decide, fun v viewed => ((deliveries_follow_policy none "s" [.addTopic "t",
    .addSubscription "s" "t" (SubscriptionSettings.forTopic "t" none), .openDelivery "s" 1,
    .publishRaw "t" ByteArray.empty [], .answer 0 false] [] (by decide)).1 v viewed).2.2.2.2⟩

/-- A fixed redelivery wait of a hundred billion seconds does not hold a refused
copy back for that long: its backoff is a sleep, which lasts thirty years at most,
and the copy is back in the backlog after thirty years. -/
theorem redelivered_within_thirty_years :
    let delay : Duration := ⟨100000000000, 0⟩
    let σ := (System.start (some delay)).run [.addTopic "t",
      .addSubscription "s" "t" (SubscriptionSettings.forTopic "t" none), .openDelivery "s" 1,
      .publishRaw "t" ByteArray.empty [], .answer 0 false, .releaseLease 0,
      .elapse longestWait, .requeue 0]
    σ.now < delay.toTicks ∧
      (σ.view "s").any (fun v => v.sub.backlog.any (·.message.messageId == "1")) = true := by
  decide

end Courier.Broker
