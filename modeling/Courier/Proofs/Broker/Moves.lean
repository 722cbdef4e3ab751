import Courier.Proofs.Broker.Leasing

namespace Courier.Broker

/-! # The moves of one subscription

Each law of this development is about one subscription at a time and reads only
its `View`. Whatever call runs, the view moves by a few kinds of step: a copy is
queued as a message reaches the topic, a pass of leasing takes copies out of the
backlog, the subscription gets a channel, a task acknowledges, refuses, gives up
on or backs off a lease and puts its copy back, and the clock runs. `Move` names
these steps and `Moves` their sequences, labelled with the messages that reached
the topic. The modules after this one show that every call moves a subscription's
view by `Moves`; each law is then proved once for each kind of step. -/

/-- The stage a refused lease goes to under its subscription's policy: the
dead-letter topic once the attempts are used up, else the backoff before the next
attempt, which a fixed redelivery wait replaces when one is set. -/
def refusalStage (retryDelay : Option Duration) (sub : SubscriptionState) (p : Pending) : Stage :=
  if sub.settings.deadLetter.maxDeliveryAttempts ≤ p.attempts then
    .exhausted sub.settings.deadLetter.topic
  else .refused (retryDelay.getD (sub.settings.retryBackoff.delayAfter p.attempts))

@[simp] theorem refusalStage_isBackingOff (retryDelay : Option Duration) (sub : SubscriptionState)
    (p : Pending) : (refusalStage retryDelay sub p).isBackingOff = false := by
  unfold refusalStage
  split <;> rfl

/-- One step of a subscription's view, with the messages that reached its topic. -/
inductive Move (retryDelay : Option Duration) : View → View → List StoredMessage → Prop
  /-- A message with a new identifier reaches the topic; one copy is queued. -/
  | queue (v : View) (m : StoredMessage) (fresh : m.messageId ∉ v.messages.map (·.messageId)) :
      Move retryDelay v
        { v with sub := { v.sub with backlog := v.sub.backlog ++ [⟨m, 0⟩] }
                 messages := v.messages ++ [m] } [m]
  /-- A pass of leasing; each lease it begins gets a task. -/
  | pump (v : View) (sub : SubscriptionState) (new : List Lease) (pumped : Pumped v.sub sub new) :
      Move retryDelay v
        { v with sub := sub
                 watches := v.watches ++ new.map (⟨·, .awaiting⟩)
                 leases := v.leases ++ new } []
  /-- The subscription delivers on another channel, or on none. -/
  | deliver (v : View) (sender : Option Nat) (limit : Nat) :
      Move retryDelay v { v with sub := { v.sub with sender := sender, maxOutstanding := limit } } []
  | acknowledge (v : View) (pre post : List Watch) (l : Lease)
      (split : v.watches = pre ++ ⟨l, .awaiting⟩ :: post) :
      Move retryDelay v
        { v with sub := { v.sub.release l.pending with
                          acknowledged := v.sub.acknowledged ++ [l.pending.message.messageId] }
                 watches := pre ++ post } []
  | refuse (v : View) (pre post : List Watch) (l : Lease)
      (split : v.watches = pre ++ ⟨l, .awaiting⟩ :: post) :
      Move retryDelay v
        { v with watches := pre ++ ⟨l, refusalStage retryDelay v.sub l.pending⟩ :: post } []
  | deadLetter (v : View) (pre post : List Watch) (l : Lease) (topic : String)
      (split : v.watches = pre ++ ⟨l, .exhausted topic⟩ :: post) :
      Move retryDelay v
        { v with sub := { v.sub.release l.pending with
                          deadLettered := v.sub.deadLettered ++ [l.pending.message.messageId] }
                 watches := pre ++ post } []
  /-- A refused lease is released; its key stays busy while the backoff runs. -/
  | beginBackoff (v : View) (pre post : List Watch) (l : Lease) (delay : Duration)
      (split : v.watches = pre ++ ⟨l, .refused delay⟩ :: post) :
      Move retryDelay v
        { v with sub := { v.sub with outstanding := v.sub.outstanding - 1
                                     retrying := v.sub.retrying + 1 }
                 watches := pre ++ ⟨l, .backingOff (v.now + delay.waitTicks)⟩ :: post } []
  /-- A backoff that is due ends: the copy goes back to the front of the backlog. -/
  | endBackoff (v : View) (pre post : List Watch) (l : Lease) (wake : Nat)
      (split : v.watches = pre ++ ⟨l, .backingOff wake⟩ :: post) (due : wake ≤ v.now) :
      Move retryDelay v
        { v with sub := { v.sub with retrying := v.sub.retrying - 1
                                     busyKeys := (v.sub.release l.pending).busyKeys
                                     backlog := l.pending :: v.sub.backlog }
                 watches := pre ++ post } []
  | elapse (v : View) (millis : Nat) : Move retryDelay v { v with now := v.now + millis } []

/-- Steps one after another, with the messages that reached the topic meanwhile. -/
inductive Moves (retryDelay : Option Duration) : View → View → List StoredMessage → Prop
  | rest (v : View) : Moves retryDelay v v []
  | step {u v w : View} {arrived more : List StoredMessage} :
      Moves retryDelay u v arrived → Move retryDelay v w more → Moves retryDelay u w (arrived ++ more)

variable {retryDelay : Option Duration}

theorem Move.moves {v w : View} {more : List StoredMessage} (move : Move retryDelay v w more) :
    Moves retryDelay v w more := by
  simpa using Moves.step (Moves.rest v) move

theorem Moves.trans {u v w : View} {arrived more : List StoredMessage}
    (first : Moves retryDelay u v arrived) (second : Moves retryDelay v w more) :
    Moves retryDelay u w (arrived ++ more) := by
  induction second with
  | rest => simpa using first
  | step _ move induction =>
    rw [← List.append_assoc]
    exact induction.step move

/-- A law with a record of the messages queued so far holds along every sequence of
moves once each move keeps it. -/
theorem Moves.keep {P : View → List StoredMessage → Prop}
    (step : ∀ {v w queued more}, Move retryDelay v w more → P v queued → P w (queued ++ more))
    {u v : View} {arrived : List StoredMessage} (moves : Moves retryDelay u v arrived)
    {queued : List StoredMessage} (holds : P u queued) : P v (queued ++ arrived) := by
  induction moves with
  | rest => simpa using holds
  | step _ move induction =>
    rw [← List.append_assoc]
    exact step move induction

/-- A move keeps the subscription's name, topic and settings, and the messages it
reports are the ones added to the topic. -/
theorem Move.frame {v w : View} {more : List StoredMessage} (move : Move retryDelay v w more) :
    w.sub.name = v.sub.name ∧ w.sub.topic = v.sub.topic ∧ w.sub.settings = v.sub.settings ∧
      w.messages = v.messages ++ more := by
  cases move with
  | pump sub _ pumped =>
    rw [pumped.fields]
    simp
  | _ => simp [SubscriptionState.release]

theorem Moves.frame {u v : View} {arrived : List StoredMessage}
    (moves : Moves retryDelay u v arrived) :
    v.sub.name = u.sub.name ∧ v.sub.topic = u.sub.topic ∧ v.sub.settings = u.sub.settings ∧
      v.messages = u.messages ++ arrived := by
  induction moves with
  | rest => simp
  | step _ move induction =>
    obtain ⟨name, topic, settings, messages⟩ := move.frame
    exact ⟨name.trans induction.1, topic.trans induction.2.1, settings.trans induction.2.2.1,
      by rw [messages, induction.2.2.2, List.append_assoc]⟩

end Courier.Broker
