import Courier.Proofs.Broker.Steps

namespace Courier.Broker

/-! # No copy is lost or duplicated

Each message that reaches a subscription's topic while the subscription exists
queues one copy on it. At every moment each such copy is in exactly one place:
in the backlog, leased out, waiting out a backoff, acknowledged, or
dead-lettered. The counters agree: the leases out are the outstanding ones and
the backoffs the retrying ones, so the copies not yet settled are what
`unsettled` counts. A copy once acknowledged or dead-lettered stays recorded.

All of it is the `Ledger` of one subscription, kept by every move of its view and
so, by `run_moves`, along every run that does not re-register the subscription. -/

/-- The conservation laws of one subscription, with the messages queued on it. -/
structure Ledger (v : View) (queued : List StoredMessage) : Prop where
  outstanding : v.sub.outstanding = v.leased.length
  retrying : v.sub.retrying = v.retrying.length
  holdings : v.holdings.Perm (queued.map (·.messageId))

theorem Pumped.count_ids {before after : SubscriptionState} {new : List Lease}
    (pumped : Pumped before after new) (x : String) :
    (after.backlog.map (·.message.messageId)).count x +
        (new.map (·.pending.message.messageId)).count x =
      (before.backlog.map (·.message.messageId)).count x := by
  have counted := List.perm_iff_count.1 (pumped.copies.map (·.message.messageId)) x
  simpa [List.count_append, Function.comp_def, Lease.copy] using counted

/-- A copy with a task is leased or waits out a backoff, whichever its stage says. -/
theorem View.count_holdings (v : View) (x : String) :
    v.holdings.count x =
      (v.sub.backlog.map (·.message.messageId)).count x +
        (v.watches.map (·.lease.pending.message.messageId)).count x +
        v.sub.acknowledged.count x + v.sub.deadLettered.count x := by
  have parts := ((List.filter_append_perm (!·.stage.isBackingOff) v.watches).map
    (·.lease.pending.message.messageId)).count_eq x
  simp only [List.map_append, List.count_append, Bool.not_not] at parts
  simp only [holdings, leased, retrying, List.map_map, List.count_append]
  simp only [Function.comp_def] at parts ⊢
  omega

theorem Move.ledger {retryDelay : Option Duration} {v w : View} {more : List StoredMessage}
    (move : Move retryDelay v w more) {queued : List StoredMessage} (ledger : Ledger v queued) :
    Ledger w (queued ++ more) := by
  have before := List.perm_iff_count.1 ledger.holdings
  have outstanding := ledger.outstanding
  have retrying := ledger.retrying
  -- the counters are lengths of filters of the tasks, the holdings counts over them
  cases move with
  | queue m fresh =>
    refine ⟨outstanding, retrying, List.perm_iff_count.2 fun x => ?_⟩
    have old := before x
    rw [View.count_holdings] at old ⊢
    simp [List.count_append] at old ⊢
    omega
  | pump sub new pumped =>
    have fields := pumped.fields
    refine ⟨?_, ?_, List.perm_iff_count.2 fun x => ?_⟩
    · rw [pumped.outstanding, outstanding]
      simp only [View.leased, List.filter_append, List.filter_map, Function.comp_def,
        Stage.isBackingOff_awaiting, Bool.not_false, List.map_append, List.length_append,
        List.length_map]
      rw [List.filter_eq_self.2 fun _ _ => rfl]
    · rw [fields]
      simp only [View.retrying, List.filter_append, List.filter_map, Function.comp_def,
        Stage.isBackingOff_awaiting, List.map_append, List.length_append, List.length_map]
      rw [List.filter_eq_nil_iff.2 fun _ _ => Bool.false_ne_true, List.length_nil, Nat.add_zero]
      simpa [View.retrying] using retrying
    · have old := before x
      have moved := pumped.count_ids x
      rw [View.count_holdings] at old ⊢
      rw [fields] at moved ⊢
      simp [List.count_append, Function.comp_def] at old moved ⊢
      omega
  | acknowledge pre post l split =>
    refine ⟨?_, ?_, List.perm_iff_count.2 fun x => ?_⟩
    · simp [View.leased, split, SubscriptionState.release] at outstanding ⊢
      omega
    · simpa [View.retrying, split, SubscriptionState.release] using retrying
    · have old := before x
      rw [View.count_holdings] at old ⊢
      simp [split, SubscriptionState.release, List.count_append, List.count_cons] at old ⊢
      omega
  | refuse pre post l split =>
    refine ⟨?_, ?_, List.perm_iff_count.2 fun x => ?_⟩
    · simpa [View.leased, split] using outstanding
    · simpa [View.retrying, split] using retrying
    · have old := before x
      rw [View.count_holdings] at old ⊢
      simpa [split, List.count_append] using old
  | deadLetter pre post l topic split =>
    refine ⟨?_, ?_, List.perm_iff_count.2 fun x => ?_⟩
    · simp [View.leased, split, SubscriptionState.release] at outstanding ⊢
      omega
    · simpa [View.retrying, split, SubscriptionState.release] using retrying
    · have old := before x
      rw [View.count_holdings] at old ⊢
      simp [split, SubscriptionState.release, List.count_append, List.count_cons] at old ⊢
      omega
  | beginBackoff pre post l delay split =>
    refine ⟨?_, ?_, List.perm_iff_count.2 fun x => ?_⟩
    · simp [View.leased, split] at outstanding ⊢
      omega
    · simp [View.retrying, split, List.filter_cons] at retrying ⊢
      omega
    · have old := before x
      rw [View.count_holdings] at old ⊢
      simpa [split, List.count_append] using old
  | endBackoff pre post l wake split due =>
    refine ⟨?_, ?_, List.perm_iff_count.2 fun x => ?_⟩
    · simpa [View.leased, split] using outstanding
    · simp [View.retrying, split, List.filter_cons] at retrying ⊢
      omega
    · have old := before x
      rw [View.count_holdings] at old ⊢
      simp [split, List.count_append, List.count_cons] at old ⊢
      omega
  | deliver sender limit =>
    exact ⟨outstanding, retrying, by simpa [View.holdings, View.leased, View.retrying] using
      ledger.holdings⟩
  | elapse millis =>
    exact ⟨outstanding, retrying, by simpa [View.holdings, View.leased, View.retrying] using
      ledger.holdings⟩

theorem View.Fresh.ledger {v : View} (fresh : v.Fresh) : Ledger v [] := by
  obtain ⟨sub, watches, -⟩ := fresh
  refine ⟨?_, ?_, ?_⟩ <;> simp only [View.holdings, View.leased, View.retrying, watches] <;>
    rw [sub] <;> simp [SubscriptionState.fresh]

theorem Move.settled_grows {retryDelay : Option Duration} {v w : View} {more : List StoredMessage}
    (move : Move retryDelay v w more) :
    v.sub.acknowledged <+: w.sub.acknowledged ∧ v.sub.deadLettered <+: w.sub.deadLettered := by
  cases move with
  | pump sub new pumped =>
    rw [pumped.fields]
    exact ⟨List.prefix_refl _, List.prefix_refl _⟩
  | acknowledge pre post l split =>
    exact ⟨List.prefix_append _ _, List.prefix_refl _⟩
  | deadLetter pre post l topic split =>
    exact ⟨List.prefix_refl _, List.prefix_append _ _⟩
  | _ => exact ⟨List.prefix_refl _, List.prefix_refl _⟩

theorem Moves.settled_grows {retryDelay : Option Duration} {v w : View}
    {arrived : List StoredMessage} (moves : Moves retryDelay v w arrived) :
    v.sub.acknowledged <+: w.sub.acknowledged ∧ v.sub.deadLettered <+: w.sub.deadLettered := by
  induction moves with
  | rest => exact ⟨List.prefix_refl _, List.prefix_refl _⟩
  | step _ move induction =>
    obtain ⟨acknowledged, deadLettered⟩ := move.settled_grows
    exact ⟨induction.1.trans acknowledged, induction.2.trans deadLettered⟩

/-- What `unsettled` counts: every copy queued and not yet acknowledged or
dead-lettered. -/
theorem Ledger.unsettled {v : View} {queued : List StoredMessage} (ledger : Ledger v queued)
    {b : Broker} {s : String} (found : b.subscription? s = some v.sub) :
    b.unsettled s + v.sub.acknowledged.length + v.sub.deadLettered.length = queued.length := by
  have lengths := ledger.holdings.length_eq
  simp only [View.holdings, List.length_append, List.length_map] at lengths
  simp only [Broker.unsettled, found, ledger.outstanding, ledger.retrying]
  omega

/-- No loss and no duplication of the copies of a subscription `s`, along every run
from an empty broker in which no call re-registers `s`, and at every moment of it:
the copies queued on `s` are one for each message that reached its topic while
`s` existed; each is in exactly one place (backlog, leased, waiting out a backoff,
acknowledged or dead-lettered); the outstanding and retrying counters count the
leased copies and the backoffs; `unsettled` counts the queued copies not yet
acknowledged or dead-lettered; and what was acknowledged or dead-lettered at an
earlier moment stays recorded. -/
theorem copies_conserved (retryDelay : Option Duration) (s : String) (calls later : List Call)
    (keeps : System.keeps s (System.start retryDelay) (calls ++ later) = true) :
    let σ := (System.start retryDelay).run (calls ++ later)
    let queued := System.arrivals s (System.start retryDelay) (calls ++ later)
    (σ.holdings s).Perm (queued.map (·.messageId)) ∧
      (∀ v, σ.view s = some v →
        v.sub.outstanding = v.leased.length ∧ v.sub.retrying = v.retrying.length ∧
          σ.broker.unsettled s + v.sub.acknowledged.length + v.sub.deadLettered.length =
            queued.length) ∧
      ∀ v w, ((System.start retryDelay).run calls).view s = some v → σ.view s = some w →
        v.sub.acknowledged <+: w.sub.acknowledged ∧ v.sub.deadLettered <+: w.sub.deadLettered := by
  intro σ queued
  have empty : (System.start retryDelay).view s = none := rfl
  have tracked := System.start_tracked retryDelay s
  obtain ⟨-, -, created⟩ := System.run_moves tracked (calls ++ later) keeps
  have ledger : ∀ v, σ.view s = some v → Ledger v queued := fun _ viewed =>
    System.start_law (fun move ledger => move.ledger ledger) (fun _ fresh => fresh.ledger) keeps
      viewed
  refine ⟨?_, fun v viewed => ?_, fun v w viewed viewedLater => ?_⟩
  · cases viewed : σ.view s with
    | none =>
      rcases created empty with ⟨-, nothing⟩ | ⟨v₀, v', -, viewed', -⟩
      · simp [System.holdings, viewed, queued, nothing]
      · exact absurd (viewed.symm.trans viewed') (by simp)
    | some v => simpa [System.holdings, viewed] using (ledger v viewed).holdings
  · have found := (System.found_of_view viewed).1
    exact ⟨(ledger v viewed).outstanding, (ledger v viewed).retrying,
      (ledger v viewed).unsettled found⟩
  · rw [System.keeps_append, Bool.and_eq_true] at keeps
    have trackedMiddle := (System.run_moves tracked calls keeps.1).1
    obtain ⟨-, moves, -⟩ := System.run_moves trackedMiddle later keeps.2
    obtain ⟨w', viewed', steps⟩ := moves v viewed
    rw [← System.run_append, viewedLater] at viewed'
    cases viewed'
    exact steps.settled_grows

/-- A topic, a subscription on it, one raw message and a channel: the run keeps the
subscription, and its copies are conserved. -/
theorem copies_conserved_on_one_publish :
    let calls : List Call := [.addTopic "t",
      .addSubscription "s" "t" (SubscriptionSettings.forTopic "t" none),
      .publishRaw "t" ByteArray.empty [], .openDelivery "s" 1]
    System.keeps "s" (System.start none) calls = true ∧
      (((System.start none).run calls).holdings "s").Perm
        ((System.arrivals "s" (System.start none) calls).map (·.messageId)) :=
  ⟨by decide, (copies_conserved none "s" [.addTopic "t",
    .addSubscription "s" "t" (SubscriptionSettings.forTopic "t" none),
    .publishRaw "t" ByteArray.empty [], .openDelivery "s" 1] [] (by decide)).1⟩

end Courier.Broker
