import Courier.Proofs.Broker.Flow

namespace Courier.Broker

/-! # Leasing is bounded and work-conserving

Along every run that does not re-register a subscription `s`, the leases of `s`
sent on the channel it delivers on and not yet released never exceed the limit
the channel was opened with (`Feeding`, kept by every call).

No leasable copy of `s` waits while a lease is free and the consumer still
receives, as long as no lease of `s` is released while its delivery still waits
in that channel (`Prompt`). A lease released that way leaves its delivery in the
channel with no lease to account for it: the channel can then be full while a
lease is free, and leasing stops there. -/

namespace System

variable {retryDelay : Option Duration} {s : String}

/-- Whether lease `l` is one of `s` whose delivery still waits in the channel `s`
delivers on. -/
def waiting (σ : System) (s : String) (l : Lease) : Bool :=
  l.subscription == s &&
    match (σ.broker.subscription? s).bind (·.sender) with
    | some id =>
      match σ.broker.channel? id with
      | some c => c.buffer.any (·.slot == l.slot)
      | none => false
    | none => false

/-- Whether a section of a settlement task releases a lease of `s` whose delivery
still waits in the channel of `s`: an acknowledgement, a move to the dead-letter
topic or the start of a backoff. -/
def releasesWaiting (σ : System) (s : String) : Call → Bool
  | .answer task true =>
    match σ.watches[task]? with
    | some ⟨l, .awaiting⟩ => σ.waiting s l
    | _ => false
  | .giveUp task =>
    match σ.watches[task]? with
    | some ⟨l, .exhausted _⟩ => σ.waiting s l
    | _ => false
  | .releaseLease task =>
    match σ.watches[task]? with
    | some ⟨l, .refused _⟩ => σ.waiting s l
    | _ => false
  | _ => false

/-- Whether no section of a run releases a lease of `s` while its delivery still
waits in the channel of `s`. -/
def inTime (s : String) : System → List Call → Bool
  | _, [] => true
  | σ, c :: cs => !σ.releasesWaiting s c && inTime s (σ.apply c) cs

/-- The laws of the channel of `s` that hold along every run. -/
structure Feeding (σ : System) (s : String) : Prop where
  wired : Wired σ.broker
  stocked : Stocked σ.broker s (σ.watchesOf s)

/-- The laws of the channel of `s` that hold while no lease of `s` is released with
its delivery waiting. -/
structure Prompt (σ : System) (s : String) : Prop where
  fed : Fed σ.broker s (σ.watchesOf s)
  conserving : Conserving σ.broker s

/-- What one call does for the laws of the channel of `s`; those of `Prompt` it
keeps when `timely` holds. It keeps every channel with its capacity. -/
structure Feeds (s : String) (timely : Prop) (σ σ' : System) : Prop where
  feeding : Feeding σ s → Feeding σ' s
  prompt : timely → Feeding σ s → Prompt σ s → Prompt σ' s
  kept : Feeding σ s → ChannelsKept σ.broker σ'.broker

variable {timely : Prop}

theorem absorb_feeds {σ : System} {result : Broker × List Notice} (flows : Flows s σ.broker result) :
    Feeds s timely σ (σ.absorb result) := by
  have watches : (σ.absorb result).watchesOf s = σ.watchesOf s ++ begunFor s result.2 :=
    watchesOf_absorb σ result
  refine ⟨fun feeding => ⟨flows.fills.wired feeding.wired, ?_⟩, fun _ feeding prompt => ⟨?_, ?_⟩,
    fun feeding => flows.fills.kept feeding.wired⟩
  · rw [watches]
    exact flows.fills.stocked _ feeding.wired feeding.stocked
  · rw [watches]
    exact flows.fills.fed _ feeding.wired feeding.stocked prompt.fed
  · exact flows.conserves _ feeding.wired feeding.stocked prompt.fed prompt.conserving

theorem alter_feeds {σ : System} {b : Broker} (flows : Flows s σ.broker (b, [])) :
    Feeds s timely σ (σ.alter b) := by
  rw [alter_eq_absorb]
  exact absorb_feeds flows

theorem Feeds.rest (σ : System) : Feeds s timely σ σ :=
  ⟨id, fun _ _ prompt => prompt, fun _ => ChannelsKept.refl _⟩

/-- A call whose end differs from that of another only in what the laws of the
channel of `s` do not read. -/
theorem Feeds.congr {σ σ₁ σ' : System} (feeds : Feeds s timely σ σ₁) (broker : σ'.broker = σ₁.broker)
    (watches : σ'.watchesOf s = σ₁.watchesOf s) : Feeds s timely σ σ' := by
  refine ⟨fun feeding => ?_, fun onTime feeding prompt => ?_, fun feeding => ?_⟩
  · obtain ⟨wired, stocked⟩ := feeds.feeding feeding
    exact ⟨broker ▸ wired, by rw [broker, watches]; exact stocked⟩
  · obtain ⟨fed, conserving⟩ := feeds.prompt onTime feeding prompt
    exact ⟨by rw [broker, watches]; exact fed, broker ▸ conserving⟩
  · rw [broker]
    exact feeds.kept feeding

/-- A call that starts from a system the laws of `s` read the same. -/
theorem Feeds.of_same {σ σ₁ σ' : System} (feeds : Feeds s timely σ₁ σ') (broker : σ₁.broker = σ.broker)
    (watches : σ₁.watchesOf s = σ.watchesOf s) : Feeds s timely σ σ' := by
  have back : Feeds s timely σ σ₁ := (Feeds.rest σ).congr broker watches
  exact ⟨fun feeding => feeds.feeding (back.feeding feeding),
    fun onTime feeding prompt => feeds.prompt onTime (back.feeding feeding)
      (back.prompt onTime feeding prompt),
    fun feeding => (back.kept feeding).trans (feeds.kept (back.feeding feeding))⟩

/-- A lease of `s` whose delivery does not wait in the channel of `s`: the leases
out whose delivery waits there stay out when its task goes. -/
theorem kept_of_waiting {σ : System} {pre post : List Watch} {w : Watch}
    (notWaiting : σ.waiting s w.lease = false) (own : w.lease.subscription = s) :
    ∀ sub id c, σ.broker.subscription? s = some sub → sub.sender = some id → σ.broker.channel? id = some c →
      ∀ d ∈ c.buffer, ∀ l ∈ outAbove (pre ++ w :: post) id, l.slot = d.slot →
        l ∈ outAbove (pre ++ post) id := by
  intro sub id c found sender channel d member l out same
  simp only [waiting, own, beq_self_eq_true, Bool.true_and, found, Option.bind_some, sender,
    channel, List.any_eq_false, beq_iff_eq] at notWaiting
  exact mem_outAbove_erase out fun equal => notWaiting d member (same.symm.trans equal)

/-- A section of a task of `s` that takes its lease out of the leases out (or puts
its copy back): on a broker `b` the laws read as the system's, it changes `s` by
`f`, keeping its channel and limit, while the tasks of `s` become `rest`; then it
leases again. -/
theorem Feeds.of_retire {σ σ₀ : System} {b : Broker} {f : SubscriptionState → SubscriptionState}
    (names : ∀ x, (f x).name = x.name) (sender : ∀ x, (f x).sender = x.sender)
    (limit : ∀ x, (f x).maxOutstanding = x.maxOutstanding) (reads : Flows s σ.broker (b, []))
    {pre post rest : List Watch} {w : Watch} (around : σ.watchesOf s = pre ++ w :: post)
    (watches : σ₀.watchesOf s = rest) (leases : ∀ v ∈ rest, ∃ u ∈ σ.watchesOf s, u.lease = v.lease)
    (outs : ∀ id, List.Sublist (outAbove rest id) (outAbove (pre ++ w :: post) id))
    (counted : ∀ x, x.outstanding = (unreleased (pre ++ w :: post)).length →
      (f x).outstanding = (unreleased rest).length)
    (kept : timely → ∀ sub id c, b.subscription? s = some sub → sub.sender = some id →
      b.channel? id = some c → ∀ d ∈ c.buffer, ∀ l ∈ outAbove (pre ++ w :: post) id, l.slot = d.slot →
        l ∈ outAbove rest id)
    {result : Broker × List Notice} (fills : Fills s (b.modifySubscription s f) result)
    (restores : Restores s (b.modifySubscription s f) result) : Feeds s timely σ (σ₀.absorb result) := by
  have absorbed : (σ₀.absorb result).watchesOf s = rest ++ begunFor s result.2 := by
    rw [watchesOf_absorb, watches]
    rfl
  -- what the laws read of the system, they read of `b`
  have onB : Feeding σ s → Wired b ∧ Stocked b s (pre ++ w :: post) := fun feeding =>
    ⟨reads.fills.wired feeding.wired, by
      simpa [around] using reads.fills.stocked _ feeding.wired feeding.stocked⟩
  have laws : ∀ feeding : Feeding σ s, _ := fun feeding =>
    retire_then b names sender limit (fun v member => by
        obtain ⟨u, old, same⟩ := leases v member
        rw [← same]
        exact (onB feeding).2.numbered u (around ▸ old))
      outs (fun x found => counted x ((onB feeding).2.counted x found)) fills restores (onB feeding).1
      (onB feeding).2
  refine ⟨fun feeding => ?_, fun onTime feeding prompt => ?_, fun feeding => ?_⟩
  · obtain ⟨wired, -, stocked, -⟩ := laws feeding
    exact ⟨wired, absorbed ▸ stocked⟩
  · have fed : Fed b s (pre ++ w :: post) := by
      simpa [around] using reads.fills.fed _ feeding.wired feeding.stocked prompt.fed
    obtain ⟨fedAfter, conserving⟩ := (laws feeding).2.2.2 fed (kept onTime)
    exact ⟨absorbed ▸ fedAfter, conserving⟩
  · exact (reads.fills.kept feeding.wired).trans (laws feeding).2.1

/-- A task moved between two stages of the same kind, both out or both released:
the laws read the tasks the same. -/
theorem Feeds.of_restage {σ σ' : System} (reads : Flows s σ.broker (σ'.broker, []))
    {pre post : List Watch} {l : Lease} {stage stage' : Stage}
    (around : σ.watchesOf s = pre ++ ⟨l, stage⟩ :: post) (moved : σ'.watchesOf s = pre ++ ⟨l, stage'⟩ :: post)
    (kind : stage'.isBackingOff = stage.isBackingOff) : Feeds s timely σ σ' := by
  have out : ∀ id, outAbove (σ'.watchesOf s) id = outAbove (σ.watchesOf s) id := by
    intro id
    simp only [around, moved, outAbove, List.filter_append, List.filter_cons, kind, List.map_append]
    split <;> rfl
  have count : (unreleased (σ'.watchesOf s)).length = (unreleased (σ.watchesOf s)).length := by
    simp only [around, moved, unreleased, List.filter_append, List.filter_cons, kind, List.length_append]
    split <;> rfl
  have slots : ∀ w ∈ σ'.watchesOf s, ∃ u ∈ σ.watchesOf s, u.lease.slot = w.lease.slot := by
    intro w member
    rw [moved] at member
    rw [around]
    rcases List.mem_append.1 member with early | late
    · exact ⟨w, List.mem_append_left _ early, rfl⟩
    · rcases List.mem_cons.1 late with same | late
      · exact ⟨⟨l, stage⟩, by simp, by rw [same]⟩
      · exact ⟨w, List.mem_append_right _ (List.mem_cons_of_mem _ late), rfl⟩
  refine ⟨fun feeding => ?_, fun _ feeding prompt => ?_, fun feeding => reads.fills.kept feeding.wired⟩
  · have stocked := reads.fills.stocked _ feeding.wired feeding.stocked
    simp only [begunFor_nil, List.append_nil] at stocked
    refine ⟨reads.fills.wired feeding.wired, fun w member => ?_, fun sub found => ?_,
      fun sub id found sender => ?_⟩
    · obtain ⟨u, old, same⟩ := slots w member
      exact same ▸ stocked.numbered u old
    · rw [count]
      exact stocked.counted sub found
    · rw [out]
      exact stocked.feeds sub id found sender
  · have fed := reads.fills.fed _ feeding.wired feeding.stocked prompt.fed
    simp only [begunFor_nil, List.append_nil] at fed
    refine ⟨fun sub id c found sender channel => ?_,
      reads.conserves _ feeding.wired feeding.stocked prompt.fed prompt.conserving⟩
    rw [out]
    exact fed sub id c found sender channel

section Tasks

variable {σ : System} (task : Nat)

theorem answer_feeds (tracked : Tracked retryDelay σ s) (acknowledged : Bool) :
    Feeds s (σ.releasesWaiting s (.answer task acknowledged) = false) σ
      (σ.apply (.answer task acknowledged)) := by
  cases found : σ.watches[task]? with
  | none =>
    simp only [apply, found]
    exact Feeds.rest σ
  | some w =>
    obtain ⟨l, stage⟩ := w
    cases stage with
    | awaiting =>
      have timely : σ.releasesWaiting s (.answer task acknowledged) = (acknowledged && σ.waiting s l) := by
        cases acknowledged <;> simp [releasesWaiting, found]
      rw [timely]
      simp only [apply, found]
      obtain ⟨pre, post, around, dropped, moved⟩ := watchesOf_at (s := s) found
      have forgotten : Flows s σ.broker (σ.broker.forgetSlot l.slot, []) := Fills.rest rfl rfl rfl rfl
      by_cases own : l.subscription = s
      · simp only [own, if_true] at around moved
        have split : σ.watchesOf s = pre ++ ⟨l, .awaiting⟩ :: post := by simpa using around
        cases acknowledged with
        | true =>
          -- the lease is released, then `s` leases again
          rw [if_pos rfl, own]
          unfold acknowledge
          exact Feeds.of_retire
            (f := fun x => { x.release l.pending with acknowledged := x.acknowledged ++ [l.pending.message.messageId] })
            (fun _ => rfl) (fun _ => rfl) (fun _ => rfl) forgotten split dropped
            (fun v member => ⟨v, split ▸ (List.Sublist.append_left (List.sublist_cons_self _ post) pre).subset
              member, rfl⟩)
            (outAbove_erase pre post _)
            (fun x count => by
              show x.outstanding - 1 = _
              rw [count, length_unreleased_out pre post _ rfl, Nat.add_sub_cancel])
            (fun onTime => kept_of_waiting (by simpa using onTime) own)
            (pump_fills_self _).1 (pump_fills_self _).2
        | false =>
          -- the task moves on to the refusal's plan; the lease stays out
          rw [if_neg Bool.false_ne_true]
          have present := present_of_watch tracked (split ▸ by simp : ⟨l, .awaiting⟩ ∈ σ.watchesOf s)
          obtain ⟨sub, subFound⟩ := Option.ne_none_iff_exists'.1 present
          have planned : (σ.broker.forgetSlot l.slot).subscription? l.subscription = some sub := by
            simpa [own] using subFound
          rw [afterRefusal_of_found planned]
          have moved' := moved (refusalStage (σ.broker.forgetSlot l.slot).retryDelay sub l.pending)
          rw [List.append_assoc, List.singleton_append] at moved'
          exact Feeds.of_restage forgotten split moved' (refusalStage_isBackingOff _ _ _)
      · simp only [own, if_false, List.append_nil] at around moved
        cases acknowledged with
        | true =>
          rw [if_pos rfl]
          refine Feeds.of_same (absorb_feeds ?_) rfl (dropped.trans around.symm)
          refine Flows.after ?_ (acknowledge_flows _ own l.pending)
          exact Fills.rest rfl rfl rfl rfl
        | false =>
          rw [if_neg Bool.false_ne_true]
          have cleared : Feeds s (false = false) σ (σ.alter (σ.broker.forgetSlot l.slot)) := alter_feeds forgotten
          unfold afterRefusal
          split
          · exact cleared.congr rfl (dropped.trans around.symm)
          · exact cleared.congr rfl ((moved _).trans around.symm)
          · exact cleared.congr rfl ((moved _).trans around.symm)
    | exhausted topic =>
      simp only [apply, found]
      exact Feeds.rest σ
    | refused delay =>
      simp only [apply, found]
      exact Feeds.rest σ
    | backingOff wake =>
      simp only [apply, found]
      exact Feeds.rest σ

theorem giveUp_feeds :
    Feeds s (σ.releasesWaiting s (.giveUp task) = false) σ (σ.apply (.giveUp task)) := by
  cases found : σ.watches[task]? with
  | none =>
    simp only [apply, found]
    exact Feeds.rest σ
  | some w =>
    obtain ⟨l, stage⟩ := w
    cases stage with
    | exhausted topic =>
      have timely : σ.releasesWaiting s (.giveUp task) = σ.waiting s l := by
        simp [releasesWaiting, found]
      rw [timely]
      simp only [apply, found]
      obtain ⟨pre, post, around, dropped, -⟩ := watchesOf_at (s := s) found
      by_cases own : l.subscription = s
      · simp only [own, if_true] at around
        have split : σ.watchesOf s = pre ++ ⟨l, .exhausted topic⟩ :: post := by simpa using around
        -- the lease is released, the copy goes to the dead-letter topic, and `s` leases again
        rw [own, deadLetter_eq]
        have forwarded := @forwardDeadLetter_flows s (σ.broker.modifySubscription s (·.giveUp l.pending)) s
          l.pending topic
        exact Feeds.of_retire (f := (·.giveUp l.pending)) (fun _ => rfl) (fun _ => rfl) (fun _ => rfl)
          (Fills.rest rfl rfl rfl rfl) split dropped
          (fun v member => ⟨v, split ▸ (List.Sublist.append_left (List.sublist_cons_self _ post) pre).subset
            member, rfl⟩)
          (outAbove_erase pre post _)
          (fun x count => by
            show x.outstanding - 1 = _
            rw [count, length_unreleased_out pre post _ rfl, Nat.add_sub_cancel])
          (fun onTime => kept_of_waiting onTime own) forwarded.1.fills (forwarded.2 rfl)
      · simp only [own, if_false, List.append_nil] at around
        exact Feeds.of_same (absorb_feeds (deadLetter_flows _ own l.pending topic)) rfl
          (dropped.trans around.symm)
    | awaiting =>
      simp only [apply, found]
      exact Feeds.rest σ
    | refused delay =>
      simp only [apply, found]
      exact Feeds.rest σ
    | backingOff wake =>
      simp only [apply, found]
      exact Feeds.rest σ

theorem releaseLease_feeds :
    Feeds s (σ.releasesWaiting s (.releaseLease task) = false) σ (σ.apply (.releaseLease task)) := by
  cases found : σ.watches[task]? with
  | none =>
    simp only [apply, found]
    exact Feeds.rest σ
  | some w =>
    obtain ⟨l, stage⟩ := w
    cases stage with
    | refused delay =>
      have timely : σ.releasesWaiting s (.releaseLease task) = σ.waiting s l := by
        simp [releasesWaiting, found]
      rw [timely]
      simp only [apply, found]
      obtain ⟨pre, post, around, -, moved⟩ := watchesOf_at (s := s) found
      let wake := Stage.backingOff (σ.now + delay.waitTicks)
      by_cases own : l.subscription = s
      · simp only [own, if_true] at around moved
        have split : σ.watchesOf s = pre ++ ⟨l, .refused delay⟩ :: post := by simpa using around
        have backingOff : (σ.moveWatch task wake).watchesOf s = pre ++ ⟨l, wake⟩ :: post := by
          simpa using moved wake
        have released := outAbove_released pre post ⟨l, wake⟩ rfl
        -- the lease is released while the key stays busy, and `s` leases again
        rw [own]
        unfold beginBackoff
        refine Feeds.of_retire ?_ ?_ ?_ (Fills.rest rfl rfl rfl rfl) split backingOff ?_
          (fun id => by rw [released]; exact outAbove_erase pre post _ id) ?_ ?_
          (pump_fills_self _).1 (pump_fills_self _).2
        · exact fun _ => rfl
        · exact fun _ => rfl
        · exact fun _ => rfl
        · intro v member
          rw [split]
          rcases List.mem_append.1 member with early | late
          · exact ⟨v, List.mem_append_left _ early, rfl⟩
          · rcases List.mem_cons.1 late with same | late
            · exact ⟨⟨l, .refused delay⟩, by simp, by rw [same]⟩
            · exact ⟨v, List.mem_append_right _ (List.mem_cons_of_mem _ late), rfl⟩
        · intro x count
          show x.outstanding - 1 = _
          rw [count, length_unreleased_out pre post _ rfl, unreleased_released pre post _ rfl,
            Nat.add_sub_cancel]
        · intro onTime sub id c found' sender channel d member l' out same
          rw [released]
          exact kept_of_waiting onTime own sub id c found' sender channel d member l' out same
      · simp only [own, if_false, List.append_nil] at around moved
        exact Feeds.of_same (absorb_feeds (beginBackoff_flows _ own)) rfl ((moved wake).trans around.symm)
    | awaiting =>
      simp only [apply, found]
      exact Feeds.rest σ
    | exhausted topic =>
      simp only [apply, found]
      exact Feeds.rest σ
    | backingOff wake =>
      simp only [apply, found]
      exact Feeds.rest σ

theorem requeue_feeds : Feeds s timely σ (σ.apply (.requeue task)) := by
  cases found : σ.watches[task]? with
  | none =>
    simp only [apply, found]
    exact Feeds.rest σ
  | some w =>
    obtain ⟨l, stage⟩ := w
    cases stage with
    | backingOff wake =>
      simp only [apply, found]
      split
      · obtain ⟨pre, post, around, dropped, -⟩ := watchesOf_at (s := s) found
        by_cases own : l.subscription = s
        · simp only [own, if_true] at around
          have split : σ.watchesOf s = pre ++ ⟨l, .backingOff wake⟩ :: post := by simpa using around
          have released := outAbove_released pre post ⟨l, .backingOff wake⟩ rfl
          -- the copy goes back to the front of the backlog, and `s` leases again
          rw [own]
          unfold endBackoff
          refine Feeds.of_retire ?_ ?_ ?_ (Fills.rest rfl rfl rfl rfl) split dropped
            (fun v member => ⟨v, split ▸ (List.Sublist.append_left (List.sublist_cons_self _ post) pre).subset
              member, rfl⟩)
            (fun id => by rw [released]) ?_ (fun _ _ _ _ _ _ _ _ _ _ out _ => by rwa [released] at out)
            (pump_fills_self _).1 (pump_fills_self _).2
          · exact fun _ => rfl
          · exact fun _ => rfl
          · exact fun _ => rfl
          · intro x count
            show x.outstanding = _
            rw [count, unreleased_released pre post _ rfl]
        · simp only [own, if_false, List.append_nil] at around
          exact Feeds.of_same (absorb_feeds (endBackoff_flows _ own l.pending)) rfl
            (dropped.trans around.symm)
      · exact Feeds.rest σ
    | awaiting =>
      simp only [apply, found]
      exact Feeds.rest σ
    | exhausted topic =>
      simp only [apply, found]
      exact Feeds.rest σ
    | refused delay =>
      simp only [apply, found]
      exact Feeds.rest σ

end Tasks

/-! ## Runs -/

theorem Feeds.trans {t t' : Prop} {σ σ₁ σ₂ : System} (first : Feeds s t σ σ₁) (second : Feeds s t' σ₁ σ₂) :
    Feeds s (t ∧ t') σ σ₂ :=
  ⟨fun feeding => second.feeding (first.feeding feeding),
    fun onTime feeding prompt =>
      second.prompt onTime.2 (first.feeding feeding) (first.prompt onTime.1 feeding prompt),
    fun feeding => (first.kept feeding).trans (second.kept (first.feeding feeding))⟩

theorem Feeds.mono {t t' : Prop} {σ σ' : System} (feeds : Feeds s t σ σ') (stronger : t' → t) :
    Feeds s t' σ σ' :=
  ⟨feeds.feeding, fun onTime => feeds.prompt (stronger onTime), feeds.kept⟩

/-- Attaching `s`, missing so far, to a topic: `s` is fresh, on no channel, and has
no task. -/
theorem attachSelf_feeds {σ : System} (tracked : Tracked retryDelay σ s) {b : Broker}
    (channels : b.channels = σ.broker.channels) (subscriptions : b.subscriptions = σ.broker.subscriptions)
    (next : b.nextObject = σ.broker.nextObject) (missing : σ.broker.subscription? s = none)
    (topic : String) (settings : SubscriptionSettings) :
    Feeds s timely σ (σ.alter (b.putSubscription (.fresh s topic settings))) := by
  have none : (σ.alter (b.putSubscription (.fresh s topic settings))).watchesOf s = [] :=
    (tracked.absent missing).1
  have wired : Wired σ.broker → Wired b := fun wired =>
    wired.of_shape (Nat.le_of_eq next.symm) (fun c member => ⟨c, channels ▸ member, rfl⟩)
      fun n sub found => .inr ⟨sub, (subscription?_of_subscriptions σ.broker subscriptions n).symm.trans found, rfl⟩
  refine ⟨fun feeding => ?_, fun _ feeding _ => ?_,
    fun _ => ChannelsKept.of_channels ((channels_putSubscription b _).trans channels)⟩
  · obtain ⟨wired', stocked, -, -⟩ := fresh_laws (s := s) b (wired feeding.wired) topic settings
    exact ⟨wired', none ▸ stocked⟩
  · obtain ⟨-, -, fed, conserving⟩ := fresh_laws (s := s) b (wired feeding.wired) topic settings
    exact ⟨none ▸ fed, conserving⟩

/-- Every call that does not re-register `s` keeps the laws of its channel and every
channel's capacity, and those of `Prompt` unless it releases a lease of `s` whose
delivery still waits in that channel. -/
theorem apply_feeds {σ : System} (tracked : Tracked retryDelay σ s) (c : Call)
    (keep : σ.reregisters s c = false) : Feeds s (σ.releasesWaiting s c = false) σ (σ.apply c) := by
  cases c with
  | addTopic name => exact alter_feeds (addTopic_flows _ name)
  | addSubscription name topic settings =>
    by_cases same : name = s
    · subst same
      simp only [reregisters, beq_self_eq_true, Bool.true_and, Bool.and_eq_false_iff] at keep
      simp only [apply, addSubscription]
      split
      · exact absorb_feeds (Fills.rest rfl rfl rfl rfl)
      · rename_i present
        have exists_ : σ.broker.hasTopic topic = true := by simpa using present
        -- a subscription that is not re-registered is missing when it is added
        have missing : σ.broker.subscription? name = none := by
          rcases keep with absent | absent
          · simpa [hasSubscription] using absent
          · simp [exists_] at absent
        have dropped : σ.broker.dropSender none = (σ.broker, []) := rfl
        simp only [missing, Option.bind_none, dropped]
        rw [← alter_eq_absorb]
        refine attachSelf_feeds tracked ?_ ?_ ?_ missing topic settings <;> rfl
    · exact absorb_feeds (addSubscription_flows _ same topic settings)
  | createTopic name => exact alter_feeds (createTopic_flows _ name)
  | createSubscription name topic settings =>
    by_cases same : name = s
    · subst same
      simp only [apply, createSubscription]
      split
      · exact alter_feeds (Fills.rest rfl rfl rfl rfl)
      · split
        · exact alter_feeds (Fills.rest rfl rfl rfl rfl)
        · rename_i absent
          change ¬(σ.broker.hasSubscription name = true) at absent
          split
          · exact alter_feeds (Fills.rest rfl rfl rfl rfl)
          · have missing : σ.broker.subscription? name = none := by
              simpa [hasSubscription] using absent
            refine attachSelf_feeds tracked ?_ ?_ ?_ missing topic settings <;> rfl
    · exact alter_feeds (createSubscription_flows _ same topic settings)
  | publish topic data attributes orderingKey =>
    exact absorb_feeds (publish_flows _ topic data attributes orderingKey)
  | publishRaw topic data attributes => exact absorb_feeds (appendAndPump_fills _ topic data attributes none)
  | openDelivery name limit => exact absorb_feeds (openDelivery_flows _ name limit)
  | close name => exact absorb_feeds (close_flows _ name)
  | flush topic => exact alter_feeds (flush_flows _ topic)
  | countTopicExists => exact alter_feeds (Fills.rest rfl rfl rfl rfl)
  | countSubscriptionExists => exact alter_feeds (Fills.rest rfl rfl rfl rfl)
  | topicExists name => exact alter_feeds (topicExists_flows _ name)
  | setUnavailable value => exact alter_feeds (Fills.rest rfl rfl rfl rfl)
  | failPublishAfter topic successes => exact alter_feeds (Fills.rest rfl rfl rfl rfl)
  | failFlush topic => exact alter_feeds (Fills.rest rfl rfl rfl rfl)
  | failClose subscription => exact alter_feeds (Fills.rest rfl rfl rfl rfl)
  | raceTopicCreation topic => exact alter_feeds (Fills.rest rfl rfl rfl rfl)
  | delayLookups delay => exact alter_feeds (Fills.rest rfl rfl rfl rfl)
  | receive channel =>
    simp only [apply]
    split
    · rename_i b' item received
      exact alter_feeds (receive_flows _ received)
    · exact Feeds.rest σ
  | closeReceiver channel => exact alter_feeds (closeReceiver_flows _ channel)
  | dropReceiver channel => exact absorb_feeds (dropReceiver_flows _ channel)
  | settle slot reply => exact absorb_feeds (settle_fills _ slot reply)
  | answer task acknowledged => exact answer_feeds task tracked acknowledged
  | giveUp task => exact giveUp_feeds task
  | releaseLease task => exact releaseLease_feeds task
  | requeue task => exact requeue_feeds task
  | elapse millis => exact (Feeds.rest σ).congr rfl rfl

/-- Along every run that does not re-register `s`, the laws of its channel hold on and
every channel keeps its capacity; those of `Prompt` hold on while no lease of `s` is
released with its delivery waiting in that channel. -/
theorem run_feeds {σ : System} (tracked : Tracked retryDelay σ s) (calls : List Call)
    (keeps : keeps s σ calls = true) : Feeds s (inTime s σ calls = true) σ (σ.run calls) := by
  induction calls generalizing σ with
  | nil => exact Feeds.rest σ
  | cons c cs induction =>
    simp only [System.keeps, Bool.and_eq_true, Bool.not_eq_true'] at keeps
    -- one call, then the rest of the run from where the call leaves `s`
    have first := apply_feeds tracked c keeps.1
    have rest := induction (apply_advances tracked c keeps.1).tracked keeps.2
    refine (first.trans rest).mono fun onTime => ?_
    simpa [inTime] using onTime

theorem start_feeding (retryDelay : Option Duration) (s : String) :
    Feeding (start retryDelay) s ∧ Prompt (start retryDelay) s := by
  have none : ∀ n, (start retryDelay).broker.subscription? n = none := fun _ => rfl
  refine ⟨⟨⟨fun c member => ?_, fun n sub _ found => ?_, fun n _ sub _ _ found => ?_⟩,
    ⟨fun w member => ?_, fun sub found => ?_, fun sub _ found => ?_⟩⟩,
    ⟨fun sub _ _ found => ?_, fun sub _ _ found => ?_⟩⟩
  · simp [start, Broker.empty] at member
  · simp [none] at found
  · simp [none] at found
  · simp [start, watchesOf] at member
  all_goals simp [none] at found

/-- Once `s` is given a channel of limit `limit`, and while it still delivers on it,
the leases of `s` sent on that channel and not yet released stay within the larger
of `limit` and one. -/
theorem opened_bounded {σ : System} (tracked : Tracked retryDelay σ s) (feeding : Feeding σ s)
    {limit id : Nat} (opened : (σ.broker.openDelivery s limit).2.1 = .ok id) (after : List Call)
    (keeps : keeps s (σ.apply (.openDelivery s limit)) after = true) {sub : SubscriptionState}
    (found : ((σ.apply (.openDelivery s limit)).run after).broker.subscription? s = some sub)
    (delivering : sub.sender = some id) :
    (outAbove (((σ.apply (.openDelivery s limit)).run after).watchesOf s) id).length ≤ max limit 1 := by
  have opening := apply_feeds tracked (.openDelivery s limit) rfl
  have rest := run_feeds (apply_advances tracked _ rfl).tracked after keeps
  have feeding' := opening.feeding feeding
  -- the channel keeps the capacity it opened with, which is the limit of `s` at the end
  obtain ⟨c, lookup, capacity⟩ := openDelivery_capacity _ feeding.wired opened
  obtain ⟨c', lookup', kept⟩ := rest.kept feeding' id c lookup
  obtain ⟨c'', lookup'', sized, bounded⟩ := (rest.feeding feeding').stocked.feeds sub id found delivering
  have same : c'' = c' := Option.some.inj (lookup''.symm.trans lookup')
  calc (outAbove (((σ.apply (.openDelivery s limit)).run after).watchesOf s) id).length
      ≤ sub.maxOutstanding := bounded
    _ = c''.capacity := sized.symm
    _ = max limit 1 := by rw [same, kept, capacity]

end System

/-- Leasing is bounded and work-conserving, along every run from an empty broker that
does not re-register a subscription `s`. Once `s` is given a channel of limit
`limit`, and as long as it still delivers on it: the leases of `s` sent on that
channel and not yet released never exceed the larger of `limit` and one; and, if no
lease of `s` was released while its delivery still waited in that channel, no copy
that could be leased waits in the backlog while a lease is free and the consumer
still receives. Each pass of leasing takes out of the backlog exactly the copies it
leases and keeps the others in their order. -/
theorem leasing_bounded_and_conserving (retryDelay : Option Duration) (s : String) (limit : Nat)
    (before after : List Call) {id : Nat}
    (keeps : System.keeps s (System.start retryDelay) (before ++ .openDelivery s limit :: after) = true)
    (opened : (((System.start retryDelay).run before).broker.openDelivery s limit).2.1 = .ok id) :
    let σ := (System.start retryDelay).run (before ++ .openDelivery s limit :: after)
    (∀ sub, σ.broker.subscription? s = some sub → sub.sender = some id →
      (outAbove (σ.watchesOf s) id).length ≤ max limit 1 ∧
        (System.inTime s (System.start retryDelay) (before ++ .openDelivery s limit :: after) = true →
          ∀ c, σ.broker.channel? id = some c → c.receiving = true → sub.outstanding < sub.maxOutstanding →
            ∀ p ∈ sub.backlog, blockedBy sub.busyKeys p)) ∧
      ∀ (b : Broker) (n : String) (S : SubscriptionState), b.subscription? n = some S →
        ∃ S', (b.pump n).1.subscription? n = some S' ∧ List.Sublist S'.backlog S.backlog ∧
          (S'.backlog ++ (leasesOf (b.pump n).2).map Lease.copy).Perm S.backlog := by
  intro σ
  have tracked := System.start_tracked retryDelay s
  obtain ⟨feeding, prompt⟩ := System.start_feeding retryDelay s
  have split := keeps
  rw [System.keeps_append, Bool.and_eq_true] at split
  -- the run up to the opening, the opening, and the rest of the run
  have reached : σ = (((System.start retryDelay).run before).apply (.openDelivery s limit)).run after := by
    show (System.start retryDelay).run (before ++ _) = _
    rw [System.run_append]
    rfl
  have late : System.keeps s (((System.start retryDelay).run before).apply (.openDelivery s limit)) after =
      true := by
    simpa [System.keeps, System.reregisters] using split.2
  refine ⟨fun sub found delivering => ⟨?_, fun onTime c lookup receives free => ?_⟩,
    fun b n S found => pump_backlog b found⟩
  · rw [reached] at found ⊢
    exact System.opened_bounded (System.run_moves tracked before split.1).1
      ((System.run_feeds tracked before split.1).feeding feeding) opened after late found delivering
  · exact ((System.run_feeds tracked _ keeps).prompt onTime feeding prompt).conserving sub id c found delivering
      lookup receives free

/-- A topic, a subscription on it, a channel of limit one and two messages: the run
keeps the subscription, the channel opens under number 0, the subscription still
delivers on it at the end, and the leases sent on it stay within one. -/
theorem leasing_bounded_on_two_publishes :
    let before : List Call := [.addTopic "t", .addSubscription "s" "t" (SubscriptionSettings.forTopic "t" none)]
    let after : List Call := [.publishRaw "t" ByteArray.empty [], .publishRaw "t" ByteArray.empty []]
    let σ := (System.start none).run (before ++ .openDelivery "s" 1 :: after)
    System.keeps "s" (System.start none) (before ++ .openDelivery "s" 1 :: after) = true ∧
      (((System.start none).run before).broker.openDelivery "s" 1).2.1 = .ok 0 ∧
      (∃ sub, σ.broker.subscription? "s" = some sub ∧ sub.sender = some 0) ∧
      (outAbove (σ.watchesOf "s") 0).length ≤ max 1 1 := by
  intro before after σ
  obtain ⟨sub, found, delivering⟩ : ∃ sub, σ.broker.subscription? "s" = some sub ∧ sub.sender = some 0 :=
    ⟨_, rfl, rfl⟩
  exact ⟨by decide, rfl, ⟨sub, found, delivering⟩,
    ((leasing_bounded_and_conserving none "s" 1 before after (by decide) rfl).1 sub found delivering).1⟩

end Courier.Broker
