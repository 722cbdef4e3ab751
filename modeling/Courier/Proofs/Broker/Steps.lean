import Courier.Proofs.Broker.Calls

namespace Courier.Broker

/-! # Every call advances a subscription's view

A call of the system `Advances` subscription `s` when it keeps what the laws of
`s` need (`Tracked`) and moves the view of `s` by `Moves`, or, while `s` is
missing, leaves it missing or creates it fresh. Broker calls advance `s`
because they behave (module `Calls`); a section of a settlement task advances it
by one `Move` on the task of `s` it acts on, followed by the broker call it
makes. The last theorem of this module puts the calls together: every call that
does not re-register `s` advances it. -/

/-- A subscription as its laws first see it: fresh, with no task and no lease
made for it. -/
def View.Fresh (v : View) : Prop :=
  v.sub = .fresh v.sub.name v.sub.topic v.sub.settings ∧ v.watches = [] ∧ v.leases = []

namespace System

/-- What the laws of subscription `s` need of a system, besides the laws
themselves: what every broker call keeps, the redelivery wait, and no task and
no lease for `s` while it is missing. -/
structure Tracked (retryDelay : Option Duration) (σ : System) (s : String) : Prop where
  kept : Kept σ.broker s
  retryDelay : σ.broker.retryDelay = retryDelay
  absent : σ.broker.subscription? s = none → σ.watchesOf s = [] ∧ σ.leaseLog s = []

structure Advances (retryDelay : Option Duration) (s : String) (σ σ' : System) : Prop where
  tracked : Tracked retryDelay σ' s
  moves : ∀ v, σ.view s = some v →
    ∃ v' arrived, σ'.view s = some v' ∧ Moves retryDelay v v' arrived
  created : σ.view s = none → σ'.view s = none ∨ ∃ v', σ'.view s = some v' ∧ v'.Fresh

variable {retryDelay : Option Duration} {s : String}

theorem start_tracked (retryDelay : Option Duration) (s : String) :
    Tracked retryDelay (start retryDelay) s := by
  refine ⟨⟨⟨fun x t found => ?_, fun sub found => ?_⟩, fun x m member => ?_⟩, rfl, fun _ => ?_⟩
  · simp [start, Broker.empty, topic?] at found
  · simp [start, Broker.empty, subscription?] at found
  · simp [start, Broker.empty, messagesOf, topic?] at member
  · simp [start, watchesOf, leaseLog]

theorem view_of_found {σ : System} {sub : SubscriptionState}
    (found : σ.broker.subscription? s = some sub) :
    σ.view s = some ⟨sub, σ.watchesOf s, σ.leaseLog s, σ.broker.messagesOf sub.topic, σ.now⟩ := by
  simp [view, found]

theorem view_eq_none {σ : System} : σ.view s = none ↔ σ.broker.subscription? s = none := by
  simp [view]

theorem found_of_view {σ : System} {v : View} (viewed : σ.view s = some v) :
    σ.broker.subscription? s = some v.sub ∧
      v = ⟨v.sub, σ.watchesOf s, σ.leaseLog s, σ.broker.messagesOf v.sub.topic, σ.now⟩ := by
  simp only [view, Option.map_eq_some_iff] at viewed
  obtain ⟨sub, found, rfl⟩ := viewed
  exact ⟨found, rfl⟩

@[simp] theorem broker_absorb (σ : System) (result : Broker × List Notice) :
    (σ.absorb result).broker = result.1 := rfl

@[simp] theorem now_absorb (σ : System) (result : Broker × List Notice) :
    (σ.absorb result).now = σ.now := rfl

@[simp] theorem watchesOf_absorb (σ : System) (result : Broker × List Notice) :
    (σ.absorb result).watchesOf s = σ.watchesOf s ++ (leasesFor s result.2).map (⟨·, .awaiting⟩) := by
  simp [absorb, watchesOf, leasesFor, List.filter_map, Function.comp_def]

@[simp] theorem leaseLog_absorb (σ : System) (result : Broker × List Notice) :
    (σ.absorb result).leaseLog s = σ.leaseLog s ++ leasesFor s result.2 := by
  simp [absorb, leaseLog, leasesFor]

theorem alter_eq_absorb (σ : System) (b : Broker) : σ.alter b = σ.absorb (b, []) := by
  simp [alter, absorb]

theorem absorb_advances {σ : System} {result : Broker × List Notice}
    (tracked : Tracked retryDelay σ s) (behaves : Behaves retryDelay s σ.broker result) :
    Advances retryDelay s σ (σ.absorb result) := by
  obtain ⟨kept, delay, shifts⟩ := behaves tracked.kept
  refine ⟨⟨kept, delay.trans tracked.retryDelay, fun missing => ?_⟩, fun v viewed => ?_,
    fun missing => .inl ?_⟩
  · have before : σ.broker.subscription? s = none := by
      cases found : σ.broker.subscription? s with
      | none => rfl
      | some sub =>
        obtain ⟨sub', -, found', -⟩ := shifts.moves sub found
        exact absurd (found'.symm.trans missing) (by simp)
    obtain ⟨noWatches, noLeases⟩ := tracked.absent before
    have noneBegun := (shifts.missing before).2
    simp [noWatches, noLeases, noneBegun]
  · obtain ⟨found, shape⟩ := found_of_view viewed
    obtain ⟨sub', arrived, found', moves⟩ := shifts.moves v.sub found
    refine ⟨_, arrived, view_of_found found', ?_⟩
    rw [shape]
    simpa using moves (σ.watchesOf s) (σ.leaseLog s) σ.now
  · rw [view_eq_none] at missing ⊢
    exact (shifts.missing missing).1

theorem alter_advances {σ : System} {b : Broker} (tracked : Tracked retryDelay σ s)
    (behaves : Behaves retryDelay s σ.broker (b, [])) : Advances retryDelay s σ (σ.alter b) := by
  rw [alter_eq_absorb]
  exact absorb_advances tracked behaves

theorem Advances.rest {σ : System} (tracked : Tracked retryDelay σ s) :
    Advances retryDelay s σ σ := by
  refine ⟨tracked, fun v viewed => ⟨v, [], viewed, Moves.rest v⟩, fun missing => .inl missing⟩

theorem view_congr {σ σ' : System} (broker : σ'.broker = σ.broker)
    (watches : σ'.watchesOf s = σ.watchesOf s) (leases : σ'.leaseLog s = σ.leaseLog s)
    (now : σ'.now = σ.now) : σ'.view s = σ.view s := by
  simp [view, broker, watches, leases, now]

/-- A call whose end differs from that of an advancing call only in what the laws
of `s` do not read. -/
theorem Advances.congr {σ σ₁ σ' : System} (advances : Advances retryDelay s σ σ₁)
    (broker : σ'.broker = σ₁.broker) (watches : σ'.watchesOf s = σ₁.watchesOf s)
    (leases : σ'.leaseLog s = σ₁.leaseLog s) (now : σ'.now = σ₁.now) :
    Advances retryDelay s σ σ' := by
  have same := view_congr broker watches leases now
  obtain ⟨tracked, moves, created⟩ := advances
  refine ⟨⟨broker ▸ tracked.kept, broker ▸ tracked.retryDelay, fun missing => ?_⟩,
    fun v viewed => same ▸ moves v viewed, fun missing => same ▸ created missing⟩
  rw [watches, leases]
  exact tracked.absent (broker ▸ missing)

/-- A step of a task of `s`, as one move, followed by a call that advances. -/
theorem Advances.of_move {σ σ₁ σ' : System} (present : σ.broker.subscription? s ≠ none)
    (move : ∀ v, σ.view s = some v → ∃ v₁, σ₁.view s = some v₁ ∧ Move retryDelay v v₁ [])
    (advances : Advances retryDelay s σ₁ σ') : Advances retryDelay s σ σ' := by
  refine ⟨advances.tracked, fun v viewed => ?_, fun missing => ?_⟩
  · obtain ⟨v₁, viewed₁, step⟩ := move v viewed
    obtain ⟨v', arrived, viewed', moves⟩ := advances.moves v₁ viewed₁
    exact ⟨v', [] ++ arrived, viewed', step.moves.trans moves⟩
  · exact absurd (view_eq_none.1 missing) present

/-! ## The task at a position -/

theorem watches_split {σ : System} {task : Nat} {w : Watch} (found : σ.watches[task]? = some w) :
    ∃ pre post, σ.watches = pre ++ w :: post ∧ pre.length = task := by
  obtain ⟨bound, item⟩ := List.getElem?_eq_some_iff.1 found
  refine ⟨σ.watches.take task, σ.watches.drop (task + 1), ?_, by simp; omega⟩
  have whole := List.take_append_drop task σ.watches
  rw [List.drop_eq_getElem_cons bound, item] at whole
  exact whole.symm

/-- The tasks of `s` around the task at a position, before and after it is
dropped or moved to another stage. -/
theorem watchesOf_at {σ : System} {task : Nat} {w : Watch} (found : σ.watches[task]? = some w) :
    ∃ pre post,
      σ.watchesOf s = pre ++ (if w.lease.subscription = s then [w] else []) ++ post ∧
      (σ.dropWatch task).watchesOf s = pre ++ post ∧
      ∀ stage, (σ.moveWatch task stage).watchesOf s =
        pre ++ (if w.lease.subscription = s then [⟨w.lease, stage⟩] else []) ++ post := by
  obtain ⟨pre, post, split, length⟩ := watches_split found
  subst length
  refine ⟨pre.filter (·.lease.subscription == s), post.filter (·.lease.subscription == s), ?_, ?_,
    fun stage => ?_⟩
  · by_cases own : w.lease.subscription = s <;> simp [watchesOf, split, own]
  · simp [watchesOf, dropWatch, split, List.eraseIdx_eq_take_drop_succ]
  · by_cases own : w.lease.subscription = s <;>
      simp [watchesOf, moveWatch, split, List.modify_eq_take_drop, own]

@[simp] theorem broker_dropWatch (σ : System) (task : Nat) : (σ.dropWatch task).broker = σ.broker :=
  rfl

@[simp] theorem leaseLog_dropWatch (σ : System) (task : Nat) :
    (σ.dropWatch task).leaseLog s = σ.leaseLog s := rfl

@[simp] theorem now_dropWatch (σ : System) (task : Nat) : (σ.dropWatch task).now = σ.now := rfl

@[simp] theorem broker_moveWatch (σ : System) (task : Nat) (stage : Stage) :
    (σ.moveWatch task stage).broker = σ.broker := rfl

@[simp] theorem leaseLog_moveWatch (σ : System) (task : Nat) (stage : Stage) :
    (σ.moveWatch task stage).leaseLog s = σ.leaseLog s := rfl

@[simp] theorem now_moveWatch (σ : System) (task : Nat) (stage : Stage) :
    (σ.moveWatch task stage).now = σ.now := rfl

@[simp] theorem watches_alter (σ : System) (b : Broker) : (σ.alter b).watches = σ.watches := rfl

@[simp] theorem broker_alter (σ : System) (b : Broker) : (σ.alter b).broker = b := rfl

theorem present_of_watch {σ : System} (tracked : Tracked retryDelay σ s) {w : Watch}
    (member : w ∈ σ.watchesOf s) : σ.broker.subscription? s ≠ none := by
  intro missing
  rw [(tracked.absent missing).1] at member
  cases member

/-- Dropping the task of another subscription, or moving it to another stage,
leaves the view of `s` as it is. -/
theorem Advances.of_other {σ σ₁ σ' : System} {task : Nat} {w : Watch}
    (found : σ₁.watches[task]? = some w) (other : w.lease.subscription ≠ s)
    (advances : Advances retryDelay s σ σ₁)
    (after : σ' = σ₁.dropWatch task ∨ ∃ stage, σ' = σ₁.moveWatch task stage) :
    Advances retryDelay s σ σ' := by
  obtain ⟨pre, post, around, dropped, moved⟩ := watchesOf_at (s := s) found
  simp only [other, if_false, List.append_nil] at around moved
  rcases after with rfl | ⟨stage, rfl⟩
  · exact advances.congr rfl (dropped.trans around.symm) rfl rfl
  · exact advances.congr rfl ((moved stage).trans around.symm) rfl rfl

/-- A call that starts from a system with the same view of `s`. -/
theorem Advances.of_same_view {σ σ₁ σ' : System} (same : σ₁.view s = σ.view s)
    (advances : Advances retryDelay s σ₁ σ') : Advances retryDelay s σ σ' :=
  ⟨advances.tracked, fun v viewed => advances.moves v (same.trans viewed),
    fun missing => advances.created (same.trans missing)⟩

/-- A section of a task of `s` that changes the state of `s` by `f` and the tasks of
`s` by one move, then makes a broker call that advances `s`. -/
theorem Advances.of_own {σ σ₁ σ' : System} (advances : Advances retryDelay s σ₁ σ')
    (present : σ.broker.subscription? s ≠ none) (steady : Steady σ.broker σ₁.broker)
    {f : SubscriptionState → SubscriptionState}
    (state : σ₁.broker.subscription? s = (σ.broker.subscription? s).map f)
    (leases : σ₁.leaseLog s = σ.leaseLog s) (now : σ₁.now = σ.now)
    (move : ∀ sub, σ.broker.subscription? s = some sub →
      Move retryDelay ⟨sub, σ.watchesOf s, σ.leaseLog s, σ.broker.messagesOf sub.topic, σ.now⟩
        ⟨f sub, σ₁.watchesOf s, σ.leaseLog s, σ.broker.messagesOf sub.topic, σ.now⟩ []) :
    Advances retryDelay s σ σ' := by
  refine Advances.of_move present (fun v viewed => ?_) advances
  obtain ⟨found, shape⟩ := found_of_view viewed
  have found₁ : σ₁.broker.subscription? s = some (f v.sub) := by rw [state, found]; rfl
  have topic : (f v.sub).topic = v.sub.topic := by
    have subscribed := steady.subscribed s
    rw [state, found] at subscribed
    simpa using subscribed
  refine ⟨_, view_of_found found₁, ?_⟩
  rw [shape, leases, now, topic, messagesOf_of_topics steady.topics]
  exact move v.sub found

theorem afterRefusal_of_found {σ : System} {task : Nat} {l : Lease} {b : Broker}
    {sub : SubscriptionState} (found : b.subscription? l.subscription = some sub) :
    σ.afterRefusal task l b = (σ.alter b).moveWatch task (refusalStage b.retryDelay sub l.pending) := by
  unfold afterRefusal retryPlan
  rw [found]
  by_cases exhausted : sub.settings.deadLetter.maxDeliveryAttempts ≤ l.pending.attempts <;>
    simp [exhausted, refusalStage]

theorem forgetSlot_steady (b : Broker) (slot : Nat) : Steady b (b.forgetSlot slot) :=
  ⟨rfl, fun _ => rfl, rfl, rfl⟩

/-- The system a task of `s` leaves after it changed the state of `s`, which exists. -/
theorem tracked_of_present {σ σ₁ : System} (tracked : Tracked retryDelay σ s)
    (steady : Steady σ.broker σ₁.broker) (present : σ₁.broker.subscription? s ≠ none) :
    Tracked retryDelay σ₁ s :=
  ⟨⟨tracked.kept.attached.steady steady, tracked.kept.numbered.steady steady⟩,
    steady.retryDelay.trans tracked.retryDelay, fun missing => absurd missing present⟩

/-- A section of a task of `s`: it changes the tasks of `s` by one move, which also
changes the state of `s` by `f` on a broker `b` that differs from the system's only
in what no law reads, and then makes a broker call that behaves. -/
theorem Advances.own_section {σ σ₀ : System} (tracked : Tracked retryDelay σ s)
    (present : σ.broker.subscription? s ≠ none) {b : Broker} (steady : Steady σ.broker b)
    (sameSub : b.subscription? s = σ.broker.subscription? s)
    {f : SubscriptionState → SubscriptionState} {result : Broker × List Notice}
    (behaves : Behaves retryDelay s (b.modifySubscription s f) result)
    (keeps : ∀ x, (f x).name = x.name ∧ (f x).topic = x.topic)
    (leases : σ₀.leaseLog s = σ.leaseLog s) (now : σ₀.now = σ.now)
    (move : ∀ sub, σ.broker.subscription? s = some sub →
      Move retryDelay ⟨sub, σ.watchesOf s, σ.leaseLog s, σ.broker.messagesOf sub.topic, σ.now⟩
        ⟨f sub, σ₀.watchesOf s, σ.leaseLog s, σ.broker.messagesOf sub.topic, σ.now⟩ []) :
    Advances retryDelay s σ (σ₀.absorb result) := by
  let σ₁ : System := { σ₀ with broker := b.modifySubscription s f }
  have state : σ₁.broker.subscription? s = (σ.broker.subscription? s).map f := by
    simp [σ₁, subscription?_modifySubscription b s s f fun x => (keeps x).1, sameSub]
  have steady₁ : Steady σ.broker σ₁.broker := steady.trans (modifySubscription_steady b s f keeps)
  have tracked₁ : Tracked retryDelay σ₁ s :=
    tracked_of_present tracked steady₁ (by rw [state]; simpa using present)
  exact (absorb_advances tracked₁ behaves).of_own present steady₁ state leases now move

/-! ## Sections of settlement tasks -/

section Tasks

variable {σ : System} (tracked : Tracked retryDelay σ s) (task : Nat)
include tracked

theorem answer_advances (acknowledged : Bool) :
    Advances retryDelay s σ (σ.apply (.answer task acknowledged)) := by
  cases found : σ.watches[task]? with
  | none =>
    simp only [apply, found]
    exact Advances.rest tracked
  | some w =>
    obtain ⟨l, stage⟩ := w
    cases stage with
    | awaiting =>
      simp only [apply, found]
      obtain ⟨pre, post, around, dropped, moved⟩ := watchesOf_at (s := s) found
      let b := σ.broker.forgetSlot l.slot
      have forgotten : Steady σ.broker b := forgetSlot_steady σ.broker l.slot
      by_cases own : l.subscription = s
      · simp only [own, if_true] at around moved
        have present := present_of_watch tracked (around ▸ by simp : ⟨l, .awaiting⟩ ∈ σ.watchesOf s)
        cases acknowledged with
        | true =>
          rw [if_pos rfl, own]
          exact Advances.own_section tracked present forgotten rfl (pump_behaves _ s)
            (fun _ => ⟨rfl, rfl⟩) rfl rfl fun sub _ => by
              rw [dropped]
              exact Move.acknowledge _ pre post l (by simpa using around)
        | false =>
          rw [if_neg Bool.false_ne_true]
          obtain ⟨sub, subFound⟩ := Option.ne_none_iff_exists'.1 present
          have planned : b.subscription? l.subscription = some sub := by
            simpa [b, own] using subFound
          rw [afterRefusal_of_found planned]
          let σ' := (σ.alter b).moveWatch task (refusalStage b.retryDelay sub l.pending)
          have tracked' : Tracked retryDelay σ' s :=
            tracked_of_present tracked forgotten (by simpa [σ', b] using present)
          have stage : refusalStage b.retryDelay sub l.pending = refusalStage retryDelay sub l.pending := by
            rw [show b.retryDelay = retryDelay from tracked.retryDelay]
          have watches' : σ'.watchesOf s = pre ++ ⟨l, refusalStage retryDelay sub l.pending⟩ :: post := by
            rw [← stage]
            show (σ.moveWatch task (refusalStage b.retryDelay sub l.pending)).watchesOf s = _
            simpa using moved _
          have state : σ'.broker.subscription? s = (σ.broker.subscription? s).map fun x => x := by
            simp [σ', b]
          refine (Advances.rest tracked').of_own present forgotten state rfl rfl fun sub' found' => ?_
          obtain rfl : sub' = sub := Option.some.inj (found'.symm.trans subFound)
          rw [watches']
          exact Move.refuse _ pre post l (by simpa using around)
      · simp only [own, if_false, List.append_nil] at around moved
        have cleared : Advances retryDelay s σ (σ.alter b) :=
          alter_advances tracked (Behaves.rest rfl rfl rfl rfl rfl)
        have foundAfter : (σ.alter b).watches[task]? = some ⟨l, .awaiting⟩ := found
        cases acknowledged with
        | true =>
          rw [if_pos rfl]
          have behaves : Behaves retryDelay s σ.broker (b.acknowledge l.subscription l.pending) := by
            refine Behaves.after ?_ (acknowledge_behaves _ own l.pending)
            exact Behaves.rest rfl rfl rfl rfl rfl
          have dropping := (Advances.rest tracked).of_other found own (.inl rfl)
          have same : (σ.dropWatch task).view s = σ.view s :=
            view_congr rfl (dropped.trans around.symm) rfl rfl
          exact Advances.of_same_view same (absorb_advances dropping.tracked behaves)
        | false =>
          rw [if_neg Bool.false_ne_true]
          unfold afterRefusal
          split
          · exact cleared.of_other foundAfter own (.inl rfl)
          · exact cleared.of_other foundAfter own (.inr ⟨_, rfl⟩)
          · exact cleared.of_other foundAfter own (.inr ⟨_, rfl⟩)
    | exhausted topic =>
      simp only [apply, found]
      exact Advances.rest tracked
    | refused delay =>
      simp only [apply, found]
      exact Advances.rest tracked
    | backingOff wake =>
      simp only [apply, found]
      exact Advances.rest tracked

theorem giveUp_advances : Advances retryDelay s σ (σ.apply (.giveUp task)) := by
  cases found : σ.watches[task]? with
  | none =>
    simp only [apply, found]
    exact Advances.rest tracked
  | some w =>
    obtain ⟨l, stage⟩ := w
    cases stage with
    | exhausted topic =>
      simp only [apply, found]
      obtain ⟨pre, post, around, dropped, -⟩ := watchesOf_at (s := s) found
      by_cases own : l.subscription = s
      · simp only [own, if_true] at around
        have present := present_of_watch tracked (around ▸ by simp : ⟨l, .exhausted topic⟩ ∈ σ.watchesOf s)
        rw [own, deadLetter_eq]
        exact Advances.own_section tracked present (Steady.refl _) rfl
          (forwardDeadLetter_behaves _ s l.pending topic) (fun _ => ⟨rfl, rfl⟩) rfl rfl fun sub _ => by
            rw [dropped]
            exact Move.deadLetter _ pre post l topic (by simpa using around)
      · simp only [own, if_false, List.append_nil] at around
        have same : (σ.dropWatch task).view s = σ.view s :=
          view_congr rfl (dropped.trans around.symm) rfl rfl
        exact Advances.of_same_view same (absorb_advances
          ((Advances.rest tracked).of_other found own (.inl rfl)).tracked
          (deadLetter_behaves σ.broker own l.pending topic))
    | awaiting =>
      simp only [apply, found]
      exact Advances.rest tracked
    | refused delay =>
      simp only [apply, found]
      exact Advances.rest tracked
    | backingOff wake =>
      simp only [apply, found]
      exact Advances.rest tracked

theorem releaseLease_advances : Advances retryDelay s σ (σ.apply (.releaseLease task)) := by
  cases found : σ.watches[task]? with
  | none =>
    simp only [apply, found]
    exact Advances.rest tracked
  | some w =>
    obtain ⟨l, stage⟩ := w
    cases stage with
    | refused delay =>
      simp only [apply, found]
      obtain ⟨pre, post, around, -, moved⟩ := watchesOf_at (s := s) found
      by_cases own : l.subscription = s
      · simp only [own, if_true] at around moved
        have present := present_of_watch tracked (around ▸ by simp : ⟨l, .refused delay⟩ ∈ σ.watchesOf s)
        rw [own]
        exact Advances.own_section tracked present (Steady.refl _) rfl (pump_behaves _ s)
          (fun _ => ⟨rfl, rfl⟩) rfl rfl fun sub _ => by
            rw [moved]
            simpa using Move.beginBackoff _ pre post l delay (by simpa using around)
      · simp only [own, if_false, List.append_nil] at around moved
        let stage := Stage.backingOff (σ.now + delay.waitTicks)
        have same : (σ.moveWatch task stage).view s = σ.view s :=
          view_congr rfl ((moved stage).trans around.symm) rfl rfl
        exact Advances.of_same_view same (absorb_advances
          ((Advances.rest tracked).of_other found own (.inr ⟨stage, rfl⟩)).tracked
          (beginBackoff_behaves σ.broker own))
    | awaiting =>
      simp only [apply, found]
      exact Advances.rest tracked
    | exhausted topic =>
      simp only [apply, found]
      exact Advances.rest tracked
    | backingOff wake =>
      simp only [apply, found]
      exact Advances.rest tracked

theorem requeue_advances : Advances retryDelay s σ (σ.apply (.requeue task)) := by
  cases found : σ.watches[task]? with
  | none =>
    simp only [apply, found]
    exact Advances.rest tracked
  | some w =>
    obtain ⟨l, stage⟩ := w
    cases stage with
    | backingOff wake =>
      simp only [apply, found]
      split
      · rename_i due
        obtain ⟨pre, post, around, dropped, -⟩ := watchesOf_at (s := s) found
        by_cases own : l.subscription = s
        · simp only [own, if_true] at around
          have present :=
            present_of_watch tracked (around ▸ by simp : ⟨l, .backingOff wake⟩ ∈ σ.watchesOf s)
          rw [own]
          exact Advances.own_section tracked present (Steady.refl _) rfl (pump_behaves _ s)
            (fun _ => ⟨rfl, rfl⟩) rfl rfl fun sub _ => by
              rw [dropped]
              exact Move.endBackoff _ pre post l wake (by simpa using around) due
        · simp only [own, if_false, List.append_nil] at around
          have same : (σ.dropWatch task).view s = σ.view s :=
            view_congr rfl (dropped.trans around.symm) rfl rfl
          exact Advances.of_same_view same (absorb_advances
            ((Advances.rest tracked).of_other found own (.inl rfl)).tracked
            (endBackoff_behaves σ.broker own l.pending))
      · exact Advances.rest tracked
    | awaiting =>
      simp only [apply, found]
      exact Advances.rest tracked
    | exhausted topic =>
      simp only [apply, found]
      exact Advances.rest tracked
    | refused delay =>
      simp only [apply, found]
      exact Advances.rest tracked

end Tasks

/-! ## Creating `s`, and the clock -/

/-- Attaching `s`, missing so far, to an existing topic creates it fresh. -/
theorem attachSelf_advances {σ : System} (tracked : Tracked retryDelay σ s) {b : Broker}
    (steady : Steady σ.broker b) (missing : σ.broker.subscription? s = none)
    (sameSub : b.subscription? s = σ.broker.subscription? s) {topic : String}
    (present : b.hasTopic topic) (settings : SubscriptionSettings) :
    Advances retryDelay s σ (σ.alter ((b.modifyTopic topic fun t =>
      { t with subscriptions := t.subscriptions ++ [s] }).putSubscription (.fresh s topic settings))) := by
  have kept : Kept b s := ⟨tracked.kept.attached.steady steady, tracked.kept.numbered.steady steady⟩
  obtain ⟨kept', found, delay, -⟩ := attachSelf_kept b topic settings kept (sameSub.trans missing) present
  obtain ⟨noWatches, noLeases⟩ := tracked.absent missing
  refine ⟨⟨kept', delay.trans (steady.retryDelay.trans tracked.retryDelay), fun missing' => ?_⟩,
    fun v viewed => ?_, fun _ => .inr ⟨_, view_of_found found, ?_⟩⟩
  · simp [alter, found] at missing'
  · rw [view_eq_none.2 missing] at viewed
    cases viewed
  · exact ⟨rfl, noWatches, noLeases⟩

theorem elapse_advances {σ : System} (tracked : Tracked retryDelay σ s) (millis : Nat) :
    Advances retryDelay s σ (σ.apply (.elapse millis)) := by
  show Advances retryDelay s σ { σ with now := σ.now + millis }
  refine ⟨⟨tracked.kept, tracked.retryDelay, tracked.absent⟩, fun v viewed => ?_,
    fun missing => .inl ?_⟩
  · obtain ⟨found, shape⟩ := found_of_view viewed
    refine ⟨_, [], view_of_found found, ?_⟩
    rw [shape]
    exact (Move.elapse _ millis).moves
  · simpa [view] using missing

/-! ## Every call -/

theorem apply_advances {σ : System} (tracked : Tracked retryDelay σ s) (c : Call)
    (keep : σ.reregisters s c = false) : Advances retryDelay s σ (σ.apply c) := by
  cases c with
  | addTopic name => exact alter_advances tracked (addTopic_behaves _ name)
  | addSubscription name topic settings =>
    by_cases same : name = s
    · subst same
      simp only [reregisters, beq_self_eq_true, Bool.true_and, Bool.and_eq_false_iff] at keep
      simp only [apply, addSubscription]
      split
      · exact absorb_advances tracked (Behaves.rest rfl rfl rfl rfl rfl)
      · rename_i present
        have exists_ : σ.broker.hasTopic topic = true := by simpa using present
        have missing : σ.broker.subscription? name = none := by
          rcases keep with absent | absent
          · simpa [hasSubscription] using absent
          · simp [exists_] at absent
        have dropped : σ.broker.dropSender none = (σ.broker, []) := rfl
        simp only [missing, Option.bind_none, dropped]
        rw [← alter_eq_absorb]
        exact attachSelf_advances tracked (Steady.refl _) missing rfl exists_ settings
    · exact absorb_advances tracked (addSubscription_behaves _ name topic settings same)
  | createTopic name => exact alter_advances tracked (createTopic_behaves _ name)
  | createSubscription name topic settings =>
    by_cases same : name = s
    · subst same
      simp only [apply, createSubscription]
      split
      · exact alter_advances tracked (Behaves.rest rfl rfl rfl rfl rfl)
      · split
        · exact alter_advances tracked (Behaves.rest rfl rfl rfl rfl rfl)
        · rename_i absent
          change ¬(σ.broker.hasSubscription name = true) at absent
          split
          · exact alter_advances tracked (Behaves.rest rfl rfl rfl rfl rfl)
          · rename_i present
            change ¬((!σ.broker.hasTopic topic) = true) at present
            have missing : σ.broker.subscription? name = none := by
              simpa [hasSubscription] using absent
            refine attachSelf_advances tracked ?_ missing ?_ ?_ settings
            · exact ⟨rfl, fun _ => rfl, rfl, rfl⟩
            · rfl
            · exact (show σ.broker.hasTopic topic = true by simpa using present)
    · exact alter_advances tracked (createSubscription_behaves _ name topic settings same)
  | publish topic data attributes orderingKey =>
    exact absorb_advances tracked (publish_behaves _ topic data attributes orderingKey)
  | publishRaw topic data attributes =>
    exact absorb_advances tracked (publishRaw_behaves _ topic data attributes)
  | openDelivery name limit => exact absorb_advances tracked (openDelivery_behaves _ name limit)
  | close name => exact absorb_advances tracked (close_behaves _ name)
  | flush topic => exact alter_advances tracked (flush_behaves _ topic)
  | countTopicExists => exact alter_advances tracked (Behaves.rest rfl rfl rfl rfl rfl)
  | countSubscriptionExists => exact alter_advances tracked (Behaves.rest rfl rfl rfl rfl rfl)
  | topicExists name => exact alter_advances tracked (topicExists_behaves _ name)
  | setUnavailable value => exact alter_advances tracked (Behaves.rest rfl rfl rfl rfl rfl)
  | failPublishAfter topic successes => exact alter_advances tracked (Behaves.rest rfl rfl rfl rfl rfl)
  | failFlush topic => exact alter_advances tracked (Behaves.rest rfl rfl rfl rfl rfl)
  | failClose subscription => exact alter_advances tracked (Behaves.rest rfl rfl rfl rfl rfl)
  | raceTopicCreation topic => exact alter_advances tracked (Behaves.rest rfl rfl rfl rfl rfl)
  | delayLookups delay => exact alter_advances tracked (Behaves.rest rfl rfl rfl rfl rfl)
  | receive channel =>
    simp only [apply]
    split
    · rename_i b' item received
      exact alter_advances tracked (receive_behaves _ received)
    · exact Advances.rest tracked
  | closeReceiver channel => exact alter_advances tracked (Behaves.rest rfl rfl rfl rfl rfl)
  | dropReceiver channel => exact absorb_advances tracked (dropReceiver_behaves _ channel)
  | settle slot reply => exact absorb_advances tracked (settle_behaves _ slot reply)
  | answer task acknowledged => exact answer_advances tracked task acknowledged
  | giveUp task => exact giveUp_advances tracked task
  | releaseLease task => exact releaseLease_advances tracked task
  | requeue task => exact requeue_advances tracked task
  | elapse millis => exact elapse_advances tracked millis

/-! ## Runs -/

/-- The messages that reached the topic of `s` during a call are the ones the
moves of its view report. -/
theorem arrivedDuring_eq {σ : System} {c : Call} {v v' : View} {arrived : List StoredMessage}
    (viewed : σ.view s = some v) (viewed' : (σ.apply c).view s = some v')
    (moves : Moves retryDelay v v' arrived) : σ.arrivedDuring s c = arrived := by
  obtain ⟨found, shape⟩ := found_of_view viewed
  obtain ⟨-, shape'⟩ := found_of_view viewed'
  obtain ⟨-, topic, -, messages⟩ := moves.frame
  have before : v.messages = σ.broker.messagesOf v.sub.topic := by rw [shape]
  have after : v'.messages = (σ.apply c).broker.messagesOf v.sub.topic := by rw [shape', topic]
  simp only [arrivedDuring, found]
  rw [← before, ← after, messages, List.drop_left]

theorem arrivedDuring_of_missing {σ : System} (missing : σ.broker.subscription? s = none)
    (c : Call) : σ.arrivedDuring s c = [] := by
  simp [arrivedDuring, missing]

theorem run_append (σ : System) (calls later : List Call) :
    σ.run (calls ++ later) = (σ.run calls).run later := by
  simp [run, List.foldl_append]

theorem keeps_append (σ : System) (calls later : List Call) :
    keeps s σ (calls ++ later) = (keeps s σ calls && keeps s (σ.run calls) later) := by
  induction calls generalizing σ with
  | nil => simp [keeps, run]
  | cons c cs induction =>
    simp only [List.cons_append, keeps, induction, Bool.and_assoc]
    rfl

theorem arrivals_append (σ : System) (calls later : List Call) :
    arrivals s σ (calls ++ later) = arrivals s σ calls ++ arrivals s (σ.run calls) later := by
  induction calls generalizing σ with
  | nil => simp [arrivals, run]
  | cons c cs induction =>
    simp only [List.cons_append, arrivals, induction, List.append_assoc]
    rfl

/-- Along every run that does not re-register `s`, the view of `s` moves by
`Moves`, reporting the messages that reached its topic; a missing `s` stays
missing with nothing queued, or is created fresh and moves from there. -/
theorem run_moves {σ : System} (tracked : Tracked retryDelay σ s) (calls : List Call)
    (keeps : keeps s σ calls = true) :
    Tracked retryDelay (σ.run calls) s ∧
      (∀ v, σ.view s = some v →
        ∃ v', (σ.run calls).view s = some v' ∧ Moves retryDelay v v' (arrivals s σ calls)) ∧
      (σ.view s = none →
        ((σ.run calls).view s = none ∧ arrivals s σ calls = []) ∨
          ∃ v₀ v', v₀.Fresh ∧ (σ.run calls).view s = some v' ∧
            Moves retryDelay v₀ v' (arrivals s σ calls)) := by
  induction calls generalizing σ with
  | nil =>
    refine ⟨tracked, fun v viewed => ⟨v, viewed, Moves.rest v⟩, fun missing => .inl ⟨missing, rfl⟩⟩
  | cons c cs induction =>
    simp only [System.keeps, Bool.and_eq_true, Bool.not_eq_true'] at keeps
    have advances := apply_advances tracked c keeps.1
    obtain ⟨tracked', moves', created'⟩ := induction advances.tracked keeps.2
    refine ⟨tracked', fun v viewed => ?_, fun missing => ?_⟩
    · obtain ⟨v₁, arrived, viewed₁, moves₁⟩ := advances.moves v viewed
      obtain ⟨v', viewed', moves⟩ := moves' v₁ viewed₁
      refine ⟨v', viewed', ?_⟩
      rw [arrivals, arrivedDuring_eq viewed viewed₁ moves₁]
      exact moves₁.trans moves
    · have nothing := arrivedDuring_of_missing (view_eq_none.1 missing) c
      rcases advances.created missing with stillMissing | ⟨v₀, viewed₀, fresh⟩
      · rcases created' stillMissing with ⟨missing', none'⟩ | ⟨v₀, v', fresh, viewed', moves⟩
        · exact .inl ⟨missing', by rw [arrivals, nothing, none']; rfl⟩
        · exact .inr ⟨v₀, v', fresh, viewed', by rw [arrivals, nothing]; simpa using moves⟩
      · obtain ⟨v', viewed', moves⟩ := moves' v₀ viewed₀
        exact .inr ⟨v₀, v', fresh, viewed', by rw [arrivals, nothing]; simpa using moves⟩

/-- A law of one subscription that holds of it fresh, with nothing queued, and that
every move keeps, holds of it after every run from an empty broker that does not
re-register it, with the messages the run queued on it. -/
theorem start_law {P : View → List StoredMessage → Prop}
    (step : ∀ {v w queued more}, Move retryDelay v w more → P v queued → P w (queued ++ more))
    (fresh : ∀ v : View, v.Fresh → P v []) {calls : List Call}
    (keeps : keeps s (start retryDelay) calls = true) {v : View}
    (viewed : ((start retryDelay).run calls).view s = some v) :
    P v (arrivals s (start retryDelay) calls) := by
  obtain ⟨-, -, created⟩ := run_moves (start_tracked retryDelay s) calls keeps
  rcases created rfl with ⟨missing, -⟩ | ⟨v₀, v', isFresh, viewed', moves⟩
  · rw [missing] at viewed
    cases viewed
  · rw [viewed] at viewed'
    cases viewed'
    simpa using moves.keep step (fresh v₀ isFresh)

end System

end Courier.Broker
