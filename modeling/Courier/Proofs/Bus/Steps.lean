import Courier.Proofs.Tasks.Atomic
import Courier.Bus.Calls

namespace Courier

/-! The atomic steps of bus programs, and how they change the world.

Reading the world, changing it, counting a metric, calling the broker and
passing its notices on: none of these waits for anything, so a task that runs
alone passes each at once with a known effect. The delivery counters are read
back by subscription and outcome. -/

namespace World

/-- Changing a loop in a way that keeps its number is seen by the next lookup of it. -/
theorem loop?_modifyLoop (w : World) (id : Nat) {f : LoopState → LoopState}
    (keeps : ∀ l, (f l).id = l.id) : (w.modifyLoop id f).loop? id = (w.loop? id).map f := by
  unfold modifyLoop loop?
  dsimp only
  induction w.loops with
  | nil => rfl
  | cons l rest induction =>
    by_cases same : (l.id == id) = true
    · have kept : ((f l).id == id) = true := by rw [keeps]; exact same
      simp only [List.map_cons, same, if_true, List.find?_cons, kept, Option.map_some]
    · simp only [Bool.not_eq_true] at same
      simp only [List.map_cons, same, Bool.false_eq_true, if_false, List.find?_cons, induction]

@[simp] theorem broker_modifyLoop (w : World) (id : Nat) (f : LoopState → LoopState) :
    (w.modifyLoop id f).broker = w.broker := rfl

@[simp] theorem metrics_modifyLoop (w : World) (id : Nat) (f : LoopState → LoopState) :
    (w.modifyLoop id f).metrics = w.metrics := rfl

@[simp] theorem handled_modifyLoop (w : World) (id : Nat) (f : LoopState → LoopState) :
    (w.modifyLoop id f).handled = w.handled := rfl

end World

namespace Prog

open Async

theorem atomic_alter (f : World → World) :
    Atomic (alter f) fun m => ({ m with world := f m.world }, ()) :=
  fun _ _ _ => ⟨1, fun _ _ => rfl⟩

theorem atomic_view {α : Type} (f : World → α) : Atomic (view f) fun m => (m, f m.world) :=
  fun _ _ _ => ⟨1, fun _ _ => rfl⟩

theorem atomic_note (f : Metrics → Metrics) :
    Atomic (note f) fun m => ({ m with world := { m.world with metrics := f m.world.metrics } }, ()) :=
  atomic_alter _

theorem atomic_task {α : Type} (f : Tasking Job → Tasking Job × α) :
    Atomic (Async.task f : Prog α) fun m => ({ m with tasking := (f m.tasking).1 }, (f m.tasking).2) :=
  fun _ _ _ => ⟨1, fun _ _ => rfl⟩

theorem atomic_now : Atomic (Async.now : Prog Nat) fun m => (m, m.tasking.now) :=
  fun _ _ _ => ⟨1, fun _ _ => rfl⟩

/-- What passing on one notice of a broker call does to the bookkeeping of tasks. -/
def noticed (t : Tasking Job) : Notice → Tasking Job
  | .delivered channel => t.signal (.channel channel)
  | .leased lease => (t.start (.watch lease)).1
  | .replied slot => t.signal (.slot slot)
  | .senderGone channel => t.signal (.channel channel)

theorem foldl_tasking {γ : Type} (g : Tasking Job → γ → Tasking Job) (items : List γ)
    (m : Machine Job World) :
    items.foldl (fun m c => { m with tasking := g m.tasking c }) m =
      { m with tasking := items.foldl g m.tasking } := by
  induction items generalizing m with
  | nil => rfl
  | cons c rest induction => exact induction _

theorem foldl_metrics {γ : Type} (g : Metrics → γ → Metrics) (items : List γ) (m : Machine Job World) :
    items.foldl (fun m c => { m with world := { m.world with metrics := g m.world.metrics c } }) m =
      { m with world := { m.world with metrics := items.foldl g m.world.metrics } } := by
  induction items generalizing m with
  | nil => rfl
  | cons c rest induction => exact induction _

theorem atomic_announce (notices : List Notice) :
    Atomic (announce notices) fun m => ({ m with tasking := notices.foldl noticed m.tasking }, ()) := by
  refine (@Atomic.forM Job World Notice _ (fun m notice => { m with tasking := noticed m.tasking notice })
    ?_ notices).congr fun m => by rw [foldl_tasking]
  intro notice
  cases notice <;> exact fun _ m _ => ⟨1, fun _ _ => rfl⟩

theorem atomic_onBroker {α : Type} (call : Broker → Broker × α × List Notice) :
    Atomic (onBroker call) fun m =>
      ({ world := { m.world with broker := (call m.world.broker).1 },
         tasking := (call m.world.broker).2.2.foldl noticed m.tasking }, (call m.world.broker).2.1) :=
  (Atomic.bind (Atomic.update _) fun _ => Atomic.bind (atomic_announce _) fun _ =>
    Atomic.bind Atomic.yieldNow fun _ => Atomic.pure _).congr fun _ => rfl

end Prog

namespace Metrics

/-- The count of a series, none counting as zero. -/
def count (m : Metrics) (meter : Meter) (labels : List String) : Nat :=
  ((m.series.find? fun s => s.meter = meter && s.labels == labels).map (·.count)).getD 0

/-- How many deliveries of a subscription ended with an outcome. -/
def deliveries (m : Metrics) (subscription : String) (outcome : DeliveryOutcome) : Nat :=
  m.count .deliveries [outcome.label, subscription]

/-- Adding to a series adds to its count and to no other. -/
theorem count_add (m : Metrics) (meter meter' : Meter) (labels labels' : List String) (amount : Nat) :
    (m.add meter labels amount).count meter' labels' =
      m.count meter' labels' + if meter' = meter ∧ labels' = labels then amount else 0 := by
  unfold add count
  split
  · rename_i present
    rw [List.find?_map]
    have keeps : ((fun s : Series => s.meter = meter' && s.labels == labels') ∘ fun s =>
        if s.meter = meter && s.labels == labels then { s with count := s.count + amount } else s) =
        fun s => s.meter = meter' && s.labels == labels' := by
      funext s
      simp only [Function.comp]
      split <;> rfl
    rw [keeps, Option.map_map]
    by_cases same : meter' = meter ∧ labels' = labels
    · obtain ⟨rfl, rfl⟩ := same
      obtain ⟨s, found⟩ := Option.isSome_iff_exists.1 (List.find?_isSome.2 (List.any_eq_true.1 present))
      have hit : s.meter = meter' ∧ s.labels = labels' := by simpa using List.find?_some found
      simp [found, hit]
    · rw [if_neg same, Nat.add_zero]
      cases found : m.series.find? (fun s => s.meter = meter' && s.labels == labels') with
      | none => rfl
      | some s =>
        have hit : s.meter = meter' ∧ s.labels = labels' := by simpa using List.find?_some found
        have other : ¬(s.meter = meter ∧ s.labels = labels) := fun both =>
          same ⟨hit.1.symm.trans both.1, hit.2.symm.trans both.2⟩
        simp [other]
  · rename_i absent
    simp only [List.find?_append]
    by_cases same : meter' = meter ∧ labels' = labels
    · obtain ⟨rfl, rfl⟩ := same
      have none : m.series.find? (fun s => s.meter = meter' && s.labels == labels') = none :=
        List.find?_eq_none.2 fun s member hit => absent (List.any_eq_true.2 ⟨s, member, hit⟩)
      simp [none]
    · have other : (decide (meter = meter') && labels == labels') = false := by
        cases both : (decide (meter = meter') && labels == labels')
        · rfl
        · simp only [Bool.and_eq_true, decide_eq_true_eq, beq_iff_eq] at both
          exact absurd ⟨both.1.symm, both.2.symm⟩ same
      simp [other, same]

theorem label_injective : Function.Injective DeliveryOutcome.label := by
  intro a b same
  cases a <;> cases b <;> simp_all [DeliveryOutcome.label]

@[simp] theorem deliveries_noteDelivery (m : Metrics) (s s' : String) (o o' : DeliveryOutcome) :
    (m.noteDelivery s o).deliveries s' o' = m.deliveries s' o' + if s' = s ∧ o' = o then 1 else 0 := by
  rw [deliveries, noteDelivery, bump, count_add]
  congr 1
  by_cases both : s' = s ∧ o' = o
  · obtain ⟨rfl, rfl⟩ := both
    simp
  · have labels : ¬[o'.label, s'] = [o.label, s] := fun same =>
      both ⟨(List.cons.inj (List.cons.inj same).2).1, label_injective (List.cons.inj same).1⟩
    simp [both, labels]

@[simp] theorem deliveries_deliveryEntered (m : Metrics) (s : String) (o : DeliveryOutcome) :
    m.deliveryEntered.deliveries s o = m.deliveries s o := rfl

@[simp] theorem deliveries_deliveryLeft (m : Metrics) (s : String) (o : DeliveryOutcome) :
    m.deliveryLeft.deliveries s o = m.deliveries s o := rfl

@[simp] theorem deliveries_handlerStarted (m : Metrics) (s s' : String) (o : DeliveryOutcome) :
    (m.handlerStarted s).deliveries s' o = m.deliveries s' o := by
  simp [deliveries, handlerStarted, touch, count_add]

@[simp] theorem deliveries_handlerEnded (m : Metrics) (s s' : String) (o : DeliveryOutcome) :
    (m.handlerEnded s).deliveries s' o = m.deliveries s' o := by
  simp [deliveries, handlerEnded, bump, count_add]

/-- Between two metrics, some deliveries of one subscription were counted under
one outcome, and no other delivery was counted. -/
def Counted (before after : Metrics) (s : String) (outcome : DeliveryOutcome) (amount : Nat) : Prop :=
  ∀ s' o, after.deliveries s' o = before.deliveries s' o + if s' = s ∧ o = outcome then amount else 0

end Metrics

end Courier
