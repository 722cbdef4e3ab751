import Courier.Tasks.Scheduler

namespace Courier

/-! Stretches of a task that run without waiting.

A task runs its future until it waits or ends. Between two waits, the steps it
takes are computed from the machine alone, whatever the other tasks do, and the
scheduler cannot cut in. These are the atomic stretches of a program: the facts
below say where a stretch leads, so that a program is followed one stretch at a
time instead of one scheduler step at a time. -/

namespace Fut

variable {Job World : Type}

/-- Driving a future from a machine, with jobs that start as `start` says,
passes without waiting through another machine with another future left to run. -/
def Passes (start : Job → Fut Job World) (m : Machine Job World) (f : Fut Job World)
    (m' : Machine Job World) (f' : Fut Job World) : Prop :=
  ∃ n, ∀ task fuel, Run.drive start task (fuel + n) m f = Run.drive start task fuel m' f'

/-- Driving a future from a machine ends its task, crashed or not, on another machine. -/
def Ends (start : Job → Fut Job World) (m : Machine Job World) (f : Fut Job World)
    (m' : Machine Job World) (crashed : Bool) : Prop :=
  ∃ n, ∀ task fuel, Run.drive start task (fuel + n) m f = (m', .ended crashed)

namespace Passes

variable {start : Job → Fut Job World}

theorem refl (m : Machine Job World) (f : Fut Job World) : Passes start m f m f := ⟨0, fun _ _ => rfl⟩

theorem trans {m₁ m₂ m₃ : Machine Job World} {f₁ f₂ f₃ : Fut Job World}
    (first : Passes start m₁ f₁ m₂ f₂) (second : Passes start m₂ f₂ m₃ f₃) : Passes start m₁ f₁ m₃ f₃ := by
  obtain ⟨n₁, runs₁⟩ := first
  obtain ⟨n₂, runs₂⟩ := second
  refine ⟨n₂ + n₁, fun task fuel => ?_⟩
  rw [← Nat.add_assoc, runs₁, runs₂]

theorem step (m : Machine Job World) (run : Machine Job World → Machine Job World × Fut Job World) :
    Passes start m (.step run) (run m).1 (run m).2 := ⟨1, fun _ _ => rfl⟩

theorem block {m m' : Machine Job World} {f : Fut Job World}
    {poll : Machine Job World → Option (Machine Job World × Fut Job World)} (keys : List Key)
    (ready : poll m = some (m', f)) : Passes start m (.block poll keys) m' f :=
  ⟨1, fun task fuel => by simp only [Run.drive, ready]⟩

/-- A task that goes on as a fresh run of a job goes on at once. -/
theorem again (m : Machine Job World) (job : Job) : Passes start m (.again job) m (start job) :=
  ⟨1, fun _ _ => rfl⟩

/-- Passing first through a machine and then on to a machine of a kind is passing
to a machine of that kind. -/
theorem then_ {m₁ m₂ : Machine Job World} {f₁ f₂ f₃ : Fut Job World} {P : Machine Job World → Prop}
    (first : Passes start m₁ f₁ m₂ f₂) (rest : ∃ m₃, Passes start m₂ f₂ m₃ f₃ ∧ P m₃) :
    ∃ m₃, Passes start m₁ f₁ m₃ f₃ ∧ P m₃ := by
  obtain ⟨m₃, second, holds⟩ := rest
  exact ⟨m₃, first.trans second, holds⟩

theorem trans_ends {m₁ m₂ m₃ : Machine Job World} {f₁ f₂ : Fut Job World} {crashed : Bool}
    (first : Passes start m₁ f₁ m₂ f₂) (second : Ends start m₂ f₂ m₃ crashed) : Ends start m₁ f₁ m₃ crashed := by
  obtain ⟨n₁, runs₁⟩ := first
  obtain ⟨n₂, runs₂⟩ := second
  refine ⟨n₂ + n₁, fun task fuel => ?_⟩
  rw [← Nat.add_assoc, runs₁, runs₂]

theorem ends {m m' : Machine Job World} {f : Fut Job World} (passes : Passes start m f m' .done) :
    Ends start m f m' false := by
  obtain ⟨n, runs⟩ := passes
  refine ⟨n + 1, fun task fuel => ?_⟩
  rw [show fuel + (n + 1) = fuel + 1 + n by omega, runs]
  rfl

theorem crashes {m m' : Machine Job World} {f : Fut Job World} (passes : Passes start m f m' .crash) :
    Ends start m f m' true := by
  obtain ⟨n, runs⟩ := passes
  refine ⟨n + 1, fun task fuel => ?_⟩
  rw [show fuel + (n + 1) = fuel + 1 + n by omega, runs]
  rfl

end Passes

end Fut

namespace Async

variable {Job World α β : Type}

/-- A program that runs without waiting: from any machine, whatever its jobs,
its task passes to the rest of the task, handed the value `effect` gives, on the
machine `effect` gives. -/
def Atomic (p : Async Job World α) (effect : Machine Job World → Machine Job World × α) : Prop :=
  ∀ start m (k : α → Fut Job World), Fut.Passes start m (p k) (effect m).1 (k (effect m).2)

/-- A wait whose condition already holds goes on at once with the value the condition gives. -/
theorem await_ready {start : Job → Fut Job World} {poll : Machine Job World → Option (Machine Job World × α)}
    (keys : List Key) {m m' : Machine Job World} {a : α} (ready : poll m = some (m', a)) (k : α → Fut Job World) :
    Fut.Passes start m (Async.await poll keys k) m' (k a) :=
  Fut.Passes.block keys (by simp only [ready, Option.map_some])

namespace Atomic

theorem pure (a : α) : Atomic (Pure.pure a : Async Job World α) fun m => (m, a) :=
  fun _ m k => Fut.Passes.refl m (k a)

theorem update (f : Machine Job World → Machine Job World × α) : Atomic (Async.update f) f :=
  fun _ m _ => Fut.Passes.step m _

/-- A yield is passed at once when the task runs alone. -/
theorem yieldNow : Atomic (Async.yieldNow : Async Job World Unit) fun m => (m, ()) :=
  fun _ _ _ => await_ready [] rfl _

theorem bind {p : Async Job World α} {q : α → Async Job World β}
    {first : Machine Job World → Machine Job World × α}
    {second : α → Machine Job World → Machine Job World × β}
    (before : Atomic p first) (after : ∀ a, Atomic (q a) (second a)) :
    Atomic (p >>= q) fun m => second (first m).2 (first m).1 :=
  fun start m k => (before start m fun a => q a k).trans (after _ start _ k)

theorem congr {p : Async Job World α} {effect effect' : Machine Job World → Machine Job World × α}
    (atomic : Atomic p effect) (same : ∀ m, effect m = effect' m) : Atomic p effect' := by
  intro start m k
  rw [← same]
  exact atomic start m k

/-- An atomic program followed by more: its task passes on to the rest. -/
theorem bind_passes {start : Job → Fut Job World} {p : Async Job World α}
    {effect : Machine Job World → Machine Job World × α}
    (atomic : Atomic p effect) (g : α → Async Job World β) (k : β → Fut Job World) (m : Machine Job World) :
    Fut.Passes start m ((p >>= g) k) (effect m).1 (g (effect m).2 k) :=
  atomic start m fun a => g a k

theorem forM {γ : Type} {f : γ → Async Job World Unit} {effect : Machine Job World → γ → Machine Job World}
    (each : ∀ c, Atomic (f c) fun m => (effect m c, ())) (items : List γ) :
    Atomic (items.forM f) fun m => (items.foldl effect m, ()) := by
  induction items with
  | nil => exact pure ()
  | cons c rest induction => exact (bind (each c) fun _ => induction).congr fun m => rfl

end Atomic

end Async

end Courier
