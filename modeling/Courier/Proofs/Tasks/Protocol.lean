import Courier.Proofs.Tasks.Atomic
import Mathlib.Algebra.Order.PUnit

namespace Courier

/-! # Tasks that keep a protocol, under any interleaving

Tasks share one world. A protocol says what they agree on: an invariant of the
world, read together with the sum of the ghost shares the tasks hold, and a
relation that every step of every task keeps. A task is safe for a protocol
when each stretch it runs between two waits takes the invariant, with its own
share and whatever the others hold, to the invariant again, possibly with a new
share of its own; when each of its steps keeps the relation and the task's own
guarantee; and when after each wait it goes on safely from every machine the
others may have made meanwhile: one related to the machine it waited on, on
which the invariant holds with its share.

Triples give programs the same meaning. Between two waits nothing else runs, so
the assertions of a triple may say exactly what the world is; across a wait
they keep only what the invariant and the relation say. -/

/-- What the tasks of a system agree on. -/
structure Protocol (World Γ : Type) [AddCommMonoid Γ] where
  /-- The invariant, read with the sum of every task's share. -/
  inv : World → Γ → Prop
  /-- What the steps of the other tasks keep. -/
  rely : World → World → Prop
  rely_refl : ∀ w, rely w w
  rely_trans : ∀ {w₁ w₂ w₃}, rely w₁ w₂ → rely w₂ w₃ → rely w₁ w₃

namespace Protocol

variable {Job World Γ α β : Type} [AddCommMonoid Γ] (π : Protocol World Γ)

/-- Moving one task's share from `g` to `g'` while the world moves from `w` to
`w'` keeps the invariant, whatever the other tasks hold. -/
def Update (g : Γ) (w : World) (g' : Γ) (w' : World) : Prop :=
  ∀ frame, π.inv w (g + frame) → π.inv w' (g' + frame)

theorem Update.refl (g : Γ) (w : World) : π.Update g w g w := fun _ holds => holds

theorem Update.trans {g₁ g₂ g₃ : Γ} {w₁ w₂ w₃ : World} (first : π.Update g₁ w₁ g₂ w₂)
    (second : π.Update g₂ w₂ g₃ w₃) : π.Update g₁ w₁ g₃ w₃ :=
  fun frame holds => second frame (first frame holds)

/-- A step of a task of guarantee `G`: it leaves the world alone, or changes it
as its guarantee allows. -/
def Allows (G : World → World → Prop) (w w' : World) : Prop := w' = w ∨ G w w'

theorem Allows.refl (G : World → World → Prop) (w : World) : Allows G w w := .inl rfl

theorem Allows.mono {G G' : World → World → Prop} (sub : ∀ w w', G w w' → G' w w') {w w' : World}
    (allowed : Allows G w w') : Allows G' w w' :=
  allowed.imp id (sub w w')

/-- The step of a task whose guarantee the others rely on is one they rely on. -/
theorem Allows.rely {G : World → World → Prop} (others : ∀ w w', G w w' → π.rely w w')
    {w w' : World} (allowed : Allows G w w') : π.rely w w' := by
  rcases allowed with same | changed
  · exact same ▸ π.rely_refl w
  · exact others w w' changed

/-- A task of guarantee `G` that holds share `g`, whose current stretch began on
world `w₀`, now at machine `m` with future `f`, is safe: every step keeps the
relation and the guarantee, every stretch keeps the invariant, and after a wait
the task is safe from every machine the others may have made. -/
inductive Safe (G : World → World → Prop) : Γ → World → Machine Job World → Fut Job World → Prop
  | done {g : Γ} {w₀ : World} {m : Machine Job World} (g' : Γ) :
      π.Update g w₀ g' m.world → Safe G g w₀ m .done
  | crash {g : Γ} {w₀ : World} {m : Machine Job World} (g' : Γ) :
      π.Update g w₀ g' m.world → Safe G g w₀ m .crash
  /-- A fresh run of a job takes over with no share; the one held is given up. -/
  | again {g : Γ} {w₀ : World} {m : Machine Job World} {job : Job} (g' : Γ) :
      π.Update g w₀ g' m.world → Safe G g w₀ m (.again job)
  | step {g : Γ} {w₀ : World} {m : Machine Job World}
      {run : Machine Job World → Machine Job World × Fut Job World} :
      Allows G m.world (run m).1.world → Safe G g w₀ (run m).1 (run m).2 →
      Safe G g w₀ m (.step run)
  | block {g : Γ} {w₀ : World} {m : Machine Job World}
      {poll : Machine Job World → Option (Machine Job World × Fut Job World)} {keys : List Key}
      (g' : Γ) : π.Update g w₀ g' m.world →
      (∀ m₁ frame, π.rely m.world m₁.world → π.inv m₁.world (g' + frame) →
        ∀ m₂ f, poll m₁ = some (m₂, f) → Allows G m₁.world m₂.world) →
      (∀ m₁ frame, π.rely m.world m₁.world → π.inv m₁.world (g' + frame) →
        ∀ m₂ f, poll m₁ = some (m₂, f) → Safe G g' m₁.world m₂ f) →
      Safe G g w₀ m (.block poll keys)

/-- A task safe for a guarantee is safe for every larger one. -/
theorem Safe.mono {G G' : World → World → Prop} (sub : ∀ w w', G w w' → G' w w') {g : Γ} {w₀ : World}
    {m : Machine Job World} {f : Fut Job World} (safe : π.Safe G g w₀ m f) : π.Safe G' g w₀ m f := by
  induction safe with
  | done g' kept => exact .done g' kept
  | crash g' kept => exact .crash g' kept
  | again g' kept => exact .again g' kept
  | step allowed _ induction => exact .step (allowed.mono sub) induction
  | block g' kept allowed _ induction =>
    exact .block g' kept (fun m₁ frame related valid m₂ f polled =>
      (allowed m₁ frame related valid m₂ f polled).mono sub) induction

/-- A task that waits with share `g` since world `w` goes on safely from every
machine the others may have made meanwhile: one related to `w` on which the
invariant holds with its share. -/
def Resumable (G : World → World → Prop) (g : Γ) (w : World) (f : Fut Job World) : Prop :=
  ∀ m frame, π.rely w m.world → π.inv m.world (g + frame) → π.Safe G g m.world m f

/-- A task at a wait has kept the invariant over its stretch, and may be resumed
with its new share from every machine related to the one it waits on. -/
theorem Safe.resumable {G : World → World → Prop} {g : Γ} {w₀ : World} {m : Machine Job World}
    {poll : Machine Job World → Option (Machine Job World × Fut Job World)} {keys : List Key}
    (safe : π.Safe G g w₀ m (.block poll keys)) :
    ∃ g', π.Update g w₀ g' m.world ∧ π.Resumable G g' m.world (.block poll keys) := by
  cases safe with
  | block g' kept allowed rest =>
    refine ⟨g', kept, fun m₁ frame related _ => ?_⟩
    refine .block g' (Update.refl π g' m₁.world) (fun m₂ frame' later valid => ?_)
      (fun m₂ frame' later valid => ?_)
    · exact allowed m₂ frame' (π.rely_trans related later) valid
    · exact rest m₂ frame' (π.rely_trans related later) valid

section Lift

variable {ρ : Protocol World Unit} {G : World → World → Prop}

/-- A task's steps that keep the invariant with any shares keep its share's
part of it. -/
theorem Update.of_allows (keeps : ∀ w w', G w w' → ∀ γ, π.inv w γ → π.inv w' γ) (g : Γ)
    {w w' : World} (allowed : Allows G w w') : π.Update g w g w' := by
  rcases allowed with same | changed
  · exact same ▸ Update.refl π g w
  · exact fun frame holds => keeps w w' changed _ holds

/-- A task safe among tasks that share no ghost state is safe, holding its share
throughout, among tasks that keep a stronger relation, under an invariant its
own steps keep whatever the shares. -/
theorem Safe.lift (rely : ∀ w w', π.rely w w' → ρ.rely w w') (holds : ∀ w γ, π.inv w γ → ρ.inv w ())
    (keeps : ∀ w w', G w w' → ∀ γ, π.inv w γ → π.inv w' γ) {w₀ : World} {m : Machine Job World}
    {f : Fut Job World} {u : Unit} (safe : ρ.Safe G u w₀ m f) {g : Γ} {w₁ : World}
    (kept : π.Update g w₁ g m.world) : π.Safe G g w₁ m f := by
  induction safe generalizing w₁ with
  | done => exact .done g kept
  | crash => exact .crash g kept
  | again => exact .again g kept
  | step allowed _ induction =>
    exact .step allowed (induction (Update.trans π kept (Update.of_allows π keeps g allowed)))
  | block _ _ allowed _ induction =>
    -- after the wait the task goes on from every machine the stronger relation allows
    refine .block g kept (fun m₁ frame related valid m₂ f polled => ?_)
      (fun m₁ frame related valid m₂ f polled => ?_)
    · exact allowed m₁ () (rely _ _ related) (holds _ _ valid) m₂ f polled
    · exact induction m₁ () (rely _ _ related) (holds _ _ valid) m₂ f polled
        (Update.of_allows π keeps g (allowed m₁ () (rely _ _ related) (holds _ _ valid) m₂ f polled))

end Lift

/-- The assertion of a task that may end its current stretch holding `g'`, on a
world where `P` holds: its stretch began where the invariant held with its
share and the others', and that share may be given up for `g'` on the world as
it is now. -/
structure Holding (g' : Γ) (P : World → Prop) (g : Γ) (w₀ : World) (m : Machine Job World) : Prop where
  update : π.Update g w₀ g' m.world
  valid : ∃ frame, π.inv w₀ (g + frame)
  holds : P m.world

/-- Where a task holds `g'`, the invariant holds with `g'` and the others'
shares, were its stretch to end now. -/
theorem Holding.inv {g' g : Γ} {P : World → Prop} {w₀ : World} {m : Machine Job World}
    (holding : π.Holding g' P g w₀ m) : ∃ frame, π.inv m.world (g' + frame) := by
  obtain ⟨frame, valid⟩ := holding.valid
  exact ⟨frame, holding.update frame valid⟩

/-- A program specified by an assertion before it and one after it, for a task
of guarantee `G`: started where `P` holds, the task goes on safely with every
rest that is safe wherever `Q` holds. Assertions read the task's share, the
world its stretch began on and the machine now. -/
def Triple (G : World → World → Prop) (P : Γ → World → Machine Job World → Prop)
    (p : Async Job World α) (Q : α → Γ → World → Machine Job World → Prop) : Prop :=
  ∀ g w₀ m (k : α → Fut Job World), P g w₀ m →
    (∀ a g' w₀' m', Q a g' w₀' m' → π.Safe G g' w₀' m' (k a)) → π.Safe G g w₀ m (p k)

namespace Triple

variable {π} {G : World → World → Prop} {P P' : Γ → World → Machine Job World → Prop}
  {Q Q' : α → Γ → World → Machine Job World → Prop}

theorem conseq {p : Async Job World α} (triple : π.Triple G P p Q)
    (before : ∀ g w₀ m, P' g w₀ m → P g w₀ m) (after : ∀ a g w₀ m, Q a g w₀ m → Q' a g w₀ m) :
    π.Triple G P' p Q' :=
  fun g w₀ m k holds rest => triple g w₀ m k (before g w₀ m holds) fun a g' w₀' m' done =>
    rest a g' w₀' m' (after a g' w₀' m' done)

/-- A specification may be proved for each state the program starts in. -/
theorem of_pre {p : Async Job World α}
    (each : ∀ g w₀ m, P g w₀ m → π.Triple G (fun g' w₀' m' => g' = g ∧ w₀' = w₀ ∧ m' = m) p Q) :
    π.Triple G P p Q :=
  fun g w₀ m k holds rest => each g w₀ m holds g w₀ m k ⟨rfl, rfl, rfl⟩ rest

theorem ret (a : α) : π.Triple G (Q a) (pure a : Async Job World α) Q :=
  fun g w₀ m _ holds rest => rest a g w₀ m holds

theorem bind {S : β → Γ → World → Machine Job World → Prop} {p : Async Job World α}
    {f : α → Async Job World β} (first : π.Triple G P p Q) (next : ∀ a, π.Triple G (Q a) (f a) S) :
    π.Triple G P (p >>= f) S :=
  fun g w₀ m k holds rest =>
    first g w₀ m (fun a => f a k) holds fun a g' w₀' m' done => next a g' w₀' m' k done rest

/-- A step that changes the machine: it must be a step the task may take, and
the assertion after it must hold of the machine it leaves. -/
theorem update (f : Machine Job World → Machine Job World × α)
    (step : ∀ g w₀ m, P g w₀ m → Allows G m.world (f m).1.world ∧ Q (f m).2 g w₀ (f m).1) :
    π.Triple G P (Async.update f) Q := by
  intro g w₀ m k holds rest
  obtain ⟨allowed, done⟩ := step g w₀ m holds
  exact .step allowed (rest _ _ _ _ done)

/-- A future waits on a poll with the rest of its task folded into the answer: what
it wakes with is the poll's answer, with the rest to run on it. -/
theorem answer_of_folded {γ : Type} {answer : Option (β × α)} {k : α → γ} {m : β} {f : γ}
    (folded : answer.map (fun (m', a) => (m', k a)) = some (m, f)) : ∃ a, answer = some (m, a) ∧ f = k a := by
  cases answer with
  | none => simp at folded
  | some result =>
    obtain ⟨m', a⟩ := result
    simp only [Option.map_some, Option.some.injEq, Prod.mk.injEq] at folded
    exact ⟨a, by rw [folded.1], folded.2.symm⟩

/-- A wait: the stretch up to it must keep the invariant, and the assertion after
it must hold on every machine the others may have made on which the wait ends. -/
theorem await {poll : Machine Job World → Option (Machine Job World × α)} (keys : List Key)
    (wait : ∀ g w₀ m, P g w₀ m → ∃ g', π.Update g w₀ g' m.world ∧
      ∀ m₁ frame, π.rely m.world m₁.world → π.inv m₁.world (g' + frame) →
        ∀ m₂ a, poll m₁ = some (m₂, a) → Allows G m₁.world m₂.world ∧ Q a g' m₁.world m₂) :
    π.Triple G P (Async.await poll keys) Q := by
  intro g w₀ m k holds rest
  obtain ⟨g', kept, ready⟩ := wait g w₀ m holds
  refine .block g' kept (fun m₁ frame related valid m₂ f polled => ?_)
    (fun m₁ frame related valid m₂ f polled => ?_)
  · obtain ⟨a, answered, -⟩ := answer_of_folded polled
    exact (ready m₁ frame related valid m₂ a answered).1
  · obtain ⟨a, answered, rfl⟩ := answer_of_folded polled
    exact rest _ _ _ _ (ready m₁ frame related valid m₂ a answered).2

theorem crash (ends : ∀ g w₀ m, P g w₀ m → ∃ g', π.Update g w₀ g' m.world) :
    π.Triple G P (Async.crash : Async Job World α) Q := by
  intro g w₀ m _ holds _
  obtain ⟨g', kept⟩ := ends g w₀ m holds
  exact .crash g' kept

/-- Going on as a fresh run of a job ends the program as a crash does: what the
task holds may be given up. -/
theorem again (job : Job) (ends : ∀ g w₀ m, P g w₀ m → ∃ g', π.Update g w₀ g' m.world) :
    π.Triple G P (Async.again job : Async Job World α) Q := by
  intro g w₀ m _ holds _
  obtain ⟨g', kept⟩ := ends g w₀ m holds
  exact .again g' kept

/-- Programs run one after another for each item of a list, with an assertion
that holds between them. -/
theorem forM {γ : Type} {I : List γ → Γ → World → Machine Job World → Prop}
    {f : γ → Async Job World Unit} (items : List γ)
    (each : ∀ c rest, π.Triple G (I (c :: rest)) (f c) fun _ => I rest) :
    π.Triple G (I items) (items.forM f) fun _ => I [] := by
  induction items with
  | nil => exact ret (π := π) (Q := fun _ => I []) ()
  | cons c rest induction => exact bind (each c rest) fun _ => induction

/-- A fold whose steps are specified, with an assertion on the items left and the
accumulated value. -/
theorem foldlM {γ : Type} {I : List γ → β → Γ → World → Machine Job World → Prop}
    {f : β → γ → Async Job World β} (items : List γ) (init : β)
    (each : ∀ acc c rest, π.Triple G (I (c :: rest) acc) (f acc c) fun acc' => I rest acc') :
    π.Triple G (I items init) (items.foldlM f init) fun acc => I [] acc := by
  induction items generalizing init with
  | nil => exact ret (π := π) (Q := fun acc => I [] acc) init
  | cons c rest induction => exact bind (each init c rest) fun acc => induction acc

/-- A fact of the world a task holds its share on may be assumed for the rest. -/
theorem assume_holding {g : Γ} {c : Prop} {A : World → Prop} {p : Async Job World α}
    (triple : c → π.Triple G (π.Holding g A) p Q) : π.Triple G (π.Holding g fun w => c ∧ A w) p Q :=
  of_pre fun _ _ _ holds => (triple holds.holds.1).conseq
    (fun _ _ _ same => by
      obtain ⟨rfl, rfl, rfl⟩ := same
      exact ⟨holds.update, holds.valid, holds.holds.2⟩)
    fun _ _ _ _ done => done

/-- A step that moves the task's share from `g` to `g' a`, for the answer `a`
it gives: one the task may take, from a world on which the invariant holds with
`g`, after which `g' a` may be held in place of `g`. -/
theorem hand {g : Γ} {g' : α → Γ} {A : World → Prop} {B : α → World → Prop}
    (f : Machine Job World → Machine Job World × α)
    (step : ∀ m : Machine Job World, A m.world → (∃ frame, π.inv m.world (g + frame)) →
      Allows G m.world (f m).1.world ∧ π.Update g m.world (g' (f m).2) (f m).1.world ∧ B (f m).2 (f m).1.world) :
    π.Triple G (π.Holding g A) (Async.update f) fun a => π.Holding (g' a) (B a) :=
  update f fun _ _ m holds => by
    obtain ⟨allowed, moved, done⟩ := step m holds.holds holds.inv
    exact ⟨allowed, Update.trans π holds.update moved, holds.valid, done⟩

/-- A share may be exchanged for another without a step, where the invariant
allows the exchange on the world as it is; what the invariant says of that world
may be assumed with it. -/
theorem give {g : Γ} (g' : Γ) {A : World → Prop} (A' : World → Prop) {p : Async Job World α}
    (moved : ∀ w, A w → (∃ frame, π.inv w (g + frame)) → π.Update g w g' w ∧ A' w)
    (triple : π.Triple G (π.Holding g' A') p Q) : π.Triple G (π.Holding g A) p Q :=
  of_pre fun _ _ _ holds => triple.conseq
    (fun _ _ _ same => by
      obtain ⟨rfl, rfl, rfl⟩ := same
      obtain ⟨exchanged, holds'⟩ := moved _ holds.holds holds.inv
      exact ⟨Update.trans π holds.update exchanged, holds.valid, holds'⟩)
    fun _ _ _ _ done => done

/-- A program may be specified for each world its task holds its share on. -/
theorem of_world {g : Γ} {A : World → Prop} {p : Async Job World α}
    (each : ∀ w, A w → π.Triple G (π.Holding g fun w' => w' = w ∧ A w') p Q) : π.Triple G (π.Holding g A) p Q :=
  of_pre fun _ _ m holds => (each m.world holds.holds).conseq
    (fun _ _ _ same => by
      obtain ⟨rfl, rfl, rfl⟩ := same
      exact ⟨holds.update, holds.valid, rfl, holds.holds⟩)
    fun _ _ _ _ done => done

/-- A program specified from each of several starting assertions is specified
from any of them. -/
theorem exists_pre {ι : Type} {P : ι → Γ → World → Machine Job World → Prop} {p : Async Job World α}
    (each : ∀ i, π.Triple G (P i) p Q) : π.Triple G (fun g w₀ m => ∃ i, P i g w₀ m) p Q :=
  fun g w₀ m k holds rest => by
    obtain ⟨i, holds⟩ := holds
    exact each i g w₀ m k holds rest

/-- A program that ends holding the share it began with is safe, run to its end
as a task, from a machine on which the invariant holds with that share. -/
theorem safe_holding {g : Γ} {A : World → Prop} {B : α → World → Prop} {p : Async Job World α}
    (triple : π.Triple G (π.Holding g A) p fun a => π.Holding g (B a)) {m : Machine Job World}
    (valid : ∃ frame, π.inv m.world (g + frame)) (holds : A m.world) : π.Safe G g m.world m (p fun _ => .done) :=
  triple g m.world m _ ⟨Update.refl π g m.world, valid, holds⟩ fun _ _ _ _ done => .done g done.update

end Triple

end Protocol

end Courier
