import Courier.Proofs.Tasks.Protocol
import Mathlib.Algebra.BigOperators.Group.List.Basic

namespace Courier

/-! # Tasks side by side, in any order

A pool holds the tasks that share a machine. Any task may move, in any order,
under one rule: a task that has begun a stretch keeps the machine until it
waits or ends, as a task does under the scheduler. Between stretches the
bookkeeping of tasks may change in any way, except that nothing but a task
starts a job; the jobs that tasks start join the pool.

These are all the interleavings the scheduler may choose, and more. If each
task is safe for a protocol and every job is safe when it starts, every move of
every task keeps the protocol's relation and guarantee, and whenever no task is
inside a stretch the invariant holds with the shares of all tasks, those that
have ended included. -/

structure Pool (Job World : Type) where
  machine : Machine Job World
  tasks : List (Fut Job World)
  /-- The task inside a stretch, by position: only it moves until it waits or ends. -/
  inside : Option Nat

namespace Pool

variable {Job World Γ : Type}

/-- Whether the task at a position may move. -/
def Free (p : Pool Job World) (i : Nat) : Prop := p.inside = none ∨ p.inside = some i

/-- One move of a pool whose jobs start as `start` says. -/
inductive Step (start : Job → Fut Job World) : Pool Job World → Pool Job World → Prop
  /-- A task changes the machine. -/
  | step {p : Pool Job World} {i : Nat}
      {run : Machine Job World → Machine Job World × Fut Job World} :
      p.tasks[i]? = some (.step run) → p.Free i →
      Step start p ⟨(run p.machine).1, p.tasks.set i (run p.machine).2, some i⟩
  /-- A task whose wait is over goes on. -/
  | ready {p : Pool Job World} {i : Nat}
      {poll : Machine Job World → Option (Machine Job World × Fut Job World)} {keys : List Key}
      {m : Machine Job World} {f : Fut Job World} :
      p.tasks[i]? = some (.block poll keys) → p.Free i → poll p.machine = some (m, f) →
      Step start p ⟨m, p.tasks.set i f, some i⟩
  /-- The task inside a stretch waits, and lets the others move. -/
  | pause {p : Pool Job World} {i : Nat}
      {poll : Machine Job World → Option (Machine Job World × Fut Job World)} {keys : List Key} :
      p.inside = some i → p.tasks[i]? = some (.block poll keys) →
      Step start p { p with inside := none }
  /-- A task that has ended, or crashed, leaves the pool. -/
  | finish {p : Pool Job World} {i : Nat} {f : Fut Job World} :
      p.tasks[i]? = some f → (f = .done ∨ f = .crash) → p.Free i →
      Step start p { p with tasks := p.tasks.eraseIdx i, inside := none }
  /-- A task that goes on as a fresh run of a job starts it over, and lets the
  others move first. -/
  | again {p : Pool Job World} {i : Nat} {job : Job} :
      p.tasks[i]? = some (.again job) → p.Free i →
      Step start p { p with tasks := p.tasks.set i (start job), inside := none }
  /-- The jobs started so far join the pool. -/
  | adopt {p : Pool Job World} : p.inside = none →
      Step start p ⟨{ p.machine with tasking := { p.machine.tasking with started := [] } },
        p.tasks ++ p.machine.tasking.started.map (fun started => start started.2), none⟩
  /-- The bookkeeping of tasks changes: the clock, the timers, who waits on what. -/
  | tick {p : Pool Job World} {t : Tasking Job} : p.inside = none →
      t.started = p.machine.tasking.started →
      Step start p { p with machine := { p.machine with tasking := t } }

/-- What the proof keeps of a task: its share of the ghost state, and the world
it waits since, or whose stretch it is inside. -/
structure Account (World Γ : Type) where
  share : Γ
  since : World

variable [AddCommMonoid Γ]

/-- The shares of the tasks of a pool, with those of the tasks that have ended. -/
def total (accounts : List (Account World Γ)) (ended : Γ) : Γ :=
  (accounts.map (·.share)).sum + ended

theorem total_eq_add {accounts : List (Account World Γ)} {i : Nat} {a : Account World Γ}
    (found : accounts[i]? = some a) (ended : Γ) :
    total accounts ended = a.share + total (accounts.eraseIdx i) ended := by
  obtain ⟨within, rfl⟩ := List.getElem?_eq_some_iff.mp found
  have split := List.CommMonoid.add_sum_eraseIdx (l := accounts.map (·.share))
    (i := i) (by simpa using within)
  rw [total, total, ← List.eraseIdx_map, ← split, List.getElem_map, add_assoc]

theorem total_set {accounts : List (Account World Γ)} {i : Nat} {a : Account World Γ}
    (found : accounts[i]? = some a) (a' : Account World Γ) (ended : Γ) :
    total (accounts.set i a') ended = a'.share + total (accounts.eraseIdx i) ended := by
  have found' : (accounts.set i a')[i]? = some a' := by
    rw [List.getElem?_set_self (List.getElem?_eq_some_iff.mp found).1]
  rw [total_eq_add found' ended, List.eraseIdx_set_eq]

section Adequacy

variable (π : Protocol World Γ) (G : World → World → Prop) (start : Job → Fut Job World)

/-- Every job is safe when it starts, with no share of its own, from every
machine on which the invariant holds. -/
def JobsSafe : Prop :=
  ∀ job (m : Machine Job World) frame, π.inv m.world frame → π.Safe G 0 m.world m (start job)

/-- What holds of a pool of safe tasks: each task outside a stretch may be
resumed from the machine as it is, the task inside a stretch is safe from it, and
the invariant holds with the shares of all tasks: now when no task is inside a
stretch, else at the start of that stretch. -/
structure Good (p : Pool Job World) (accounts : List (Account World Γ)) (ended : Γ) : Prop where
  length : accounts.length = p.tasks.length
  waiting : ∀ i f a, p.tasks[i]? = some f → accounts[i]? = some a → p.inside ≠ some i →
    π.rely a.since p.machine.world ∧ π.Resumable G a.share a.since f
  idle : p.inside = none → π.inv p.machine.world (total accounts ended)
  running : ∀ i, p.inside = some i → ∃ f a, p.tasks[i]? = some f ∧ accounts[i]? = some a ∧
    π.Safe G a.share a.since p.machine f ∧ π.inv a.since (total accounts ended)

variable {π G start}
variable {p : Pool Job World} {accounts : List (Account World Γ)} {ended : Γ}

theorem Good.account (good : Good π G p accounts ended) {i : Nat} {f : Fut Job World}
    (found : p.tasks[i]? = some f) : ∃ a, accounts[i]? = some a := by
  have within : i < accounts.length := good.length ▸ (List.getElem?_eq_some_iff.mp found).1
  exact ⟨_, List.getElem?_eq_getElem within⟩

/-- A task that may move is safe from the machine as it is, from the start of
its stretch, on which the invariant holds with every share. -/
theorem Good.current (good : Good π G p accounts ended) {i : Nat} {f : Fut Job World}
    {a : Account World Γ} (free : p.Free i) (found : p.tasks[i]? = some f)
    (account : accounts[i]? = some a) :
    ∃ w₀, π.Safe G a.share w₀ p.machine f ∧ π.inv w₀ (total accounts ended) := by
  rcases free with idle | inside
  · have holds := good.idle idle
    obtain ⟨related, resumable⟩ := good.waiting i f a found account (by simp [idle])
    rw [total_eq_add account] at holds
    exact ⟨p.machine.world, resumable p.machine _ related holds, by rwa [total_eq_add account]⟩
  · obtain ⟨f', a', found', account', safe, holds⟩ := good.running i inside
    rw [found] at found'
    rw [account] at account'
    cases found'
    cases account'
    exact ⟨a.since, safe, holds⟩

/-- The tasks other than the one that moves keep what they had, over a move the
relation allows. -/
theorem Good.others (good : Good π G p accounts ended) {i : Nat} (free : p.Free i)
    {w' : World} (related : π.rely p.machine.world w') :
    ∀ j f a, j ≠ i → p.tasks[j]? = some f → accounts[j]? = some a →
      π.rely a.since w' ∧ π.Resumable G a.share a.since f := by
  intro j f a other found account
  have outside : p.inside ≠ some j := by
    rcases free with idle | inside
    · simp [idle]
    · simp [inside, Ne.symm other]
  obtain ⟨before, resumable⟩ := good.waiting j f a found account outside
  exact ⟨π.rely_trans before related, resumable⟩

/-- A pool after a task at position `i` moves into or along its stretch. -/
theorem Good.moved (good : Good π G p accounts ended) {i : Nat} (free : p.Free i)
    {a : Account World Γ} (account : accounts[i]? = some a) {m : Machine Job World}
    {f : Fut Job World} (a' : Account World Γ) (related : π.rely p.machine.world m.world)
    (safe : π.Safe G a'.share a'.since m f)
    (holds : π.inv a'.since (a'.share + total (accounts.eraseIdx i) ended)) :
    Good π G ⟨m, p.tasks.set i f, some i⟩ (accounts.set i a') ended where
  length := by simp [good.length]
  waiting := by
    intro j f' b found' account' outside
    have other : j ≠ i := fun same => outside (by simp [same])
    rw [List.getElem?_set_ne (Ne.symm other)] at found' account'
    exact good.others free related j f' b other found' account'
  idle := by simp
  running := by
    intro j inside
    obtain rfl : i = j := by simpa using inside
    have within : i < p.tasks.length := good.length ▸ (List.getElem?_eq_some_iff.mp account).1
    refine ⟨f, a', by simp [within], by simp [good.length ▸ within], safe, ?_⟩
    rwa [total_set account]

theorem Good.allows (good : Good π G p accounts ended) {p' : Pool Job World}
    (step : Step start p p') : Protocol.Allows G p.machine.world p'.machine.world := by
  cases step with
  | step found free =>
    obtain ⟨a, account⟩ := good.account found
    obtain ⟨w₀, safe, -⟩ := good.current free found account
    cases safe with
    | step allowed _ => exact allowed
  | ready found free polled =>
    obtain ⟨a, account⟩ := good.account found
    obtain ⟨w₀, safe, holds⟩ := good.current free found account
    cases safe with
    | block g' kept allowed _ =>
      rw [total_eq_add account] at holds
      exact allowed p.machine _ (π.rely_refl _) (kept _ holds) _ _ polled
  | pause => exact Protocol.Allows.refl G _
  | finish => exact Protocol.Allows.refl G _
  | again => exact Protocol.Allows.refl G _
  | adopt => exact Protocol.Allows.refl G _
  | tick => exact Protocol.Allows.refl G _

theorem Good.step (good : Good π G p accounts ended) (others : ∀ w w', G w w' → π.rely w w')
    (jobs : JobsSafe π G start) {p' : Pool Job World} (step : Step start p p') :
    ∃ accounts' ended', Good π G p' accounts' ended' := by
  cases step with
  | @step i run found free =>
    obtain ⟨a, account⟩ := good.account found
    obtain ⟨w₀, safe, holds⟩ := good.current free found account
    cases safe with
    | step allowed rest =>
      refine ⟨_, _, good.moved free account ⟨a.share, w₀⟩ (allowed.rely π others) rest ?_⟩
      rwa [total_eq_add account] at holds
  | @ready i poll keys m f found free polled =>
    obtain ⟨a, account⟩ := good.account found
    obtain ⟨w₀, safe, holds⟩ := good.current free found account
    cases safe with
    | block g' kept allowed rest =>
      rw [total_eq_add account] at holds
      have now := kept _ holds
      have related := (allowed p.machine _ (π.rely_refl _) now _ _ polled).rely π others
      refine ⟨_, _, good.moved free account ⟨g', p.machine.world⟩ related ?_ now⟩
      exact rest p.machine _ (π.rely_refl _) now _ _ polled
  | @pause i poll keys inside found =>
    obtain ⟨f, a, found', account, safe, holds⟩ := good.running i inside
    rw [found] at found'
    cases found'
    obtain ⟨g', kept, resumable⟩ := Protocol.Safe.resumable π safe
    rw [total_eq_add account] at holds
    refine ⟨accounts.set i ⟨g', p.machine.world⟩, ended, ⟨by simp [good.length], ?_, ?_, ?_⟩⟩
    · intro j f' b found'' account' _
      by_cases same : i = j
      · subst same
        rw [found] at found''
        cases found''
        rw [List.getElem?_set_self (List.getElem?_eq_some_iff.mp account).1] at account'
        cases account'
        exact ⟨π.rely_refl _, resumable⟩
      · rw [List.getElem?_set_ne same] at account'
        exact good.others (.inr inside) (π.rely_refl _) j f' b (Ne.symm same) found'' account'
    · intro _
      rw [total_set account]
      exact kept _ holds
    · intro j none
      simp at none
  | @finish i f found ends free =>
    obtain ⟨a, account⟩ := good.account found
    obtain ⟨w₀, safe, holds⟩ := good.current free found account
    -- what the task holds when it ends stays with the tasks that have ended
    have last : ∃ g', π.Update a.share w₀ g' p.machine.world := by
      rcases ends with rfl | rfl
      · cases safe with
        | done g' kept => exact ⟨g', kept⟩
      · cases safe with
        | crash g' kept => exact ⟨g', kept⟩
    obtain ⟨g', kept⟩ := last
    rw [total_eq_add account] at holds
    refine ⟨accounts.eraseIdx i, g' + ended,
      ⟨by rw [List.length_eraseIdx, List.length_eraseIdx, good.length], ?_, ?_, ?_⟩⟩
    · intro j f' b found' account' _
      rw [List.getElem?_eraseIdx] at found' account'
      split at found'
      · rw [if_pos ‹j < i›] at account'
        exact good.others free (π.rely_refl _) j f' b (by omega) found' account'
      · rw [if_neg ‹¬j < i›] at account'
        exact good.others free (π.rely_refl _) (j + 1) f' b (by omega) found' account'
    · intro _
      have now := kept _ holds
      unfold total at now ⊢
      rwa [add_left_comm] at now
    · intro j none
      simp at none
  | @again i job found free =>
    obtain ⟨a, account⟩ := good.account found
    obtain ⟨w₀, safe, holds⟩ := good.current free found account
    -- what the task held at the end of its turn stays with the tasks that have
    -- ended, and the fresh run starts with no share
    obtain ⟨g', kept⟩ : ∃ g', π.Update a.share w₀ g' p.machine.world := by
      cases safe with
      | again g' kept => exact ⟨g', kept⟩
    rw [total_eq_add account] at holds
    have within : i < p.tasks.length := (List.getElem?_eq_some_iff.mp found).1
    refine ⟨accounts.set i ⟨0, p.machine.world⟩, g' + ended, ⟨by simp [good.length], ?_, ?_, ?_⟩⟩
    · intro j f' b found' account' _
      by_cases same : i = j
      · subst same
        rw [List.getElem?_set_self within] at found'
        rw [List.getElem?_set_self (good.length ▸ within)] at account'
        cases found'
        cases account'
        refine ⟨π.rely_refl _, fun m frame _ valid => jobs job m frame ?_⟩
        rwa [zero_add] at valid
      · rw [List.getElem?_set_ne same] at found' account'
        exact good.others free (π.rely_refl _) j f' b (Ne.symm same) found' account'
    · intro _
      have now := kept _ holds
      rw [total_set account, zero_add]
      unfold total at now ⊢
      rwa [add_left_comm] at now
    · intro j none
      simp at none
  | adopt idle =>
    have holds := good.idle idle
    let joined := p.machine.tasking.started.map fun _ => (⟨0, p.machine.world⟩ : Account World Γ)
    refine ⟨accounts ++ joined, ended, ⟨by simp [joined, good.length], ?_, ?_, ?_⟩⟩
    · intro j f a found account _
      have length := good.length
      by_cases old : j < p.tasks.length
      · rw [List.getElem?_append_left old] at found
        rw [List.getElem?_append_left (by omega)] at account
        exact good.waiting j f a found account (by simp [idle])
      · rw [List.getElem?_append_right (by omega)] at found
        rw [List.getElem?_append_right (by omega)] at account
        obtain ⟨-, rfl⟩ := List.getElem?_eq_some_iff.mp found
        obtain ⟨-, rfl⟩ := List.getElem?_eq_some_iff.mp account
        simp only [List.getElem_map, joined]
        refine ⟨π.rely_refl _, fun m frame _ valid => jobs _ m frame ?_⟩
        rwa [zero_add] at valid
    · intro _
      have zero : (joined.map (·.share)).sum = 0 := by simp [joined]
      simpa [total, zero] using holds
    · intro j none
      simp at none
  | tick idle _ => exact ⟨accounts, ended, ⟨good.length, good.waiting, fun _ => good.idle idle,
      fun j inside => by simp [idle] at inside⟩⟩

/-- What holds of a good pool holds along every run of it, when the others rely
on the guarantee of every task: every move then keeps the guarantee, and the
invariant holds whenever no task is inside a stretch. -/
theorem Good.run (good : Good π G p accounts ended) (others : ∀ w w', G w w' → π.rely w w')
    (jobs : JobsSafe π G start)
    {p' : Pool Job World} (run : Relation.ReflTransGen (Step start) p p') :
    ∃ accounts' ended', Good π G p' accounts' ended' := by
  induction run with
  | refl => exact ⟨accounts, ended, good⟩
  | tail _ step induction =>
    obtain ⟨accounts', ended', good'⟩ := induction
    exact good'.step others jobs step

/-- A fact that every move the guarantee allows keeps holds all along every run
of a good pool. -/
theorem Good.keeps (good : Good π G p accounts ended) (others : ∀ w w', G w w' → π.rely w w')
    (jobs : JobsSafe π G start) {F : World → Prop} (kept : ∀ w w', G w w' → F w → F w')
    (holds : F p.machine.world) {p' : Pool Job World} (run : Relation.ReflTransGen (Step start) p p') :
    F p'.machine.world := by
  induction run with
  | refl => exact holds
  | tail run step induction =>
    obtain ⟨_, _, good'⟩ := good.run others jobs run
    rcases good'.allows step with same | moved
    · exact same ▸ induction
    · exact kept _ _ moved induction

/-- A pool of tasks, each of which may be resumed from the machine it starts on
with its share, on which the invariant holds with all the shares. -/
theorem Good.begin (m : Machine Job World) (tasks : List (Fut Job World)) (shares : List Γ)
    (length : shares.length = tasks.length)
    (each : ∀ (i : Nat) f g, tasks[i]? = some f → shares[i]? = some g → π.Resumable G g m.world f)
    (holds : π.inv m.world shares.sum) :
    Good π G ⟨m, tasks, none⟩ (shares.map fun g => ⟨g, m.world⟩) 0 where
  length := by simp [length]
  waiting := by
    intro i f a found account _
    simp only [List.getElem?_map, Option.map_eq_some_iff] at account
    obtain ⟨g, share, rfl⟩ := account
    exact ⟨π.rely_refl _, each i f g found share⟩
  idle := by
    intro _
    simpa [total, Function.comp_def] using holds
  running := by
    intro i none
    simp at none

/-- Tasks that each keep the protocol holding no share, from every machine the
others may make before they first run, make a good pool from a machine on which
the invariant holds with no share. -/
theorem Good.unshared (m : Machine Job World) (tasks : List (Fut Job World))
    (each : ∀ f ∈ tasks, π.Resumable G 0 m.world f) (holds : π.inv m.world 0) :
    ∃ accounts, Good π G ⟨m, tasks, none⟩ accounts 0 := by
  have none : (tasks.map fun _ => (0 : Γ)).sum = 0 := List.sum_eq_zero fun _ member => by
    obtain ⟨_, _, rfl⟩ := List.mem_map.mp member
    rfl
  refine ⟨_, Good.begin m tasks (tasks.map fun _ => 0) (by simp) (fun i f g found share => ?_)
    (by rw [none]; exact holds)⟩
  have zero : g = 0 := by
    simp only [List.getElem?_map, Option.map_eq_some_iff] at share
    obtain ⟨_, _, same⟩ := share
    exact same.symm
  subst zero
  exact each f (List.mem_of_getElem? found)

end Adequacy

end Pool

end Courier
