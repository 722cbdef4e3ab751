import Courier.Proofs.Bus.Changes
import Courier.Proofs.Tasks.Protocol

namespace Courier

/-! # Specifications of bus programs

A bus program runs in a task among others. Its specification names the steps
of the others, `R`, and its own, `G`, and relates the world it starts on to the
world it ends on and its result. Between two waits nothing else runs; across a
wait any number of `R` steps may happen.

Every specification carries a frame: a fact about the world that neither `R` nor
`G` steps break holds at the end if it held at the start. A program that
specifies only which steps it takes, with `True` before and after, thus keeps
every such fact.

A portable specification says the same for every protocol whose invariant the
program's steps keep, whatever the shares: the task holds any share across the
program. It is proved once and read in each protocol where a program runs, the
one of no ghost state among them, where it is the specification above; so the
programs whose tasks own some of the ghost state are proved against the
programs they call without proving those again. -/

/-- Bus tasks that share no ghost state, among others whose every step is an
`R` step. -/
def busTasks (R : World → World → Prop) : Protocol World Unit where
  inv _ _ := True
  rely := Relation.ReflTransGen R
  rely_refl _ := .refl
  rely_trans first second := first.trans second

/-- A fact about the world that no step of the others and no step of the task breaks. -/
def Stable (R G : World → World → Prop) (F : World → Prop) : Prop :=
  ∀ w w', F w → R w w' ∨ G w w' → F w'

/-- A protocol fits tasks that take `S` steps among others whose steps are `R`
steps: what it relies on the others to keep, their steps keep, and every `S`
step keeps its invariant whatever the shares. -/
structure Protocol.Fits {Γ : Type} [AddCommMonoid Γ] (π : Protocol World Γ) (S R : World → World → Prop) :
    Prop where
  rely : ∀ w w', π.rely w w' → Relation.ReflTransGen R w w'
  keeps : ∀ w w', S w w' → ∀ γ, π.inv w γ → π.inv w' γ

/-- The steps of guarantee `G` that keep the invariant of `π` whatever the
shares: a task may take them holding any share. -/
def Protocol.Keeping {Γ : Type} [AddCommMonoid Γ] (π : Protocol World Γ) (G : World → World → Prop)
    (w w' : World) : Prop :=
  G w w' ∧ ∀ γ, π.inv w γ → π.inv w' γ

theorem Protocol.fits_keeping {Γ : Type} [AddCommMonoid Γ] {π : Protocol World Γ} {G R : World → World → Prop}
    (rely : ∀ w w', π.rely w w' → Relation.ReflTransGen R w w') : π.Fits (π.Keeping G) R :=
  ⟨rely, fun _ _ step => step.2⟩

/-- A bus program whose steps are `S` steps, in a task among others whose steps
are `R` steps, specified for every protocol that fits them and every guarantee
that allows its steps: started where `P` holds, with the share its task is to
end the stretch with, it ends, if it does, where `Q` holds of its result, still
to end the stretch with that share; and it keeps every stable fact. -/
def Portable {α : Type} (S R : World → World → Prop) (P : World → Prop) (prog : Prog α)
    (Q : α → World → Prop) : Prop :=
  ∀ (G : World → World → Prop), (∀ w w', S w w' → G w w') →
    ∀ (Γ : Type) [AddCommMonoid Γ] (π : Protocol World Γ), π.Fits S R → ∀ F, Stable R S F → ∀ g : Γ,
      π.Triple G (π.Holding g fun w => P w ∧ F w) prog fun a => π.Holding g fun w => Q a w ∧ F w

/-- A bus program in a task whose steps are `G` steps, among tasks whose steps
are `R` steps: started on a world where `P` holds, it ends, if it does, on a
world where `Q` holds of its result, and keeps every stable fact. -/
def Spec {α : Type} (R G : World → World → Prop) (P : World → Prop) (prog : Prog α)
    (Q : α → World → Prop) : Prop :=
  ∀ F, Stable R G F → (busTasks R).Triple G (fun _ _ m => P m.world ∧ F m.world) prog
    fun a _ _ m => Q a m.world ∧ F m.world

variable {R G : World → World → Prop} {α β : Type}

/-- A fact that no step of the others breaks holds across any number of them. -/
theorem rely_keeps {I : World → Prop} (kept : ∀ w w', I w → R w w' → I w') {w w' : World} (holds : I w)
    (related : Relation.ReflTransGen R w w') : I w' := by
  induction related with
  | refl => exact holds
  | tail _ step induction => exact kept _ _ induction step

namespace Stable

variable {F F' : World → Prop}

theorem rely (stable : Stable R G F) {w w' : World} (holds : F w)
    (related : Relation.ReflTransGen R w w') : F w' :=
  rely_keeps (fun v v' kept step => stable v v' kept (.inl step)) holds related

theorem allows (stable : Stable R G F) {w w' : World} (holds : F w)
    (allowed : Protocol.Allows G w w') : F w' := by
  rcases allowed with same | step
  · exact same ▸ holds
  · exact stable _ _ holds (.inr step)

theorem step (stable : Stable R G F) {w w' : World} (holds : F w) (allowed : G w w') :
    Protocol.Allows G w w' ∧ F w' :=
  ⟨.inr allowed, stable _ _ holds (.inr allowed)⟩

theorem and (first : Stable R G F) (second : Stable R G F') : Stable R G fun w => F w ∧ F' w :=
  fun w w' holds step => ⟨first w w' holds.1 step, second w w' holds.2 step⟩

/-- A fact no step of a guarantee breaks, no step of a smaller one breaks. -/
theorem mono {S : World → World → Prop} (stable : Stable R G F) (sub : ∀ w w', S w w' → G w w') :
    Stable R S F :=
  fun w w' holds step => stable w w' holds (step.imp id (sub w w'))

end Stable

namespace Portable

variable {S : World → World → Prop} {P P' : World → Prop} {Q Q' : α → World → Prop}

theorem conseq {prog : Prog α} (portable : Portable S R P prog Q) (before : ∀ w, P' w → P w)
    (after : ∀ a w, Q a w → Q' a w) : Portable S R P' prog Q' :=
  fun G sub Γ _ π fits F stable g => (portable G sub Γ π fits F stable g).conseq
    (fun _ _ _ holds => ⟨holds.update, holds.valid, before _ holds.holds.1, holds.holds.2⟩)
    fun _ _ _ _ done => ⟨done.update, done.valid, after _ _ done.holds.1, done.holds.2⟩

/-- A portable specification, read among tasks that share no ghost state, for a
guarantee that allows the program's steps. -/
theorem spec {prog : Prog α} (portable : Portable S R P prog Q) (sub : ∀ w w', S w w' → G w w') :
    Spec R G P prog Q :=
  fun F stable => (portable G sub Unit (busTasks R) ⟨fun _ _ related => related, fun _ _ _ _ _ => trivial⟩ F
    (stable.mono sub) ()).conseq (fun _ _ _ holds => ⟨fun _ _ => trivial, ⟨(), trivial⟩, holds⟩)
    fun _ _ _ _ done => done.holds

theorem toSpec {prog : Prog α} (portable : Portable G R P prog Q) : Spec R G P prog Q :=
  portable.spec fun _ _ step => step

theorem widen {S' : World → World → Prop} {prog : Prog α} (portable : Portable S R P prog Q)
    (sub : ∀ w w', S w w' → S' w w') : Portable S' R P prog Q :=
  fun G sub' Γ _ π fits F stable g => portable G (fun w w' step => sub' w w' (sub w w' step)) Γ π
    ⟨fits.rely, fun w w' step => fits.keeps w w' (sub w w' step)⟩ F (stable.mono sub) g

theorem frame {prog : Prog α} (portable : Portable S R P prog Q) {F : World → Prop} (stable : Stable R S F) :
    Portable S R (fun w => P w ∧ F w) prog fun a w => Q a w ∧ F w :=
  fun G sub Γ _ π fits F' stable' g =>
    (portable G sub Γ π fits (fun w => F w ∧ F' w) (stable.and stable') g).conseq
      (fun _ _ _ holds => ⟨holds.update, holds.valid, holds.holds.1.1, holds.holds.1.2, holds.holds.2⟩)
      fun _ _ _ _ done => ⟨done.update, done.valid, ⟨done.holds.1, done.holds.2.1⟩, done.holds.2.2⟩

/-- Where a portable specification holds, the program runs in any protocol that
fits its steps, with any share. -/
theorem triple {prog : Prog α} (portable : Portable S R P prog Q) {G : World → World → Prop}
    (sub : ∀ w w', S w w' → G w w') {Γ : Type} [AddCommMonoid Γ] {π : Protocol World Γ} (fits : π.Fits S R)
    (g : Γ) : π.Triple G (π.Holding g P) prog fun a => π.Holding g (Q a) :=
  (portable G sub Γ π fits (fun _ => True) (fun _ _ _ _ => trivial) g).conseq
    (fun _ _ _ holds => ⟨holds.update, holds.valid, holds.holds, trivial⟩)
    fun _ _ _ _ done => ⟨done.update, done.valid, done.holds.1⟩

theorem pure (a : α) : Portable S R (Q a) (Pure.pure a : Prog α) Q :=
  fun _ _ _ _ π _ F _ g => Protocol.Triple.ret (π := π) (Q := fun a => π.Holding g fun w => Q a w ∧ F w) a

theorem pure_true (a : α) : Portable S R P (Pure.pure a : Prog α) fun _ _ => True :=
  (pure a).conseq (fun _ _ => trivial) fun _ _ done => done

theorem bind {T : β → World → Prop} {prog : Prog α} {f : α → Prog β} (first : Portable S R P prog Q)
    (next : ∀ a, Portable S R (Q a) (f a) T) : Portable S R P (prog >>= f) T :=
  fun G sub Γ _ π fits F stable g =>
    Protocol.Triple.bind (first G sub Γ π fits F stable g) fun a => next a G sub Γ π fits F stable g

/-- A program may be specified for each world it starts on. -/
theorem of_pre {prog : Prog α} (each : ∀ w, P w → Portable S R (· = w) prog Q) : Portable S R P prog Q := by
  intro G sub Γ _ π fits F stable g
  apply Protocol.Triple.of_pre
  intro g' w₀ m holds
  refine (each m.world holds.holds.1 G sub Γ π fits F stable g).conseq ?_ fun _ _ _ _ done => done
  rintro g'' w₀' m' ⟨rfl, rfl, rfl⟩
  exact ⟨holds.update, holds.valid, rfl, holds.holds.2⟩

/-- A fact that does not depend on the world may be assumed. -/
theorem assume {prog : Prog α} {c : Prop} (portable : c → Portable S R P prog Q) :
    Portable S R (fun w => c ∧ P w) prog Q :=
  of_pre fun _ holds => (portable holds.1).conseq (fun _ same => same ▸ holds.2) fun _ _ done => done

/-- A step: one the task may take, which keeps the invariant of every protocol
that fits it, so that the task's share may be kept across it. -/
theorem update (f : Machine Job World → Machine Job World × α)
    (step : ∀ m, P m.world → Protocol.Allows S m.world (f m).1.world ∧ Q (f m).2 (f m).1.world) :
    Portable S R P (Async.update f) Q := by
  intro G sub Γ _ π fits F stable g
  refine Protocol.Triple.update f fun g' w₀ m holds => ?_
  obtain ⟨allowed, done⟩ := step m holds.holds.1
  exact ⟨allowed.mono sub, Protocol.Update.trans π holds.update (Protocol.Update.of_allows π fits.keeps g allowed),
    holds.valid, done, stable.allows holds.holds.2 allowed⟩

/-- A wait: the task ends its stretch with its share, and whatever the others
do meanwhile, the step that ends the wait is one the task may take and leaves a
world where `Q` holds. -/
theorem await (poll : Machine Job World → Option (Machine Job World × α)) (keys : List Key)
    (ready : ∀ m : Machine Job World, P m.world → ∀ m₁ m₂ a, Relation.ReflTransGen R m.world m₁.world →
      poll m₁ = some (m₂, a) → Protocol.Allows S m₁.world m₂.world ∧ Q a m₂.world) :
    Portable S R P (Async.await poll keys) Q := by
  intro G sub Γ _ π fits F stable g
  refine Protocol.Triple.await keys fun g' w₀ m holds => ⟨g, holds.update, ?_⟩
  intro m₁ frame related valid m₂ a polled
  have others := fits.rely _ _ related
  obtain ⟨allowed, done⟩ := ready m holds.holds.1 m₁ m₂ a others polled
  exact ⟨allowed.mono sub, Protocol.Update.of_allows π fits.keeps g allowed, ⟨frame, valid⟩, done,
    stable.allows (stable.rely holds.holds.2 others) allowed⟩

theorem crash : Portable S R P (Async.crash : Prog α) Q :=
  fun _ _ _ _ _ _ _ _ g => Protocol.Triple.crash fun _ _ _ holds => ⟨g, holds.update⟩

/-- Going on as a fresh run of a job ends the program here: the job's own
specification covers the rest. -/
theorem again (job : Job) : Portable S R P (Async.again job : Prog α) Q :=
  fun _ _ _ _ _ _ _ _ g => Protocol.Triple.again job fun _ _ _ holds => ⟨g, holds.update⟩

/-- A yield: what holds on every world the others may make meanwhile holds after it. -/
theorem yieldNow {Q : Unit → World → Prop} (stable : ∀ w w', P w → Relation.ReflTransGen R w w' → Q () w') :
    Portable S R P (Async.yieldNow : Prog Unit) Q := by
  refine await _ _ fun m holds m₁ m₂ _ related ready => ?_
  cases ready
  exact ⟨.inl rfl, stable _ _ holds related⟩

theorem yieldNow_keeps {I : World → Prop} (kept : ∀ w w', I w → R w w' → I w') :
    Portable S R I (Async.yieldNow : Prog Unit) fun _ => I :=
  yieldNow fun _ _ holds related => rely_keeps kept holds related

theorem forM {γ : Type} {I : List γ → World → Prop} {f : γ → Prog Unit} (items : List γ)
    (each : ∀ c rest, Portable S R (I (c :: rest)) (f c) fun _ => I rest) :
    Portable S R (I items) (items.forM f) fun _ => I [] :=
  fun G sub Γ _ π fits F stable g =>
    Protocol.Triple.forM (I := fun l => π.Holding g fun w => I l w ∧ F w) items
      fun c rest => each c rest G sub Γ π fits F stable g

theorem foldlM {γ : Type} {I : List γ → β → World → Prop} {f : β → γ → Prog β} (items : List γ)
    (init : β) (each : ∀ acc c rest, Portable S R (I (c :: rest) acc) (f acc c) fun acc' => I rest acc') :
    Portable S R (I items init) (items.foldlM f init) fun acc => I [] acc :=
  fun G sub Γ _ π fits F stable g =>
    Protocol.Triple.foldlM (I := fun l acc => π.Holding g fun w => I l acc w ∧ F w) items init
      fun acc c rest => each acc c rest G sub Γ π fits F stable g

theorem mapM {γ : Type} {f : γ → Prog β} (items : List γ) (each : ∀ c, Portable S R P (f c) fun _ => P) :
    Portable S R P (items.mapM f) fun _ => P := by
  -- the loop behind the list's traversal, from any results gathered so far
  suffices loop : ∀ acc, Portable S R P (List.mapM.loop f items acc) fun _ => P from loop []
  induction items with
  | nil => exact fun acc => pure (Q := fun _ => P) acc.reverse
  | cons c rest induction => exact fun acc => bind (each c) fun b => induction (b :: acc)

/-! Steps that change the world. -/

theorem act (f : World → World × α)
    (step : ∀ w, P w → Protocol.Allows S w (f w).1 ∧ Q (f w).2 (f w).1) :
    Portable S R P (Async.act f) Q :=
  update _ fun m holds => step m.world holds

theorem alter {Q : Unit → World → Prop} (f : World → World)
    (step : ∀ w, P w → Protocol.Allows S w (f w) ∧ Q () (f w)) : Portable S R P (Prog.alter f) Q :=
  act _ step

theorem view (f : World → α) : Portable S R (fun w => Q (f w) w) (Prog.view f) Q :=
  show Portable S R _ (Async.update fun m => (m, f m.world)) Q from update _ fun _ holds => ⟨.inl rfl, holds⟩

theorem ask (f : Broker → α) : Portable S R (fun w => Q (f w.broker) w) (Prog.ask f) Q :=
  view _

/-- A broker call, after which the others may run: what the call leaves must
hold on every world they may make meanwhile. -/
theorem quietly (call : Broker → Broker × α)
    (step : ∀ w, P w → Protocol.Allows S w { w with broker := (call w.broker).1 } ∧
      ∀ w', Relation.ReflTransGen R { w with broker := (call w.broker).1 } w' → Q (call w.broker).2 w') :
    Portable S R P (Prog.quietly call) Q :=
  bind (act _ (Q := fun a w => ∀ w', Relation.ReflTransGen R w w' → Q a w') step) fun a =>
    bind (yieldNow fun _ _ later related => later _ related) fun _ => pure a

/-- A question to the broker, after which the others may run. -/
theorem query (f : Broker → α) :
    Portable S R (fun w => ∀ w', Relation.ReflTransGen R w w' → Q (f w.broker) w') (Prog.query f) Q :=
  bind (ask (Q := fun a w => ∀ w', Relation.ReflTransGen R w w' → Q a w') _) fun a =>
    bind (yieldNow fun _ _ later related => later _ related) fun _ => pure a

/-! Steps on the bookkeeping of tasks leave the world as it is. -/

theorem task (f : Tasking Job → Tasking Job × α) : Portable S R (fun w => ∀ a, Q a w) (Async.task f) Q :=
  update _ fun _ holds => ⟨.inl rfl, holds _⟩

theorem look (f : Machine Job World → α) : Portable S R (fun w => ∀ a, Q a w) (Async.look f) Q :=
  update _ fun _ holds => ⟨.inl rfl, holds _⟩

theorem now {Q : Nat → World → Prop} : Portable S R (fun w => ∀ a, Q a w) (Async.now : Prog Nat) Q :=
  look _

theorem signal {Q : Unit → World → Prop} (key : Key) : Portable S R (Q ()) (Async.signal key : Prog Unit) Q :=
  (task _).conseq (fun _ holds _ => holds) fun _ _ done => done

theorem announce {Q : Unit → World → Prop} (notices : List Notice) :
    Portable S R (Q ()) (Prog.announce notices) Q := by
  refine (forM (I := fun _ => Q ()) notices fun notice _ => ?_).conseq (fun _ holds => holds)
    fun _ _ done => done
  cases notice with
  | delivered channel => exact signal _
  | leased lease =>
    exact bind ((task _).conseq (fun _ holds _ => holds) fun _ _ done => done) fun _ => pure ()
  | replied slot => exact signal _
  | senderGone channel => exact signal _

/-- A broker call that announces what it did, after which the others may run. -/
theorem onBroker (call : Broker → Broker × α × List Notice)
    (step : ∀ w, P w → Protocol.Allows S w { w with broker := (call w.broker).1 } ∧
      ∀ w', Relation.ReflTransGen R { w with broker := (call w.broker).1 } w' → Q (call w.broker).2.1 w') :
    Portable S R P (Prog.onBroker call) Q := by
  refine bind (act _ (Q := fun result w => ∀ w', Relation.ReflTransGen R w w' → Q result.1 w') step)
    fun result => ?_
  obtain ⟨a, notices⟩ := result
  exact bind (announce (Q := fun _ w => ∀ w', Relation.ReflTransGen R w w' → Q a w') notices) fun _ =>
    bind (yieldNow fun _ _ later related => later _ related) fun _ => pure a

/-- Waiting for a time or for tasks to end changes nothing: what holds on every
world the others may make holds after it. -/
theorem sleepUntil {Q : Unit → World → Prop} (deadline : Nat)
    (stable : ∀ w w', P w → Relation.ReflTransGen R w w' → Q () w') :
    Portable S R P (Async.sleepUntil deadline : Prog Unit) Q := by
  refine bind (Q := fun _ w => ∀ w', Relation.ReflTransGen R w w' → Q () w')
    ((task _).conseq (fun w holds _ w' related => stable w w' holds related) fun _ _ done => done)
    fun armed => ?_
  cases armed with
  | none => exact (pure ()).conseq (fun _ holds => holds _ .refl) fun _ _ done => done
  | some key =>
    refine await (fun m => if deadline ≤ m.tasking.now then some (m, ()) else none) _
      fun m holds m₁ m₂ _ related ready => ?_
    split at ready
    · cases ready
      exact ⟨.inl rfl, holds _ related⟩
    · cases ready

theorem sleep {Q : Unit → World → Prop} (millis : Nat)
    (stable : ∀ w w', P w → Relation.ReflTransGen R w w' → Q () w') :
    Portable S R P (Async.sleep millis : Prog Unit) Q :=
  bind (Q := fun _ => P) ((look _).conseq (fun _ holds _ => holds) fun _ _ done => done)
    fun _ => sleepUntil _ stable

theorem lookupPause {Q : Unit → World → Prop}
    (stable : ∀ w w', P w → Relation.ReflTransGen R w w' → Q () w') :
    Portable S R P Prog.lookupPause Q := by
  refine bind (Q := fun _ => P) ((ask _).conseq (fun _ holds => holds) fun _ _ done => done) fun delay => ?_
  cases delay with
  | none => exact (pure ()).conseq (fun w holds => stable w w holds .refl) fun _ _ done => done
  | some delay => exact sleep _ stable

theorem joinTask {Q : Bool → World → Prop} (task : Nat)
    (stable : ∀ w w' a, P w → Relation.ReflTransGen R w w' → Q a w') :
    Portable S R P (Prog.joinTask task) Q := by
  unfold Prog.joinTask
  refine await _ _ fun m holds m₁ m₂ a related ready => ?_
  simp only [Option.map_eq_some_iff] at ready
  obtain ⟨_, _, same⟩ := ready
  cases same
  exact ⟨.inl rfl, stable _ _ a holds related⟩

theorem joinTasks {Q : Unit → World → Prop} (tasks : List Nat)
    (stable : ∀ w w', P w → Relation.ReflTransGen R w w' → Q () w') :
    Portable S R P (Prog.joinTasks tasks) Q := by
  unfold Prog.joinTasks
  refine await _ _ fun m holds m₁ m₂ a related ready => ?_
  split at ready
  · cases ready
    exact ⟨.inl rfl, stable _ _ holds related⟩
  · cases ready

end Portable

/-! Programs that may fail are specified through their runs: the postcondition
reads the result or the error. -/

namespace Portable

variable {S : World → World → Prop} {P : World → Prop} {Q : Except BusError α → World → Prop}

theorem lift {prog : Prog α} (portable : Portable S R P prog fun a => Q (.ok a)) :
    Portable S R P (BusProg.lift prog).run Q :=
  bind portable fun a => pure (Except.ok a)

theorem ok (a : α) : Portable S R (Q (.ok a)) (Pure.pure a : BusProg α).run Q :=
  pure _

theorem throw (e : BusError) : Portable S R (Q (.error e)) (MonadExcept.throw e : BusProg α).run Q :=
  pure _

theorem throw_bind (e : BusError) {f : α → BusProg β} {T : Except BusError β → World → Prop} :
    Portable S R (T (.error e)) (MonadExcept.throw e >>= f : BusProg β).run T :=
  pure _

theorem ebind {T : Except BusError β → World → Prop} {prog : BusProg α} {f : α → BusProg β}
    (first : Portable S R P prog.run Q) (next : ∀ a, Portable S R (Q (.ok a)) (f a).run T)
    (fails : ∀ e w, Q (.error e) w → T (.error e) w) : Portable S R P (prog >>= f).run T := by
  rw [ExceptT.run_bind]
  refine bind first fun r => ?_
  cases r with
  | error e => exact (pure _).conseq (fails e) fun _ _ done => done
  | ok a => exact next a

/-- A step that cannot fail, and the rest of the program. -/
theorem lbind {T : Except BusError β → World → Prop} {prog : Prog α} {f : α → BusProg β}
    {Q : α → World → Prop} (first : Portable S R P prog Q) (next : ∀ a, Portable S R (Q a) (f a).run T) :
    Portable S R P (BusProg.lift prog >>= f).run T :=
  ebind (Q := fun r w => ∃ a, r = .ok a ∧ Q a w)
    (lift (first.conseq (fun _ holds => holds) fun a _ holds => ⟨a, rfl, holds⟩))
    (fun a => (next a).conseq (fun _ found => by obtain ⟨_, same, holds⟩ := found; cases same; exact holds)
      fun _ _ done => done)
    fun _ _ found => by obtain ⟨_, wrong, _⟩ := found; cases wrong

theorem transport (operation : String) (r : Except GatewayError α) :
    Portable S R (Q (r.mapError (.transport operation))) (BusProg.transport operation r).run Q := by
  cases r <;> exact pure _

end Portable

namespace Spec

variable {P P' : World → Prop} {Q Q' : α → World → Prop}

theorem conseq {prog : Prog α} (spec : Spec R G P prog Q) (before : ∀ w, P' w → P w)
    (after : ∀ a w, Q a w → Q' a w) : Spec R G P' prog Q' :=
  fun F stable => (spec F stable).conseq (fun _ _ _ holds => ⟨before _ holds.1, holds.2⟩)
    fun _ _ _ _ done => ⟨after _ _ done.1, done.2⟩

/-- A specified program, run to its end as a task, is safe from every machine
where its precondition holds. -/
theorem safe {prog : Prog α} (spec : Spec R G P prog Q) {m : Machine Job World} (holds : P m.world) :
    (busTasks R).Safe G () m.world m (prog fun _ => .done) :=
  spec (fun _ => True) (fun _ _ _ _ => trivial) () m.world m (fun _ => .done) ⟨holds, trivial⟩
    fun _ _ _ _ _ => .done () fun _ _ => trivial

theorem frame {prog : Prog α} (spec : Spec R G P prog Q) {F : World → Prop} (stable : Stable R G F) :
    Spec R G (fun w => P w ∧ F w) prog fun a w => Q a w ∧ F w :=
  fun F' stable' => (spec (fun w => F w ∧ F' w) (stable.and stable')).conseq
    (fun _ _ _ holds => ⟨holds.1.1, holds.1.2, holds.2⟩)
    fun _ _ _ _ done => ⟨⟨done.1, done.2.1⟩, done.2.2⟩

/-- A program that only takes steps of the task keeps every stable fact. -/
theorem keep {prog : Prog α} (spec : Spec R G (fun _ => True) prog fun _ _ => True) {F : World → Prop}
    (stable : Stable R G F) : Spec R G F prog fun _ => F :=
  (spec.frame stable).conseq (fun _ holds => ⟨trivial, holds⟩) fun _ _ done => done.2

theorem pure (a : α) : Spec R G (Q a) (Pure.pure a : Prog α) Q :=
  (Portable.pure a).toSpec

theorem pure_true (a : α) : Spec R G P (Pure.pure a : Prog α) fun _ _ => True :=
  (pure a).conseq (fun _ _ => trivial) fun _ _ done => done

theorem bind {S : β → World → Prop} {prog : Prog α} {f : α → Prog β} (first : Spec R G P prog Q)
    (next : ∀ a, Spec R G (Q a) (f a) S) : Spec R G P (prog >>= f) S :=
  fun F stable => Protocol.Triple.bind (first F stable) fun a => next a F stable

/-- A program may be specified for each world it starts on. -/
theorem of_pre {prog : Prog α} (each : ∀ w, P w → Spec R G (· = w) prog Q) : Spec R G P prog Q := by
  intro F stable
  apply Protocol.Triple.of_pre
  intro g w₀ m holds
  refine (each m.world holds.1 F stable).conseq ?_ fun _ _ _ _ done => done
  rintro g' w₀' m' ⟨-, -, rfl⟩
  exact ⟨rfl, holds.2⟩

/-- A fact that does not depend on the world may be assumed. -/
theorem assume {prog : Prog α} {c : Prop} (spec : c → Spec R G P prog Q) :
    Spec R G (fun w => c ∧ P w) prog Q :=
  of_pre fun _ holds => (spec holds.1).conseq (fun _ same => same ▸ holds.2) fun _ _ done => done

theorem update (f : Machine Job World → Machine Job World × α)
    (step : ∀ m, P m.world → Protocol.Allows G m.world (f m).1.world ∧ Q (f m).2 (f m).1.world) :
    Spec R G P (Async.update f) Q :=
  (Portable.update f step).toSpec

/-- A wait: whatever the others do meanwhile, the step that ends it is one the
task may take and leaves a world where `Q` holds. -/
theorem await (poll : Machine Job World → Option (Machine Job World × α)) (keys : List Key)
    (ready : ∀ m : Machine Job World, P m.world → ∀ m₁ m₂ a, Relation.ReflTransGen R m.world m₁.world →
      poll m₁ = some (m₂, a) → Protocol.Allows G m₁.world m₂.world ∧ Q a m₂.world) :
    Spec R G P (Async.await poll keys) Q :=
  (Portable.await poll keys ready).toSpec

theorem crash : Spec R G P (Async.crash : Prog α) Q :=
  Portable.crash.toSpec

theorem again (job : Job) : Spec R G P (Async.again job : Prog α) Q :=
  (Portable.again job).toSpec

theorem forM {γ : Type} {I : List γ → World → Prop} {f : γ → Prog Unit} (items : List γ)
    (each : ∀ c rest, Spec R G (I (c :: rest)) (f c) fun _ => I rest) :
    Spec R G (I items) (items.forM f) fun _ => I [] :=
  fun F stable => Protocol.Triple.forM (I := fun l _ _ m => I l m.world ∧ F m.world) items
    fun c rest => each c rest F stable

theorem foldlM {γ : Type} {I : List γ → β → World → Prop} {f : β → γ → Prog β} (items : List γ)
    (init : β) (each : ∀ acc c rest, Spec R G (I (c :: rest) acc) (f acc c) fun acc' => I rest acc') :
    Spec R G (I items init) (items.foldlM f init) fun acc => I [] acc :=
  fun F stable => Protocol.Triple.foldlM (I := fun l acc _ _ m => I l acc m.world ∧ F m.world)
    items init fun acc c rest => each acc c rest F stable

theorem mapM {γ : Type} {f : γ → Prog β} (items : List γ) (each : ∀ c, Spec R G P (f c) fun _ => P) :
    Spec R G P (items.mapM f) fun _ => P := by
  -- the loop behind the list's traversal, from any results gathered so far
  suffices loop : ∀ acc, Spec R G P (List.mapM.loop f items acc) fun _ => P from loop []
  induction items with
  | nil => exact fun acc => pure (Q := fun _ => P) acc.reverse
  | cons c rest induction => exact fun acc => bind (each c) fun b => induction (b :: acc)

/-! Steps that change the world. -/

theorem act (f : World → World × α)
    (step : ∀ w, P w → Protocol.Allows G w (f w).1 ∧ Q (f w).2 (f w).1) :
    Spec R G P (Async.act f) Q :=
  (Portable.act f step).toSpec

theorem alter {Q : Unit → World → Prop} (f : World → World)
    (step : ∀ w, P w → Protocol.Allows G w (f w) ∧ Q () (f w)) : Spec R G P (Prog.alter f) Q :=
  (Portable.alter f step).toSpec

theorem view (f : World → α) : Spec R G (fun w => Q (f w) w) (Prog.view f) Q :=
  (Portable.view f).toSpec

theorem ask (f : Broker → α) : Spec R G (fun w => Q (f w.broker) w) (Prog.ask f) Q :=
  (Portable.ask f).toSpec

theorem quietly (call : Broker → Broker × α)
    (step : ∀ w, P w → Protocol.Allows G w { w with broker := (call w.broker).1 } ∧
      ∀ w', Relation.ReflTransGen R { w with broker := (call w.broker).1 } w' → Q (call w.broker).2 w') :
    Spec R G P (Prog.quietly call) Q :=
  (Portable.quietly call step).toSpec

theorem query (f : Broker → α) :
    Spec R G (fun w => ∀ w', Relation.ReflTransGen R w w' → Q (f w.broker) w') (Prog.query f) Q :=
  (Portable.query f).toSpec

theorem yieldNow {Q : Unit → World → Prop} (stable : ∀ w w', P w → Relation.ReflTransGen R w w' → Q () w') :
    Spec R G P (Async.yieldNow : Prog Unit) Q :=
  (Portable.yieldNow stable).toSpec

theorem yieldNow_keeps {I : World → Prop} (kept : ∀ w w', I w → R w w' → I w') :
    Spec R G I (Async.yieldNow : Prog Unit) fun _ => I :=
  (Portable.yieldNow_keeps kept).toSpec

/-! Steps on the bookkeeping of tasks leave the world as it is. -/

theorem task (f : Tasking Job → Tasking Job × α) : Spec R G (fun w => ∀ a, Q a w) (Async.task f) Q :=
  (Portable.task f).toSpec

theorem look (f : Machine Job World → α) : Spec R G (fun w => ∀ a, Q a w) (Async.look f) Q :=
  (Portable.look f).toSpec

theorem now {Q : Nat → World → Prop} : Spec R G (fun w => ∀ a, Q a w) (Async.now : Prog Nat) Q :=
  Portable.now.toSpec

theorem signal {Q : Unit → World → Prop} (key : Key) : Spec R G (Q ()) (Async.signal key : Prog Unit) Q :=
  (Portable.signal key).toSpec

theorem announce {Q : Unit → World → Prop} (notices : List Notice) :
    Spec R G (Q ()) (Prog.announce notices) Q :=
  (Portable.announce notices).toSpec

theorem onBroker (call : Broker → Broker × α × List Notice)
    (step : ∀ w, P w → Protocol.Allows G w { w with broker := (call w.broker).1 } ∧
      ∀ w', Relation.ReflTransGen R { w with broker := (call w.broker).1 } w' → Q (call w.broker).2.1 w') :
    Spec R G P (Prog.onBroker call) Q :=
  (Portable.onBroker call step).toSpec

/-- Waiting for a time or for tasks to end changes nothing: what holds on every
world the others may make holds after it. -/
theorem sleepUntil {Q : Unit → World → Prop} (deadline : Nat)
    (stable : ∀ w w', P w → Relation.ReflTransGen R w w' → Q () w') :
    Spec R G P (Async.sleepUntil deadline : Prog Unit) Q :=
  (Portable.sleepUntil deadline stable).toSpec

theorem sleep {Q : Unit → World → Prop} (millis : Nat)
    (stable : ∀ w w', P w → Relation.ReflTransGen R w w' → Q () w') :
    Spec R G P (Async.sleep millis : Prog Unit) Q :=
  (Portable.sleep millis stable).toSpec

theorem lookupPause {Q : Unit → World → Prop}
    (stable : ∀ w w', P w → Relation.ReflTransGen R w w' → Q () w') :
    Spec R G P Prog.lookupPause Q :=
  (Portable.lookupPause stable).toSpec

theorem joinTask {Q : Bool → World → Prop} (task : Nat)
    (stable : ∀ w w' a, P w → Relation.ReflTransGen R w w' → Q a w') :
    Spec R G P (Prog.joinTask task) Q :=
  (Portable.joinTask task stable).toSpec

theorem joinTasks {Q : Unit → World → Prop} (tasks : List Nat)
    (stable : ∀ w w', P w → Relation.ReflTransGen R w w' → Q () w') :
    Spec R G P (Prog.joinTasks tasks) Q :=
  (Portable.joinTasks tasks stable).toSpec

end Spec

/-! Programs that may fail are specified through their runs: the postcondition
reads the result or the error. -/

namespace Spec

variable {P : World → Prop} {Q : Except BusError α → World → Prop}

theorem lift {prog : Prog α} (spec : Spec R G P prog fun a => Q (.ok a)) :
    Spec R G P (BusProg.lift prog).run Q :=
  bind spec fun a => pure (Except.ok a)

theorem ok (a : α) : Spec R G (Q (.ok a)) (Pure.pure a : BusProg α).run Q :=
  (Portable.ok a).toSpec

theorem throw (e : BusError) : Spec R G (Q (.error e)) (MonadExcept.throw e : BusProg α).run Q :=
  (Portable.throw e).toSpec

theorem throw_bind (e : BusError) {f : α → BusProg β} {S : Except BusError β → World → Prop} :
    Spec R G (S (.error e)) (MonadExcept.throw e >>= f : BusProg β).run S :=
  (Portable.throw_bind e).toSpec

theorem ebind {S : Except BusError β → World → Prop} {prog : BusProg α} {f : α → BusProg β}
    (first : Spec R G P prog.run Q) (next : ∀ a, Spec R G (Q (.ok a)) (f a).run S)
    (fails : ∀ e w, Q (.error e) w → S (.error e) w) : Spec R G P (prog >>= f).run S := by
  rw [ExceptT.run_bind]
  refine bind first fun r => ?_
  cases r with
  | error e => exact (pure _).conseq (fails e) fun _ _ done => done
  | ok a => exact next a

/-- A step that cannot fail, and the rest of the program. -/
theorem lbind {S : Except BusError β → World → Prop} {prog : Prog α} {f : α → BusProg β}
    {Q : α → World → Prop} (first : Spec R G P prog Q) (next : ∀ a, Spec R G (Q a) (f a).run S) :
    Spec R G P (BusProg.lift prog >>= f).run S :=
  ebind (Q := fun r w => ∃ a, r = .ok a ∧ Q a w)
    (lift (first.conseq (fun _ holds => holds) fun a _ holds => ⟨a, rfl, holds⟩))
    (fun a => (next a).conseq (fun _ found => by obtain ⟨_, same, holds⟩ := found; cases same; exact holds)
      fun _ _ done => done)
    fun _ _ found => by obtain ⟨_, wrong, _⟩ := found; cases wrong

theorem transport (operation : String) (r : Except GatewayError α) :
    Spec R G (Q (r.mapError (.transport operation))) (BusProg.transport operation r).run Q :=
  (Portable.transport operation r).toSpec

end Spec

end Courier
