import Mathlib
import Courier.Proofs.Bus.Reservations

namespace Courier

/-! # Who is inside a publisher's gate

A publish passes its publisher's gate as a reader and holds it until the broker
has answered; closing passes the gate as the writer, sets the publisher's flag,
and leaves. The gate counts its readers without naming them, so the tasks hold
passes as ghost state: a ticket taken to queue, a request waiting with its
ticket, a place inside as a reader or as the writer. A reader that has looked at
the publisher and found it open holds a pass that says so, and names the topic
it cached once it has.

Each gate accounts for the passes at it: it counts at least the readers inside
and the readers it granted that have not come in yet, and it is writing when the
writer is inside or granted. So the writer's pass excludes every reader's. A
reader that found its publisher open keeps it open, with the topic it cached in
the cache, until it leaves: the flag is set only by the writer, and a cache is
drained only once its publisher is closed. -/

/-- What a task holds at the gates of the publishers. -/
inductive Pass where
  /-- A ticket taken to queue at a gate, not used yet. -/
  | ticket (number : Nat)
  /-- A request that waits at the gate of `o` with its ticket, to write or to read. -/
  | waiting (o : Outlet) (number : Nat) (write : Bool)
  /-- A reader inside the gate of `o` that has not looked at the publisher yet. -/
  | reading (o : Outlet)
  /-- A reader inside the gate of `o` that found the publisher open, with the
  topic it cached once it has cached one. -/
  | opened (o : Outlet) (topic : Option String)
  /-- The writer inside the gate of `o`. -/
  | writing (o : Outlet)
  deriving DecidableEq

namespace Pass

def number : Pass → Option Nat
  | ticket n => some n
  | waiting _ n _ => some n
  | _ => none

def outlet? : Pass → Option Outlet
  | ticket _ => none
  | waiting o _ _ => some o
  | reading o => some o
  | opened o _ => some o
  | writing o => some o

/-- The pass is a reader's inside the gate of `o`. -/
def readsAt (o : Outlet) : Pass → Bool
  | reading o' => o' == o
  | opened o' _ => o' == o
  | _ => false

/-- The pass is the writer's inside the gate of `o`. -/
def writesAt (o : Outlet) : Pass → Bool
  | writing o' => o' == o
  | _ => false

/-- The pass is a request at the gate of `o`, to write or to read as `write`
says, whose ticket is among those granted. -/
def grantedAt (o : Outlet) (granted : List Nat) (write : Bool) : Pass → Bool
  | waiting o' n w => o' == o && granted.contains n && w == write
  | _ => false

section Evaluation

variable {o o' : Outlet} {n : Nat} {write : Bool} {topic : Option String} {granted : List Nat} {w : Bool}

@[simp] theorem readsAt_ticket : (ticket n).readsAt o = false := rfl
@[simp] theorem readsAt_waiting : (waiting o' n write).readsAt o = false := rfl
@[simp] theorem readsAt_reading : (reading o').readsAt o = (o' == o) := rfl
@[simp] theorem readsAt_opened : (opened o' topic).readsAt o = (o' == o) := rfl
@[simp] theorem readsAt_writing : (writing o').readsAt o = false := rfl

@[simp] theorem writesAt_ticket : (ticket n).writesAt o = false := rfl
@[simp] theorem writesAt_waiting : (waiting o' n write).writesAt o = false := rfl
@[simp] theorem writesAt_reading : (reading o').writesAt o = false := rfl
@[simp] theorem writesAt_opened : (opened o' topic).writesAt o = false := rfl
@[simp] theorem writesAt_writing : (writing o').writesAt o = (o' == o) := rfl

@[simp] theorem grantedAt_ticket : (ticket n).grantedAt o granted w = false := rfl
@[simp] theorem grantedAt_waiting :
    (waiting o' n write).grantedAt o granted w = (o' == o && granted.contains n && write == w) := rfl
@[simp] theorem grantedAt_reading : (reading o').grantedAt o granted w = false := rfl
@[simp] theorem grantedAt_opened : (opened o' topic).grantedAt o granted w = false := rfl
@[simp] theorem grantedAt_writing : (writing o').grantedAt o granted w = false := rfl

end Evaluation

theorem outlet?_of_readsAt {o : Outlet} {p : Pass} (reads : p.readsAt o = true) : p.outlet? = some o := by
  cases p <;> simp_all [readsAt, outlet?]

theorem outlet?_of_writesAt {o : Outlet} {p : Pass} (writes : p.writesAt o = true) : p.outlet? = some o := by
  cases p <;> simp_all [writesAt, outlet?]

theorem outlet?_of_grantedAt {o : Outlet} {granted : List Nat} {write : Bool} {p : Pass}
    (waits : p.grantedAt o granted write = true) : p.outlet? = some o := by
  cases p <;> simp_all [grantedAt, outlet?]

theorem grantedAt_of_readsAt {o o' : Outlet} {granted : List Nat} {write : Bool} {p : Pass}
    (reads : p.readsAt o = true) : p.grantedAt o' granted write = false := by
  cases p <;> simp_all

theorem writesAt_of_readsAt {o o' : Outlet} {p : Pass} (reads : p.readsAt o = true) : p.writesAt o' = false := by
  cases p <;> simp_all

theorem number_of_grantedAt {o : Outlet} {granted : List Nat} {write : Bool} {p : Pass}
    (waits : p.grantedAt o granted write = true) : ∃ n ∈ granted, p = waiting o n write := by
  cases p <;> simp_all [grantedAt]

def Apart (passes : Multiset Pass) : Prop := ∀ n, passes.countP (fun p => p.number = some n) ≤ 1

end Pass

/-! Counting passes. -/

namespace Multiset

variable {α : Type} {p q r : α → Prop} [DecidablePred p] [DecidablePred q] [DecidablePred r]

theorem countP_le_of_imp (s : Multiset α) (imp : ∀ a ∈ s, p a → q a) : s.countP p ≤ s.countP q := by
  induction s using Multiset.induction_on with
  | empty => simp
  | cons a s induction =>
    have rest := induction fun b member => imp b (Multiset.mem_cons_of_mem member)
    rw [Multiset.countP_cons, Multiset.countP_cons]
    by_cases holds : p a
    · simp [holds, imp a (Multiset.mem_cons_self a s) holds, rest]
    · simp only [holds, if_false]
      split <;> omega

theorem countP_le_add_of_imp (s : Multiset α) (imp : ∀ a ∈ s, r a → p a ∨ q a) :
    s.countP r ≤ s.countP p + s.countP q := by
  induction s using Multiset.induction_on with
  | empty => simp
  | cons a s induction =>
    have rest := induction fun b member => imp b (Multiset.mem_cons_of_mem member)
    rw [Multiset.countP_cons, Multiset.countP_cons, Multiset.countP_cons]
    by_cases holds : r a
    · rcases imp a (Multiset.mem_cons_self a s) holds with first | second
      · simp only [holds, first, if_true]
        split <;> omega
      · simp only [holds, second, if_true]
        split <;> omega
    · simp only [holds, if_false]
      split <;> split <;> omega

end Multiset

namespace Pass

variable {passes rest more : Multiset Pass} {x : Pass}

theorem countP_single_add (P : Pass → Prop) [DecidablePred P] (rest : Multiset Pass) (x : Pass) :
    (rest + {x}).countP P = rest.countP P + if P x then 1 else 0 := by
  rw [add_comm, Multiset.singleton_add, Multiset.countP_cons]

/-- A ticket that one pass carries, no other pass of the tasks carries. -/
theorem Apart.not_mem (apart : Apart (rest + {x})) {n : Nat} (numbered : x.number = some n) {p : Pass}
    (member : p ∈ rest) : p.number ≠ some n := by
  intro same
  have counted := apart n
  rw [countP_single_add, if_pos numbered] at counted
  have present : 0 < rest.countP fun p => p.number = some n := Multiset.countP_pos_of_mem member same
  omega

theorem Apart.of_add (apart : Apart (rest + more)) : Apart rest := fun n => by
  have counted := apart n
  rw [Multiset.countP_add] at counted
  omega

theorem Apart.countP_le (apart : Apart passes) {P : Pass → Prop} [DecidablePred P] {n : Nat}
    (numbered : ∀ p, P p → p.number = some n) : passes.countP P ≤ 1 :=
  (Multiset.countP_le_of_imp passes fun p _ holds => numbered p holds).trans (apart n)

theorem Apart.flag (apart : Apart passes) {o : Outlet} {n : Nat} {write write' : Bool}
    (first : waiting o n write ∈ passes) (second : waiting o n write' ∈ passes) : write = write' := by
  by_contra different
  obtain ⟨rest, rfl⟩ := Multiset.exists_cons_of_mem first
  have other : waiting o n write' ∈ rest := by
    rcases Multiset.mem_cons.mp second with same | member
    · cases same
      exact absurd rfl different
    · exact member
  have counted := apart n
  rw [Multiset.countP_cons, if_pos (show (waiting o n write).number = some n from rfl)] at counted
  have present : 0 < rest.countP fun p => p.number = some n := Multiset.countP_pos_of_mem other rfl
  omega

/-- The passes at a gate are counted alike in two collections that hold them
alike. -/
theorem countP_congr_at {o : Outlet} {passes' : Multiset Pass}
    (same : ∀ p, p.outlet? = some o → passes'.count p = passes.count p) {P : Pass → Prop} [DecidablePred P]
    (atGate : ∀ p, P p → p.outlet? = some o) : passes'.countP P = passes.countP P := by
  rw [Multiset.countP_eq_card_filter, Multiset.countP_eq_card_filter]
  congr 1
  ext p
  rw [Multiset.count_filter, Multiset.count_filter]
  split
  · next holds => exact same p (atGate p holds)
  · rfl

end Pass

/-- A gate accounts for the passes of the tasks at it: writing excludes readers,
the gate counts at least the readers inside and the readers it granted that have
not come in yet, and it is writing when the writer is inside or granted. Every
queued request has its pass and is not granted, every granted ticket has a pass,
and the queue holds each ticket once. -/
structure Gate.Accounts (g : Gate) (o : Outlet) (passes : Multiset Pass) : Prop where
  sound : g.writing = true → g.readers = 0
  readers : passes.countP (fun p => p.readsAt o = true) +
    passes.countP (fun p => p.grantedAt o g.granted false = true) ≤ g.readers
  writer : passes.countP (fun p => p.writesAt o = true) +
    passes.countP (fun p => p.grantedAt o g.granted true = true) ≤ if g.writing then 1 else 0
  queued : ∀ n write, (n, write) ∈ g.queue → Pass.waiting o n write ∈ passes ∧ n ∉ g.granted
  granted : ∀ n ∈ g.granted, ∃ write, Pass.waiting o n write ∈ passes
  apart : (g.queue.map Prod.fst).Nodup

namespace Gate.Accounts

variable {g : Gate} {o : Outlet} {passes rest : Multiset Pass} {n : Nat}

theorem empty (o : Outlet) : Gate.empty.Accounts o 0 where
  sound writing := absurd writing Bool.false_ne_true
  readers := Nat.le_of_eq rfl
  writer := Nat.le_of_eq rfl
  queued _ _ queued := absurd queued List.not_mem_nil
  granted _ granted := absurd granted List.not_mem_nil
  apart := List.nodup_nil

theorem congr (accounts : g.Accounts o passes) {passes' : Multiset Pass}
    (same : ∀ p, p.outlet? = some o → passes'.count p = passes.count p) : g.Accounts o passes' := by
  have member : ∀ n write, Pass.waiting o n write ∈ passes' ↔ Pass.waiting o n write ∈ passes := by
    intro n write
    rw [← Multiset.count_pos, ← Multiset.count_pos, same _ rfl]
  refine ⟨accounts.sound, ?_, ?_, fun n write queued => ?_, fun n granted => ?_, accounts.apart⟩
  · rw [Pass.countP_congr_at same fun _ => Pass.outlet?_of_readsAt,
      Pass.countP_congr_at same fun _ => Pass.outlet?_of_grantedAt]
    exact accounts.readers
  · rw [Pass.countP_congr_at same fun _ => Pass.outlet?_of_writesAt,
      Pass.countP_congr_at same fun _ => Pass.outlet?_of_grantedAt]
    exact accounts.writer
  · obtain ⟨waiting, fresh⟩ := accounts.queued n write queued
    exact ⟨(member n write).mpr waiting, fresh⟩
  · obtain ⟨write, waiting⟩ := accounts.granted n granted
    exact ⟨write, (member n write).mpr waiting⟩


/-- A pass that is no request keeps out of the requests at a gate. -/
theorem waiting_of_swap {x : Pass} (unnumbered : ∀ m write, x ≠ .waiting o m write) {m : Nat} {write : Bool}
    (member : Pass.waiting o m write ∈ rest + {x}) : Pass.waiting o m write ∈ rest := by
  rcases Multiset.mem_add.mp member with kept | single
  · exact kept
  · exact absurd (Multiset.mem_singleton.mp single).symm (unnumbered m write)

/-- A ticket no other pass carries is neither queued nor granted. -/
theorem fresh_ticket (accounts : g.Accounts o (rest + {.ticket n})) (apart : Pass.Apart (rest + {.ticket n})) :
    n ∉ g.granted ∧ ∀ write, (n, write) ∉ g.queue := by
  have unnumbered : ∀ m write, Pass.ticket n ≠ .waiting o m write := fun _ _ same => by cases same
  refine ⟨fun granted => ?_, fun write queued => ?_⟩
  · obtain ⟨write, waiting⟩ := accounts.granted n granted
    exact apart.not_mem rfl (waiting_of_swap unnumbered waiting) rfl
  · exact apart.not_mem rfl (waiting_of_swap unnumbered (accounts.queued n write queued).1) rfl

theorem enqueue (accounts : g.Accounts o (rest + {.ticket n})) (apart : Pass.Apart (rest + {.ticket n}))
    (write : Bool) : Gate.Accounts { g with queue := g.queue ++ [(n, write)] } o (rest + {.waiting o n write}) := by
  obtain ⟨ungranted, unqueued⟩ := fresh_ticket accounts apart
  have unnumbered : ∀ m write, Pass.ticket n ≠ .waiting o m write := fun _ _ same => by cases same
  have readers := accounts.readers
  have writer := accounts.writer
  rw [Pass.countP_single_add, Pass.countP_single_add, if_neg (by simp), if_neg (by simp)] at readers writer
  refine ⟨accounts.sound, ?_, ?_, fun m write' queued => ?_, fun m granted => ?_, ?_⟩
  · rw [Pass.countP_single_add, Pass.countP_single_add, if_neg (by simp), if_neg (by simp [ungranted])]
    exact readers
  · rw [Pass.countP_single_add, Pass.countP_single_add, if_neg (by simp), if_neg (by simp [ungranted])]
    exact writer
  · rcases List.mem_append.mp queued with old | new
    · obtain ⟨waiting, fresh⟩ := accounts.queued m write' old
      exact ⟨Multiset.mem_add.mpr (.inl (waiting_of_swap unnumbered waiting)), fresh⟩
    · obtain ⟨rfl, rfl⟩ := Prod.mk.inj (List.mem_singleton.mp new)
      exact ⟨Multiset.mem_add.mpr (.inr (Multiset.mem_singleton_self _)), ungranted⟩
  · obtain ⟨write', waiting⟩ := accounts.granted m granted
    exact ⟨write', Multiset.mem_add.mpr (.inl (waiting_of_swap unnumbered waiting))⟩
  · rw [List.map_append, List.nodup_append]
    refine ⟨accounts.apart, List.nodup_singleton _, fun a old b new same => ?_⟩
    obtain ⟨⟨m, write'⟩, queued, rfl⟩ := List.mem_map.mp old
    rw [List.map_singleton, List.mem_singleton] at new
    subst new
    exact unqueued write' (same ▸ queued)

/-- A request to read with a ticket no other pass carries: admitted at once, the
ticket becomes a reader's pass; else it waits in the queue. -/
theorem requestRead (accounts : g.Accounts o (rest + {.ticket n})) (apart : Pass.Apart (rest + {.ticket n})) :
    (g.requestRead n).1.Accounts o
      (rest + {if (g.requestRead n).2 then .reading o else .waiting o n false}) := by
  have unnumbered : ∀ m write, Pass.ticket n ≠ .waiting o m write := fun _ _ same => by cases same
  have readers := accounts.readers
  have writer := accounts.writer
  rw [Pass.countP_single_add, Pass.countP_single_add, if_neg (by simp), if_neg (by simp)] at readers writer
  unfold Gate.requestRead
  split
  · next admitted =>
    simp only [Bool.and_eq_true, List.isEmpty_iff, Bool.not_eq_true'] at admitted
    show Gate.Accounts { g with readers := g.readers + 1 } o (rest + {.reading o})
    refine ⟨fun writing => absurd writing (by simp [admitted.2]), ?_, ?_, fun m write queued => ?_,
      fun m granted => ?_, accounts.apart⟩
    · dsimp only
      rw [Pass.countP_single_add, Pass.countP_single_add, if_pos (by simp), if_neg (by simp)]
      omega
    · rw [Pass.countP_single_add, Pass.countP_single_add, if_neg (by simp), if_neg (by simp)]
      omega
    · simp [admitted.1] at queued
    · obtain ⟨write, waiting⟩ := accounts.granted m granted
      exact ⟨write, Multiset.mem_add.mpr (.inl (waiting_of_swap unnumbered waiting))⟩
  · exact enqueue accounts apart false

/-- A request to write with a ticket no other pass carries: admitted at once, the
ticket becomes the writer's pass; else it waits in the queue. -/
theorem requestWrite (accounts : g.Accounts o (rest + {.ticket n})) (apart : Pass.Apart (rest + {.ticket n})) :
    (g.requestWrite n).1.Accounts o
      (rest + {if (g.requestWrite n).2 then .writing o else .waiting o n true}) := by
  have unnumbered : ∀ m write, Pass.ticket n ≠ .waiting o m write := fun _ _ same => by cases same
  have readers := accounts.readers
  have writer := accounts.writer
  rw [Pass.countP_single_add, Pass.countP_single_add, if_neg (by simp), if_neg (by simp)] at readers writer
  unfold Gate.requestWrite
  split
  · next admitted =>
    simp only [Bool.and_eq_true, List.isEmpty_iff, Bool.not_eq_true', beq_iff_eq] at admitted
    show Gate.Accounts { g with writing := true } o (rest + {.writing o})
    refine ⟨fun _ => admitted.2, ?_, ?_, fun m write queued => ?_, fun m granted => ?_, accounts.apart⟩
    · rw [Pass.countP_single_add, Pass.countP_single_add, if_neg (by simp), if_neg (by simp)]
      exact readers
    · dsimp only
      rw [Pass.countP_single_add, Pass.countP_single_add, if_pos (by simp), if_neg (by simp)]
      rw [admitted.1.2] at writer
      simp only [Bool.false_eq_true, if_false, if_true] at writer ⊢
      omega
    · simp [admitted.1.1] at queued
    · obtain ⟨write, waiting⟩ := accounts.granted m granted
      exact ⟨write, Multiset.mem_add.mpr (.inl (waiting_of_swap unnumbered waiting))⟩
  · exact enqueue accounts apart true

/-- A waiting request whose ticket was granted picks the grant up: its pass
becomes the writer's or a reader's. -/
theorem pickUp {write : Bool} (accounts : g.Accounts o (rest + {.waiting o n write})) {g' : Gate}
    (picked : g.pickUp n = some g') : g'.Accounts o (rest + {if write then .writing o else .reading o}) := by
  unfold Gate.pickUp at picked
  split at picked
  · next granted =>
    cases picked
    have granted : n ∈ g.granted := by simpa using granted
    -- the other passes that wait here are not this one
    have other : ∀ m write', m ≠ n → Pass.waiting o m write' ∈ rest + {.waiting o n write} →
        Pass.waiting o m write' ∈ rest := fun m write' different member => by
      rcases Multiset.mem_add.mp member with kept | single
      · exact kept
      · cases Multiset.mem_singleton.mp single
        exact absurd rfl different
    have fewer : ∀ write', rest.countP (fun p => p.grantedAt o (g.granted.filter (· != n)) write' = true) ≤
        rest.countP (fun p => p.grantedAt o g.granted write' = true) :=
      fun write' => Multiset.countP_le_of_imp rest fun p _ waits => by
        obtain ⟨m, kept, rfl⟩ := Pass.number_of_grantedAt waits
        simp only [List.mem_filter] at kept
        simp [kept.1]
    have readers := accounts.readers
    have writer := accounts.writer
    rw [Pass.countP_single_add, Pass.countP_single_add, if_neg (by simp)] at readers writer
    refine ⟨accounts.sound, ?_, ?_, fun m write' queued => ?_, fun m kept => ?_, accounts.apart⟩
    · have fewer := fewer false
      dsimp only
      rw [Pass.countP_single_add, Pass.countP_single_add]
      cases write <;> simp_all <;> omega
    · have fewer := fewer true
      dsimp only
      rw [Pass.countP_single_add, Pass.countP_single_add]
      cases write <;> simp_all <;> omega
    · obtain ⟨waiting, fresh⟩ := accounts.queued m write' queued
      have different : m ≠ n := fun same => fresh (same ▸ granted)
      exact ⟨Multiset.mem_add.mpr (.inl (other m write' different waiting)),
        fun kept => fresh (List.mem_filter.mp kept).1⟩
    · obtain ⟨old, different⟩ := List.mem_filter.mp kept
      obtain ⟨write', waiting⟩ := accounts.granted m old
      exact ⟨write', Multiset.mem_add.mpr (.inl (other m write' (by simpa using different) waiting))⟩
  · cases picked

/-- Grants from the front of the queue: readers while nobody writes, a writer
when nobody is inside, each to a request that waits with its ticket. -/
theorem admitWaiting (apart : Pass.Apart passes) (l : List (Nat × Bool)) {g : Gate}
    (accounts : Gate.Accounts { g with queue := l } o passes) : (g.admitWaiting l).1.Accounts o passes := by
  induction l generalizing g with
  | nil => exact accounts
  | cons head rest induction =>
    obtain ⟨n, write⟩ := head
    obtain ⟨waiting, ungranted⟩ := accounts.queued n write (List.mem_cons_self)
    have unqueued : n ∉ rest.map Prod.fst := (List.nodup_cons.mp accounts.apart).1
    -- the requests behind the head keep their passes, and are not granted with it
    have behind : ∀ m write', (m, write') ∈ rest → Pass.waiting o m write' ∈ passes ∧ m ∉ g.granted ++ [n] :=
      fun m write' queued => by
        obtain ⟨waiting', fresh⟩ := accounts.queued m write' (List.mem_cons_of_mem _ queued)
        refine ⟨waiting', fun granted => ?_⟩
        rcases List.mem_append.mp granted with old | new
        · exact fresh old
        · rw [List.mem_singleton.mp new] at queued
          exact unqueued (List.mem_map.mpr ⟨_, queued, rfl⟩)
    have granted' : ∀ m ∈ g.granted ++ [n], ∃ write', Pass.waiting o m write' ∈ passes := fun m granted => by
      rcases List.mem_append.mp granted with old | new
      · exact accounts.granted m old
      · exact ⟨write, List.mem_singleton.mp new ▸ waiting⟩
    -- one grant adds at most the head's own pass, and no pass of the other kind
    have more : ∀ write', passes.countP (fun p => p.grantedAt o (g.granted ++ [n]) write' = true) ≤
        passes.countP (fun p => p.grantedAt o g.granted write' = true) +
          passes.countP (fun p => p = .waiting o n write') := fun write' =>
      Multiset.countP_le_add_of_imp passes fun p _ waits => by
        obtain ⟨m, granted, rfl⟩ := Pass.number_of_grantedAt waits
        rcases List.mem_append.mp granted with old | new
        · exact .inl (by simp [old])
        · exact .inr (by rw [List.mem_singleton.mp new])
    have once : ∀ write', passes.countP (fun p => p = .waiting o n write') ≤ 1 :=
      fun write' => apart.countP_le fun p same => by rw [same]; rfl
    have none : ∀ write', write' ≠ write → passes.countP (fun p => p = .waiting o n write') = 0 :=
      fun write' different => Multiset.countP_eq_zero.mpr fun p member same => by
        subst same
        exact different (apart.flag member waiting)
    have readers := accounts.readers
    have writer := accounts.writer
    dsimp only at readers writer
    rw [Gate.admitWaiting]
    cases write with
    | true =>
      rw [if_pos rfl]
      split
      · next free =>
        simp only [Bool.and_eq_true, Bool.not_eq_true', beq_iff_eq] at free
        have noReader := none false (by decide)
        have oneWriter := once true
        have moreReaders := more false
        have moreWriters := more true
        refine ⟨fun _ => free.2, ?_, ?_, behind, granted', (List.nodup_cons.mp accounts.apart).2⟩
        · dsimp only
          omega
        · dsimp only
          rw [free.1] at writer
          simp only [Bool.false_eq_true, if_false, if_true] at writer ⊢
          omega
      · exact accounts
    | false =>
      rw [if_neg Bool.false_ne_true]
      split
      · next free =>
        simp only [Bool.not_eq_true'] at free
        have next := induction (g := { g with readers := g.readers + 1, granted := g.granted ++ [n] })
          ⟨fun writing => absurd writing (by simp [free]), by
            have noWriter := none true (by decide)
            have oneReader := once false
            have moreReaders := more false
            dsimp only
            omega, by
            have noWriter := none true (by decide)
            have moreWriters := more true
            dsimp only
            omega, behind, granted', (List.nodup_cons.mp accounts.apart).2⟩
        revert next
        cases Gate.admitWaiting { g with readers := g.readers + 1, granted := g.granted ++ [n] } rest
        exact id
      · exact accounts

/-- A reader leaves: the gate counts one reader less and grants what it can. -/
theorem releaseRead {p : Pass} (accounts : g.Accounts o (rest + {p})) (apart : Pass.Apart rest)
    (reads : p.readsAt o = true) : g.releaseRead.1.Accounts o rest := by
  have readers := accounts.readers
  have writer := accounts.writer
  have notWaiting : ∀ m write, p ≠ .waiting o m write := fun _ _ same => by subst same; simp at reads
  rw [Pass.countP_single_add, Pass.countP_single_add, if_pos reads,
    if_neg (by simp [Pass.grantedAt_of_readsAt reads])] at readers
  rw [Pass.countP_single_add, Pass.countP_single_add, if_neg (by simp [Pass.writesAt_of_readsAt reads]),
    if_neg (by simp [Pass.grantedAt_of_readsAt reads])] at writer
  -- a reader is inside, so nobody writes
  have reading : g.writing = false := by
    cases writing : g.writing
    · rfl
    · have empty := accounts.sound writing
      omega
  exact admitWaiting apart g.queue ⟨fun writing => absurd writing (by simp [reading]), by dsimp only; omega,
    by dsimp only; exact writer,
    fun m write queued => ⟨waiting_of_swap notWaiting (accounts.queued m write queued).1,
      (accounts.queued m write queued).2⟩,
    fun m granted => by
      obtain ⟨write, waiting⟩ := accounts.granted m granted
      exact ⟨write, waiting_of_swap notWaiting waiting⟩, accounts.apart⟩

/-- The writer leaves: the gate stops writing and grants what it can. -/
theorem releaseWrite (accounts : g.Accounts o (rest + {.writing o})) (apart : Pass.Apart rest) :
    g.releaseWrite.1.Accounts o rest := by
  have readers := accounts.readers
  have writer := accounts.writer
  have notWaiting : ∀ m write, Pass.writing o ≠ .waiting o m write := fun _ _ same => by cases same
  rw [Pass.countP_single_add, Pass.countP_single_add, if_neg (by simp), if_neg (by simp)] at readers
  rw [Pass.countP_single_add, Pass.countP_single_add, if_pos (by simp), if_neg (by simp)] at writer
  -- the writer was the only one counted as writing
  have writing : g.writing = true := by
    cases writing : g.writing
    · rw [writing] at writer
      simp at writer
    · rfl
  rw [writing] at writer
  simp only [if_true] at writer
  exact admitWaiting apart g.queue ⟨fun writing => absurd writing Bool.false_ne_true, by dsimp only; omega,
    by dsimp only; simp only [Bool.false_eq_true, if_false]; omega,
    fun m write queued => ⟨waiting_of_swap notWaiting (accounts.queued m write queued).1,
      (accounts.queued m write queued).2⟩,
    fun m granted => by
      obtain ⟨write, waiting⟩ := accounts.granted m granted
      exact ⟨write, waiting_of_swap notWaiting waiting⟩, accounts.apart⟩

/-- One reader's pass for another: the gate's accounts do not change. -/
theorem swapReader {x y : Pass} (accounts : g.Accounts o (rest + {x})) (readsX : x.readsAt o = true)
    (readsY : y.readsAt o = true) : g.Accounts o (rest + {y}) := by
  have notWaiting : ∀ m write, x ≠ .waiting o m write := fun _ _ same => by subst same; simp at readsX
  have readers := accounts.readers
  have writer := accounts.writer
  rw [Pass.countP_single_add, Pass.countP_single_add, if_pos readsX,
    if_neg (by simp [Pass.grantedAt_of_readsAt readsX])] at readers
  rw [Pass.countP_single_add, Pass.countP_single_add, if_neg (by simp [Pass.writesAt_of_readsAt readsX]),
    if_neg (by simp [Pass.grantedAt_of_readsAt readsX])] at writer
  refine ⟨accounts.sound, ?_, ?_, fun m write queued => ?_, fun m granted => ?_, accounts.apart⟩
  · rw [Pass.countP_single_add, Pass.countP_single_add, if_pos readsY,
      if_neg (by simp [Pass.grantedAt_of_readsAt readsY])]
    exact readers
  · rw [Pass.countP_single_add, Pass.countP_single_add, if_neg (by simp [Pass.writesAt_of_readsAt readsY]),
      if_neg (by simp [Pass.grantedAt_of_readsAt readsY])]
    exact writer
  · obtain ⟨waiting, fresh⟩ := accounts.queued m write queued
    exact ⟨Multiset.mem_add.mpr (.inl (waiting_of_swap notWaiting waiting)), fresh⟩
  · obtain ⟨write, waiting⟩ := accounts.granted m granted
    exact ⟨write, Multiset.mem_add.mpr (.inl (waiting_of_swap notWaiting waiting))⟩

end Gate.Accounts

/-! ## The world's account of the passes -/

theorem World.publishing_modifyPublishing_other (w : World) {o o' : Outlet} (different : o' ≠ o)
    (f : Publishing → Publishing) : (w.modifyPublishing o f).publishing o' = w.publishing o' := by
  rcases World.publishing_modifyPublishing w o o' f with same | ⟨same, -⟩
  · exact same
  · exact absurd same different

/-- A change of one bus that keeps its publisher keeps every publisher. -/
theorem World.publishing_modifyBus_of (w : World) {i : Nat} {f : BusState → BusState}
    (keeps : (f (w.bus i)).publishing = (w.bus i).publishing) (o : Outlet) :
    (w.modifyBus i f).publishing o = w.publishing o := by
  cases o with
  | bus j =>
    rcases World.bus_modifyBus w i j f with same | ⟨rfl, changed⟩
    · simp only [World.publishing, same]
    · simp only [World.publishing, changed, keeps]
  | standalone => rfl

/-- The world accounts for the passes the tasks hold: no two passes carry one
ticket, and every ticket of a pass was handed out; each gate of the world
accounts for the passes at it; a reader that found its publisher open keeps it
open, with the topic it cached in the cache; a sealed cache belongs to a
closed publisher; and no cache holds a topic twice. Beside these, what the background jobs rely on: what is
cached exists, and every handler publishes under the policy. -/
structure Admitted (policy : ProvisioningPolicy) (w : World) (passes : Multiset Pass) : Prop where
  provisioned : Provisioned w
  handlers : HandlersUnder policy w
  apart : Pass.Apart passes
  numbered : ∀ p ∈ passes, ∀ n ∈ p.number, n < w.nextObject
  gates : ∀ o, o.Within w → (w.publishing o).gate.Accounts o passes
  opened : ∀ o topic, o.Within w → Pass.opened o topic ∈ passes →
    (w.publishing o).closed = false ∧ ∀ t ∈ topic, t ∈ (w.publishing o).topics.names
  sealed : ∀ o, o.Within w → (w.publishing o).topics.sealed = true → (w.publishing o).closed = true
  once : ∀ o, o.Within w → (w.publishing o).topics.names.Nodup

/-- A step that passes no gate: it keeps every bus, every gate, every flag and
every seal of a publisher, drops no cached topic and caches none twice, and
takes back no number. -/
structure Unpassed (w w' : World) : Prop where
  length : w'.buses.length = w.buses.length
  numbers : w.nextObject ≤ w'.nextObject
  gate : ∀ o, (w'.publishing o).gate = (w.publishing o).gate
  closed : ∀ o, (w'.publishing o).closed = (w.publishing o).closed
  sealed : ∀ o, (w'.publishing o).topics.sealed = (w.publishing o).topics.sealed
  names : ∀ o, ∀ t ∈ (w.publishing o).topics.names, t ∈ (w'.publishing o).topics.names
  once : ∀ o, (w.publishing o).topics.names.Nodup → (w'.publishing o).topics.names.Nodup

namespace Unpassed

variable {w w' : World}

theorem of_publishing (length : w'.buses.length = w.buses.length) (numbers : w.nextObject ≤ w'.nextObject)
    (same : ∀ o, w'.publishing o = w.publishing o) : Unpassed w w' :=
  ⟨length, numbers, fun o => by rw [same], fun o => by rw [same], fun o => by rw [same],
    fun o _ cached => by rw [same]; exact cached, fun o apart => by rw [same]; exact apart⟩

/-- A step of what no gate reads: the broker, the metrics, the loops and handlers. -/
theorem of_bookkeeping (buses : w'.buses = w.buses) (standalone : w'.standalone = w.standalone)
    (numbers : w.nextObject ≤ w'.nextObject) : Unpassed w w' :=
  of_publishing (by rw [buses]) numbers fun o => by cases o <;> simp [World.publishing, World.bus, buses, standalone]

theorem trans {w'' : World} (first : Unpassed w w') (second : Unpassed w' w'') : Unpassed w w'' where
  length := second.length.trans first.length
  numbers := first.numbers.trans second.numbers
  gate o := (second.gate o).trans (first.gate o)
  closed o := (second.closed o).trans (first.closed o)
  sealed o := (second.sealed o).trans (first.sealed o)
  names o t cached := second.names o t (first.names o t cached)
  once o apart := second.once o (first.once o apart)

/-- Inserting a topic only adds it to a cache that is not sealed. -/
theorem insert (w : World) (o : Outlet) (fresh : TopicRef) :
    Unpassed w (w.modifyPublishing o fun p => { p with topics := (p.topics.insert fresh).1 }) := by
  refine ⟨World.length_modifyPublishing w o _, by cases o <;> exact le_refl _, fun o' => ?_, fun o' => ?_,
    fun o' => ?_, fun o' => ?_, fun o' => ?_⟩
  all_goals rcases World.publishing_modifyPublishing w o o' (fun p => { p with topics := (p.topics.insert fresh).1 })
    with same | ⟨-, changed⟩
  · rw [same]
  · rw [changed]
  · rw [same]
  · rw [changed]
  · rw [same]
  · rw [changed]
    exact TopicCache.sealed_insert _ fresh
  · intro t cached
    rw [same]
    exact cached
  · intro t cached
    rw [changed]
    exact (TopicCache.grows_insert _ fresh).1 t cached
  · rw [same]
    exact id
  · rw [changed]
    exact (TopicCache.grows_insert _ fresh).2

/-- Caching a topic takes a number and only adds the topic to a cache that is
not sealed. -/
theorem cacheTopic (w : World) (o : Outlet) (name : String) : Unpassed w (w.cacheTopic o name).1 := by
  rw [World.cacheTopic_fst]
  have allocated : Unpassed w w.allocate.1 := of_bookkeeping rfl rfl (Nat.le_succ _)
  exact allocated.trans (insert w.allocate.1 o _)

end Unpassed

section Steps

variable {policy : ProvisioningPolicy} {w w' : World}

theorem UngatedJob.unpassed (change : UngatedJob policy w w') : Unpassed w w' := by
  cases change with
  | call c _ => exact .of_bookkeeping rfl rfl (le_refl _)
  | receive channel _ => exact .of_bookkeeping rfl rfl (le_refl _)
  | createTopic name _ => exact .of_bookkeeping rfl rfl (le_refl _)
  | metrics f => exact .of_bookkeeping rfl rfl (le_refl _)
  | allocate => exact .of_bookkeeping rfl rfl (Nat.le_succ _)
  | mint => exact .of_bookkeeping rfl rfl (le_refl _)
  | loops loops => exact .of_bookkeeping rfl rfl (le_refl _)
  | handle handler calls record => exact .of_bookkeeping rfl rfl (le_refl _)
  | cacheTopic o name _ => exact .cacheTopic w o name

theorem Ungated.unpassed (change : Ungated policy w w') : Unpassed w w' := by
  cases change with
  | job change => exact change.unpassed
  | call c => exact .of_bookkeeping rfl rfl (le_refl _)
  | createSubscription name topic ackDeadline _ _ _ => exact .of_bookkeeping rfl rfl (le_refl _)
  | cacheSubscription i handle _ =>
    exact .of_publishing (World.length_modifyBus w i _) (le_refl _)
      (World.publishing_modifyBus w i fun _ => rfl)

theorem TableChange.unpassed {i : Nat} {f : BusState → BusState} (change : TableChange (w.bus i) (f (w.bus i))) :
    Unpassed w (w.modifyBus i f) :=
  .of_publishing (World.length_modifyBus w i f) (le_refl _)
    (World.publishing_modifyBus_of w change.keeps.2.1)

end Steps

namespace Admitted

variable {policy : ProvisioningPolicy} {w w' : World} {passes rest : Multiset Pass}

theorem within {o : Outlet} (unpassed : Unpassed w w') (within : o.Within w') : o.Within w := by
  cases o with
  | bus i =>
    show i < w.buses.length
    rw [← unpassed.length]
    exact within
  | standalone => trivial

/-- A step that passes no gate keeps the world's account of the passes. -/
theorem unpassed (admitted : Admitted policy w passes) (change : Change policy true w w') (unpassed : Unpassed w w') :
    Admitted policy w' passes where
  provisioned := change.provisioned admitted.provisioned
  handlers := change.steady.handlersUnder admitted.handlers
  apart := admitted.apart
  numbered p member n numbered := (admitted.numbered p member n numbered).trans_le unpassed.numbers
  gates o inside := by
    rw [unpassed.gate]
    exact admitted.gates o (Admitted.within unpassed inside)
  opened o topic inside member := by
    obtain ⟨open', cached⟩ := admitted.opened o topic (Admitted.within unpassed inside) member
    exact ⟨(unpassed.closed o).trans open', fun t named => unpassed.names o t (cached t named)⟩
  sealed o inside sealed := by
    rw [unpassed.closed]
    exact admitted.sealed o (Admitted.within unpassed inside) ((unpassed.sealed o).symm.trans sealed)
  once o inside := unpassed.once o (admitted.once o (Admitted.within unpassed inside))

end Admitted

/-! ## Steps at a gate -/

/-- A change of a gate keeps the flag and the cache of every publisher. -/
theorem World.publishing_modifyGate (w : World) (o o' : Outlet) (gate : Gate) :
    ((w.modifyPublishing o ({ · with gate := gate })).publishing o').closed = (w.publishing o').closed ∧
      ((w.modifyPublishing o ({ · with gate := gate })).publishing o').topics = (w.publishing o').topics := by
  rcases World.publishing_modifyPublishing w o o' ({ · with gate := gate }) with same | ⟨-, changed⟩
  · rw [same]
    exact ⟨rfl, rfl⟩
  · rw [changed]
    exact ⟨rfl, rfl⟩

namespace Admitted

variable {policy : ProvisioningPolicy} {w : World} {passes rest : Multiset Pass}

/-- A step at the gate of `o` that changes the passes there only, and uses up
tickets without handing any out: the world's account holds on when the new gate
accounts for the new passes. -/
theorem modifyGate (admitted : Admitted policy w passes) {o : Outlet} {gate : Gate} {passes' : Multiset Pass}
    (accounts : o.Within w → gate.Accounts o passes')
    (fewer : ∀ n, passes'.countP (fun p => p.number = some n) ≤ passes.countP (fun p => p.number = some n))
    (elsewhere : ∀ p o', o' ≠ o → p.outlet? = some o' → passes'.count p = passes.count p)
    (opened : ∀ o t, Pass.opened o t ∈ passes' → Pass.opened o t ∈ passes) :
    Admitted policy (w.modifyPublishing o ({ · with gate := gate })) passes' := by
  have change : Change policy true w (w.modifyPublishing o ({ · with gate := gate })) := .gate w o gate
  -- only the gate of `o` changes
  have kept := fun o' => w.publishing_modifyGate o o' gate
  refine ⟨change.provisioned admitted.provisioned, change.steady.handlersUnder admitted.handlers,
    fun n => (fewer n).trans (admitted.apart n), fun p member n numbered => ?_, fun o' inside => ?_,
    fun o' topic inside member => ?_, fun o' inside sealed => ?_, fun o' inside => ?_⟩
  · -- a ticket of the new passes was carried by a pass before
    have carried : 0 < passes.countP (fun p => p.number = some n) :=
      (Multiset.countP_pos_of_mem member numbered).trans_le (fewer n)
    obtain ⟨q, held, same⟩ := Multiset.countP_pos.mp carried
    have before := admitted.numbered q held n same
    cases o <;> exact before
  · have within := Outlet.within_modifyPublishing inside
    by_cases here : o' = o
    · subst here
      rw [World.publishing_modifyPublishing_self w within]
      exact accounts within
    · rw [World.publishing_modifyPublishing_other w here]
      exact (admitted.gates o' within).congr fun p at' => elsewhere p o' here at'
  · rw [(kept o').1, (kept o').2]
    exact admitted.opened o' topic (Outlet.within_modifyPublishing inside) (opened o' topic member)
  · rw [(kept o').1]
    rw [(kept o').2] at sealed
    exact admitted.sealed o' (Outlet.within_modifyPublishing inside) sealed
  · rw [(kept o').2]
    exact admitted.once o' (Outlet.within_modifyPublishing inside)

theorem count_single_add_at {o o' : Outlet} {x p : Pass} (different : o' ≠ o)
    (atX : ∀ o'', x.outlet? = some o'' → o'' = o) (atP : p.outlet? = some o') :
    (rest + {x}).count p = rest.count p := by
  rw [Multiset.count_add, Multiset.count_singleton, if_neg]
  · rfl
  · rintro rfl
    exact different (atX o' atP)

/-- One pass at the gate of `o` for another: the world's account holds on when
the new gate accounts for it. -/
theorem swapGate {x y : Pass} (admitted : Admitted policy w (rest + {x})) {o : Outlet} {gate : Gate}
    (accounts : o.Within w → gate.Accounts o (rest + {y})) (number : ∀ n, y.number = some n → x.number = some n)
    (atX : ∀ o', x.outlet? = some o' → o' = o) (atY : ∀ o', y.outlet? = some o' → o' = o)
    (notOpened : ∀ o t, y ≠ .opened o t) :
    Admitted policy (w.modifyPublishing o ({ · with gate := gate })) (rest + {y}) := by
  refine admitted.modifyGate accounts (fun n => ?_) (fun p o' different atP => ?_) fun o' t member => ?_
  · rw [Pass.countP_single_add, Pass.countP_single_add]
    by_cases numbered : y.number = some n
    · rw [if_pos numbered, if_pos (number n numbered)]
    · rw [if_neg numbered]
      omega
  · rw [count_single_add_at different atY atP, count_single_add_at different atX atP]
  · rcases Multiset.mem_add.mp member with kept | single
    · exact Multiset.mem_add.mpr (.inl kept)
    · exact absurd (Multiset.mem_singleton.mp single).symm (notOpened o' t)

/-- A pass at the gate of `o` given up: the world's account holds on when the
new gate accounts for the passes left. -/
theorem dropGate {x : Pass} (admitted : Admitted policy w (rest + {x})) {o : Outlet} {gate : Gate}
    (accounts : o.Within w → gate.Accounts o rest) (atX : ∀ o', x.outlet? = some o' → o' = o) :
    Admitted policy (w.modifyPublishing o ({ · with gate := gate })) rest := by
  refine admitted.modifyGate accounts (fun n => ?_) (fun p o' different atP => ?_) fun o' t member =>
    Multiset.mem_add.mpr (.inl member)
  · rw [Pass.countP_single_add]
    omega
  · rw [count_single_add_at different atX atP]

/-- A request at the gate of `o` with a ticket no other pass carries: the ticket
becomes the pass `inside` when the gate lets the request in at once, and a
waiting request otherwise. -/
theorem request {o : Outlet} {n : Nat} {write now : Bool} {gate : Gate} {inside : Pass}
    (admitted : Admitted policy w (rest + {.ticket n}))
    (accounts : o.Within w → gate.Accounts o (rest + {if now then inside else .waiting o n write}))
    (unnumbered : inside.number = none) (at' : inside.outlet? = some o) (notOpened : ∀ o t, inside ≠ .opened o t) :
    Admitted policy (w.modifyPublishing o ({ · with gate := gate }))
      (rest + {if now then inside else .waiting o n write}) := by
  refine admitted.swapGate accounts (fun m numbered => ?_) (fun _ none => by cases none) (fun o' at'' => ?_)
    fun o' t => ?_
  all_goals cases now
  · exact numbered
  · rw [if_pos rfl, unnumbered] at numbered
    cases numbered
  · cases at''
    rfl
  · rw [if_pos rfl, at'] at at''
    exact (Option.some.inj at'').symm
  · exact fun same => by cases same
  · exact (if_pos rfl).trans_ne (notOpened o' t)

theorem requestRead {o : Outlet} {n : Nat} (admitted : Admitted policy w (rest + {.ticket n})) :
    Admitted policy (w.modifyPublishing o ({ · with gate := ((w.publishing o).gate.requestRead n).1 }))
      (rest + {if ((w.publishing o).gate.requestRead n).2 then .reading o else .waiting o n false}) :=
  admitted.request (fun within => (admitted.gates o within).requestRead admitted.apart) rfl rfl
    fun _ _ same => by cases same

theorem requestWrite {o : Outlet} {n : Nat} (admitted : Admitted policy w (rest + {.ticket n})) :
    Admitted policy (w.modifyPublishing o ({ · with gate := ((w.publishing o).gate.requestWrite n).1 }))
      (rest + {if ((w.publishing o).gate.requestWrite n).2 then .writing o else .waiting o n true}) :=
  admitted.request (fun within => (admitted.gates o within).requestWrite admitted.apart) rfl rfl
    fun _ _ same => by cases same

theorem pickUp {o : Outlet} {n : Nat} {write : Bool} {gate : Gate}
    (admitted : Admitted policy w (rest + {.waiting o n write})) (picked : (w.publishing o).gate.pickUp n = some gate) :
    Admitted policy (w.modifyPublishing o ({ · with gate := gate }))
      (rest + {if write then .writing o else .reading o}) := by
  refine admitted.swapGate (fun within => (admitted.gates o within).pickUp picked) (fun m numbered => ?_)
    (fun o' at' => ?_) (fun o' at' => ?_) fun o' t => ?_
  all_goals cases write
  all_goals simp_all [Pass.number, Pass.outlet?]

theorem releaseRead {o : Outlet} {p : Pass} (admitted : Admitted policy w (rest + {p})) (reads : p.readsAt o = true) :
    Admitted policy (w.modifyPublishing o ({ · with gate := (w.publishing o).gate.releaseRead.1 })) rest :=
  admitted.dropGate (fun within => (admitted.gates o within).releaseRead admitted.apart.of_add reads)
    fun _ at' => Option.some.inj (at'.symm.trans (Pass.outlet?_of_readsAt reads))

theorem releaseWrite {o : Outlet} (admitted : Admitted policy w (rest + {.writing o})) :
    Admitted policy (w.modifyPublishing o ({ · with gate := (w.publishing o).gate.releaseWrite.1 })) rest :=
  admitted.dropGate (fun within => (admitted.gates o within).releaseWrite admitted.apart.of_add)
    fun _ at' => (Option.some.inj at').symm

/-- Handing out a ticket: the task that takes it holds a pass with it. -/
theorem allocate (admitted : Admitted policy w rest) :
    Admitted policy w.allocate.1 (rest + {.ticket w.nextObject}) := by
  have change : Change policy true w w.allocate.1 := .allocate w
  have unpassed : Unpassed w w.allocate.1 := .of_bookkeeping rfl rfl (Nat.le_succ _)
  -- no pass carries the new ticket
  have fresh : rest.countP (fun p => p.number = some w.nextObject) = 0 :=
    Multiset.countP_eq_zero.mpr fun p member numbered =>
      absurd (admitted.numbered p member w.nextObject numbered) (lt_irrefl _)
  refine ⟨change.provisioned admitted.provisioned, change.steady.handlersUnder admitted.handlers,
    fun n => ?_, fun p member n numbered => ?_, fun o inside => ?_, fun o topic inside member => ?_,
    (admitted.unpassed change unpassed).sealed, (admitted.unpassed change unpassed).once⟩
  · rw [Pass.countP_single_add]
    by_cases same : n = w.nextObject
    · subst same
      rw [fresh, if_pos (show (Pass.ticket w.nextObject).number = some w.nextObject from rfl)]
    · rw [if_neg (by simp [Pass.number, Ne.symm same])]
      exact admitted.apart n
  · rcases Multiset.mem_add.mp member with held | single
    · exact (admitted.numbered p held n numbered).trans (Nat.lt_succ_self _)
    · rw [Multiset.mem_singleton.mp single] at numbered
      cases numbered
      exact Nat.lt_succ_self _
  · refine ((admitted.unpassed change unpassed).gates o inside).congr fun p at' => ?_
    rw [Multiset.count_add, Multiset.count_singleton, if_neg]
    · rfl
    · rintro rfl
      cases at'
  · rcases Multiset.mem_add.mp member with held | single
    · exact (admitted.unpassed change unpassed).opened o topic inside held
    · cases Multiset.mem_singleton.mp single

/-- The writer sets the flag: no reader is inside to see it set. -/
theorem close {o : Outlet} (admitted : Admitted policy w (rest + {.writing o})) :
    Admitted policy (w.modifyPublishing o ({ · with closed := true })) (rest + {.writing o}) := by
  have change : Change policy true w (w.modifyPublishing o ({ · with closed := true })) := .closePublisher w o
  refine ⟨change.provisioned admitted.provisioned, change.steady.handlersUnder admitted.handlers, admitted.apart,
    fun p member n numbered => ?_, fun o' inside => ?_, fun o' topic inside member => ?_, fun o' inside sealed => ?_,
    fun o' inside => ?_⟩
  · have before := admitted.numbered p member n numbered
    cases o <;> exact before
  all_goals have within := Outlet.within_modifyPublishing inside
  all_goals rcases World.publishing_modifyPublishing w o o' ({ · with closed := true }) with same | ⟨rfl, changed⟩
  · rw [same]
    exact admitted.gates o' within
  · rw [changed]
    exact admitted.gates o' within
  · rw [same]
    exact admitted.opened o' topic within member
  · -- the writer's pass is counted, so nobody reads
    exfalso
    have accounts := admitted.gates o' within
    have writer := accounts.writer
    have readers := accounts.readers
    rw [Pass.countP_single_add, if_pos (by simp)] at writer
    have writing : (w.publishing o').gate.writing = true := by
      cases writing : (w.publishing o').gate.writing
      · rw [writing] at writer
        simp at writer
      · rfl
    have empty := accounts.sound writing
    have reading : 0 < (rest + {.writing o'}).countP fun p => p.readsAt o' = true :=
      Multiset.countP_pos_of_mem member (by simp)
    omega
  · rw [same] at sealed ⊢
    exact admitted.sealed o' within sealed
  · rw [changed]
  · rw [same]
    exact admitted.once o' within
  · rw [changed]
    exact admitted.once o' within

theorem look {o : Outlet} (admitted : Admitted policy w (rest + {.reading o})) (open' : (w.publishing o).closed = false) :
    Admitted policy w (rest + {.opened o none}) := by
  refine ⟨admitted.provisioned, admitted.handlers, fun n => ?_, fun p member n numbered => ?_,
    fun o' inside => ?_, fun o' topic inside member => ?_, admitted.sealed, admitted.once⟩
  · have apart := admitted.apart n
    rw [Pass.countP_single_add] at apart ⊢
    simpa [Pass.number] using apart
  · rcases Multiset.mem_add.mp member with held | single
    · exact admitted.numbered p (Multiset.mem_add.mpr (.inl held)) n numbered
    · rw [Multiset.mem_singleton.mp single] at numbered
      cases numbered
  · by_cases here : o' = o
    · subst here
      exact (admitted.gates o' inside).swapReader (by simp) (by simp)
    · refine (admitted.gates o' inside).congr fun p at' => ?_
      rw [count_single_add_at here (fun _ same => by cases same; rfl) at',
        count_single_add_at here (fun _ same => by cases same; rfl) at']
  · rcases Multiset.mem_add.mp member with held | single
    · exact admitted.opened o' topic inside (Multiset.mem_add.mpr (.inl held))
    · cases Multiset.mem_singleton.mp single
      exact ⟨open', fun t none => by cases none⟩

/-- A reader that found its publisher open names the topic it cached. -/
theorem cache {o : Outlet} {t : String} (admitted : Admitted policy w (rest + {.opened o none}))
    (cached : o.Within w → t ∈ (w.publishing o).topics.names) : Admitted policy w (rest + {.opened o (some t)}) := by
  refine ⟨admitted.provisioned, admitted.handlers, fun n => ?_, fun p member n numbered => ?_,
    fun o' inside => ?_, fun o' topic inside member => ?_, admitted.sealed, admitted.once⟩
  · have apart := admitted.apart n
    rw [Pass.countP_single_add] at apart ⊢
    simpa [Pass.number] using apart
  · rcases Multiset.mem_add.mp member with held | single
    · exact admitted.numbered p (Multiset.mem_add.mpr (.inl held)) n numbered
    · rw [Multiset.mem_singleton.mp single] at numbered
      cases numbered
  · by_cases here : o' = o
    · subst here
      exact (admitted.gates o' inside).swapReader (by simp) (by simp)
    · refine (admitted.gates o' inside).congr fun p at' => ?_
      rw [count_single_add_at here (fun _ same => by cases same; rfl) at',
        count_single_add_at here (fun _ same => by cases same; rfl) at']
  · rcases Multiset.mem_add.mp member with held | single
    · exact admitted.opened o' topic inside (Multiset.mem_add.mpr (.inl held))
    · cases Multiset.mem_singleton.mp single
      refine ⟨(admitted.opened o none inside (Multiset.mem_add.mpr (.inr (Multiset.mem_singleton_self _)))).1,
        fun t' named => ?_⟩
      cases named
      exact cached inside

/-- Draining the cache of a closed publisher: no reader that found it open is
inside. -/
theorem drain {o : Outlet} (admitted : Admitted policy w passes) (closed : o.Within w → (w.publishing o).closed = true) :
    Admitted policy (w.modifyPublishing o fun p => { p with topics := p.topics.drain.2 }) passes := by
  have change : Change policy true w (w.modifyPublishing o fun p => { p with topics := p.topics.drain.2 }) :=
    .drainTopics w o
  refine ⟨change.provisioned admitted.provisioned, change.steady.handlersUnder admitted.handlers, admitted.apart,
    fun p member n numbered => ?_, fun o' inside => ?_, fun o' topic inside member => ?_, fun o' inside sealed => ?_,
    fun o' inside => ?_⟩
  · have before := admitted.numbered p member n numbered
    cases o <;> exact before
  all_goals have within := Outlet.within_modifyPublishing inside
  all_goals rcases World.publishing_modifyPublishing w o o' (fun p => { p with topics := p.topics.drain.2 }) with
    same | ⟨rfl, changed⟩
  · rw [same]
    exact admitted.gates o' within
  · rw [changed]
    exact admitted.gates o' within
  · rw [same]
    exact admitted.opened o' topic within member
  · exact absurd (closed within) (by rw [(admitted.opened o' topic within member).1]; decide)
  · rw [same] at sealed ⊢
    exact admitted.sealed o' within sealed
  · rw [changed]
    exact closed within
  · rw [same]
    exact admitted.once o' within
  · rw [changed]
    exact List.nodup_nil

end Admitted

/-! ## What the account says -/

namespace Admitted

variable {policy : ProvisioningPolicy} {w : World} {passes : Multiset Pass} {o : Outlet}

/-- The writer inside the gate of a publisher excludes every reader there. -/
theorem writer_excludes (admitted : Admitted policy w passes) (within : o.Within w)
    (writing : Pass.writing o ∈ passes) {p : Pass} (member : p ∈ passes) : p.readsAt o = false := by
  have accounts := admitted.gates o within
  have writer := accounts.writer
  have readers := accounts.readers
  have counted : 0 < passes.countP fun p => p.writesAt o = true := Multiset.countP_pos_of_mem writing (by simp)
  -- the writer is counted, so the gate is writing, and then it counts no reader
  have busy : (w.publishing o).gate.writing = true := by
    cases busy : (w.publishing o).gate.writing
    · rw [busy, if_neg Bool.false_ne_true] at writer
      omega
    · rfl
  have empty := accounts.sound busy
  cases reads : p.readsAt o
  · rfl
  · have reading : 0 < passes.countP fun p => p.readsAt o = true := Multiset.countP_pos_of_mem member reads
    omega

/-- A reader that found its publisher open keeps it open and its cache unsealed,
with the topic it cached in the cache. -/
theorem open_of_opened (admitted : Admitted policy w passes) (within : o.Within w) {topic : Option String}
    (member : Pass.opened o topic ∈ passes) :
    (w.publishing o).closed = false ∧ (w.publishing o).topics.sealed = false ∧
      ∀ t ∈ topic, t ∈ (w.publishing o).topics.names := by
  obtain ⟨open', cached⟩ := admitted.opened o topic within member
  refine ⟨open', ?_, cached⟩
  cases sealed : (w.publishing o).topics.sealed
  · rfl
  · rw [admitted.sealed o within sealed] at open'
    cases open'

end Admitted

/-! ## The protocol of passes -/

section Protocol

variable {policy : ProvisioningPolicy} {w w' : World}

/-- Tasks that hold passes at the gates of the publishers, among callers. -/
def admissions (policy : ProvisioningPolicy) : Protocol World (Multiset Pass) where
  inv := Admitted policy
  rely := Relation.ReflTransGen (Stepped policy)
  -- the rely of the reservations protocol: any run of caller steps
  rely_refl := (reservations policy).rely_refl
  rely_trans := (reservations policy).rely_trans

/-- The steps a task may take holding any passes: the steps of callers that keep
the world's account of the passes whatever they are. -/
abbrev PassFree (policy : ProvisioningPolicy) : World → World → Prop :=
  (admissions policy).Keeping (Stepped policy)

theorem passFree_ungated : ∀ w w', Ungated policy w w' → PassFree policy w w' :=
  fun _ _ change => ⟨.free change.tableFree, fun _ admitted =>
    Admitted.unpassed admitted change.tableFree.guarantee change.unpassed⟩

theorem passFree_job : ∀ w w', UngatedJob policy w w' → PassFree policy w w' :=
  fun _ _ change => passFree_ungated _ _ (.job change)

theorem passFree_table {i : Nat} {f : BusState → BusState} (change : TableChange (w.bus i) (f (w.bus i))) :
    PassFree policy w (w.modifyBus i f) :=
  ⟨.table w i f change, fun _ admitted =>
    Admitted.unpassed admitted (Stepped.table w i f change).tidy.1 change.unpassed⟩

/-- Steps that need no pass allow what callers that pass no gate do. -/
instance Guarantee.passFree : Guarantee.UngatedCaller policy (PassFree policy) where
  ofJob change := passFree_ungated _ _ (.job change)
  toChange step := step.1.tidy.1
  call w c := passFree_ungated _ _ (.call w c)
  createSubscription w name topic ackDeadline allowed present dead :=
    passFree_ungated _ _ (.createSubscription w name topic ackDeadline allowed present dead)
  cacheSubscription w i handle present := passFree_ungated _ _ (.cacheSubscription w i handle present)
  table _ _ _ change := passFree_table change

theorem admissions_fits : (admissions policy).Fits (PassFree policy) (Stepped policy) :=
  Protocol.fits_keeping fun _ _ related => related

/-- A step that changes a task's passes from `a` to `b` and keeps the world's
account of every other pass keeps the protocol, whatever else the task holds. -/
theorem admissions_update {g a b : Multiset Pass}
    (step : ∀ rest, Admitted policy w (rest + a) → Admitted policy w' (rest + b)) :
    (admissions policy).Update (g + a) w (g + b) w' := fun frame holds => by
  have moved := step (g + frame) (by rw [add_right_comm]; exact holds)
  rw [add_right_comm] at moved
  exact moved

/-- A step that hands the task the passes `b` beside what it holds. -/
theorem admissions_give {g b : Multiset Pass} (step : ∀ rest, Admitted policy w rest → Admitted policy w' (rest + b)) :
    (admissions policy).Update g w (g + b) w' := fun frame holds => by
  have moved := step (g + frame) holds
  rw [add_right_comm] at moved
  exact moved

theorem admissions_drop {g a : Multiset Pass} (step : ∀ rest, Admitted policy w (rest + a) → Admitted policy w' rest) :
    (admissions policy).Update (g + a) w g w' := fun frame holds =>
  step (g + frame) (by rw [add_right_comm]; exact holds)

theorem admissions_keep {g : Multiset Pass} (step : ∀ passes, Admitted policy w passes → Admitted policy w' passes) :
    (admissions policy).Update g w g w' := fun frame holds => step (g + frame) holds

end Protocol

end Courier
