import Mathlib
import Courier.Proofs.Bus.Racing

namespace Courier

/-! # Reservations belong to the subscribe that made them

A subscribe call reserves its name in the table of its bus before it resolves
the subscription, and later promotes the reservation to a running binding or
withdraws it. Other calls never touch a reservation: an unsubscribe of a
reserved name detaches nothing, and a shutdown first refuses subscribers and
only then takes the whole table.

The reservations protocol makes this a matter of ownership. A subscribe call
that reserves a name takes a token for it, bus and name; the invariant reads
the tokens of all tasks together: on each bus every reserved name is held by
one token, and each token names a reservation or one a shutdown took. So the
stretch of a task that removes or promotes a reservation on a bus that still
accepts subscribers holds its token, and no other task does. The invariant
also keeps each table consistent and its registrations one for each running
binding. -/

namespace List

variable {α β : Type} [BEq α] [LawfulBEq α]

theorem lookup_filter_ne (l : List (α × β)) (name k : α) :
    (l.filter (·.1 != name)).lookup k = if k == name then none else l.lookup k := by
  induction l with
  | nil => simp
  | cons e rest induction =>
    obtain ⟨k', v⟩ := e
    by_cases removed : k' = name
    · subst removed
      rw [List.filter_cons_of_neg (by simp), induction]
      cases found : k == k' <;> simp [found, List.lookup_cons]
    · rw [List.filter_cons_of_pos (by simpa using removed), List.lookup_cons, List.lookup_cons, induction]
      cases found : k == k' with
      | true =>
        have named : (k == name) = false := by
          rw [beq_iff_eq.mp found]
          simpa using removed
        simp [named]
      | false => rfl

theorem lookup_map_value (l : List (α × β)) (f : α → β → β) (k : α) :
    (l.map fun e => (e.1, f e.1 e.2)).lookup k = (l.lookup k).map (f k) := by
  induction l with
  | nil => simp
  | cons e rest induction =>
    obtain ⟨k', v⟩ := e
    rw [List.map_cons, List.lookup_cons, List.lookup_cons]
    cases found : k == k' with
    | true => rw [beq_iff_eq.mp found]; rfl
    | false => exact induction

/-- In a list whose keys are apart, an entry is what its key looks up. -/
theorem lookup_of_mem {l : List (α × β)} (apart : (l.map (·.1)).Nodup) {k : α} {v : β} (member : (k, v) ∈ l) :
    l.lookup k = some v := by
  induction l with
  | nil => cases member
  | cons e rest induction =>
    obtain ⟨k', v'⟩ := e
    rw [List.map_cons, List.nodup_cons] at apart
    rcases List.mem_cons.mp member with same | later
    · cases same
      simp
    · have other : (k == k') = false :=
        beq_eq_false_iff_ne.mpr fun same => apart.1 (List.mem_map.mpr ⟨(k, v), later, same⟩)
      rw [List.lookup_cons, other]
      exact induction apart.2 later

end List

theorem promote_entries (bindings : List (String × Binding)) (name : String) (active : ActiveSubscription) :
    bindings.map (fun (n, e) => if n == name then (n, Binding.running active) else (n, e)) =
      bindings.map fun e => (e.1, if e.1 == name then .running active else e.2) := by
  apply List.map_congr_left
  intro e _
  obtain ⟨n, v⟩ := e
  dsimp only
  split <;> rfl

namespace BusState

variable {b : BusState}

@[simp] theorem bindings_unbind (b : BusState) (name : String) :
    (b.unbind name).bindings = b.bindings.filter (·.1 != name) := rfl

@[simp] theorem registrations_unbind (b : BusState) (name : String) :
    (b.unbind name).registrations = b.registrations := rfl

@[simp] theorem shuttingDown_unbind (b : BusState) (name : String) :
    (b.unbind name).shuttingDown = b.shuttingDown := rfl

theorem isReserved_iff (b : BusState) (n : String) : b.isReserved n = true ↔ b.binding? n = some .reserved := by
  unfold isReserved
  split <;> simp_all

theorem binding?_unbind (b : BusState) (name n : String) :
    (b.unbind name).binding? n = if n = name then none else b.binding? n := by
  unfold unbind binding?
  rw [List.lookup_filter_ne]
  simp

theorem binding?_reserve (b : BusState) (name n : String) :
    ({ b with bindings := b.bindings ++ [(name, .reserved)] } : BusState).binding? n =
      (b.binding? n).or (if n = name then some .reserved else none) := by
  unfold binding?
  rw [List.lookup_append]
  by_cases named : n = name
  · simp [named]
  · simp [named, List.lookup_cons, beq_eq_false_iff_ne.mpr named]

theorem binding?_promote (b : BusState) (name n : String) (active : ActiveSubscription)
    (registrations : List Registration) :
    ({ b with bindings := b.bindings.map (fun (n, e) => if n == name then (n, Binding.running active) else (n, e)),
              registrations := registrations } : BusState).binding? n =
      if n = name then (b.binding? n).map fun _ => .running active else b.binding? n := by
  unfold binding?
  rw [promote_entries, List.lookup_map_value b.bindings (fun k e => if k == name then .running active else e) n]
  by_cases named : n = name <;> simp [named]

/-- A reserved name has no running binding on a consistent bus. -/
theorem Consistent.not_running (consistent : b.Consistent) {n : String} (reserved : b.isReserved n = true)
    (a : ActiveSubscription) : (n, Binding.running a) ∉ b.bindings := by
  intro member
  have found := List.lookup_of_mem consistent.bound member
  rw [isReserved_iff] at reserved
  unfold binding? at reserved
  rw [found] at reserved
  cases reserved

/-- The registrations of a bus follow its running bindings: one registration
for each name bound to a running loop, and none for any other name. -/
structure Registered (b : BusState) : Prop where
  apart : (b.registrations.map (·.subscription)).Nodup
  running : ∀ n, n ∈ b.registrations.map (·.subscription) ↔ ∃ a, (n, Binding.running a) ∈ b.bindings

namespace Registered

theorem reserve (registered : b.Registered) (name : String) :
    { b with bindings := b.bindings ++ [(name, Binding.reserved)] }.Registered where
  apart := registered.apart
  running n := by
    rw [registered.running]
    simp

theorem promote (consistent : b.Consistent) (registered : b.Registered) {name : String}
    (reserved : b.isReserved name = true) (active : ActiveSubscription) {registration : Registration}
    (named : registration.subscription = name) :
    { b with bindings := b.bindings.map (fun (n, e) => if n == name then (n, Binding.running active) else (n, e)),
             registrations := b.registrations ++ [registration] }.Registered where
  apart := by
    -- the promoted name had no registration, having no running binding
    have unregistered : name ∉ b.registrations.map (·.subscription) := by
      rw [registered.running]
      rintro ⟨a, member⟩
      exact consistent.not_running reserved a member
    rw [List.map_append, List.map_singleton, named]
    exact List.nodup_append.mpr ⟨registered.apart, List.nodup_singleton _,
      fun n old n' single same => unregistered (by rw [List.mem_singleton.mp single] at same; exact same ▸ old)⟩
  running n := by
    rw [List.map_append, List.map_singleton, named, List.mem_append, List.mem_singleton, registered.running,
      promote_entries]
    constructor
    · rintro (⟨a, member⟩ | rfl)
      · -- a name bound to a running loop before is not the promoted one
        have other : n ≠ name := by
          rintro rfl
          exact consistent.not_running reserved a member
        exact ⟨a, List.mem_map.mpr ⟨_, member, by simp [other]⟩⟩
      · rw [isReserved_iff] at reserved
        obtain ⟨before, after, split⟩ := List.lookup_eq_some_iff.mp reserved
        exact ⟨active, List.mem_map.mpr ⟨(n, .reserved), by simp [split], by simp⟩⟩
    · rintro ⟨a, member⟩
      obtain ⟨⟨n', e⟩, old, same⟩ := List.mem_map.mp member
      by_cases promoted : n' = name
      · subst promoted
        simp only [beq_self_eq_true, if_true, Prod.mk.injEq] at same
        exact .inr same.1.symm
      · simp only [beq_eq_false_iff_ne.mpr promoted, Prod.mk.injEq] at same
        obtain ⟨rfl, rfl⟩ := same
        exact .inl ⟨a, old⟩

theorem unbind (registered : b.Registered) {name : String} (idle : ∀ a, (name, Binding.running a) ∉ b.bindings) :
    (b.unbind name).Registered where
  apart := registered.apart
  running n := by
    rw [registrations_unbind, registered.running, bindings_unbind]
    constructor
    · rintro ⟨a, member⟩
      have other : n ≠ name := by
        rintro rfl
        exact idle a member
      exact ⟨a, List.mem_filter.mpr ⟨member, by simpa using other⟩⟩
    · rintro ⟨a, member⟩
      exact ⟨a, (List.mem_filter.mp member).1⟩

theorem unsubscribe (registered : b.Registered) (name : String) :
    { b.unbind name with registrations := b.registrations.filter (·.subscription != name) }.Registered where
  apart := (List.filter_sublist.map _).nodup registered.apart
  running n := by
    have before := registered.running n
    simp only [List.mem_map, List.mem_filter, bindings_unbind] at before ⊢
    constructor
    · rintro ⟨reg, ⟨member, kept⟩, rfl⟩
      obtain ⟨a, bound⟩ := before.mp ⟨reg, member, rfl⟩
      exact ⟨a, bound, kept⟩
    · rintro ⟨a, bound, kept⟩
      obtain ⟨reg, member, rfl⟩ := before.mpr ⟨a, bound⟩
      exact ⟨reg, ⟨member, kept⟩, rfl⟩

theorem clear : { b with bindings := [], registrations := [] }.Registered :=
  ⟨List.nodup_nil, by simp⟩

/-- Every change of a consistent table keeps its registrations following its
running bindings: a registration is added with the promotion that starts its
binding running, and goes with the binding it follows. -/
theorem tableChange (consistent : b.Consistent) (registered : b.Registered) {b' : BusState}
    (change : TableChange b b') : b'.Registered := by
  cases change with
  | reserve name _ _ => exact registered.reserve name
  | promote name active registration reserved _ _ named => exact registered.promote consistent reserved active named
  | release name =>
    split
    · next reserved => exact registered.unbind (consistent.not_running reserved)
    · exact registered
  | withdraw name reserved => exact registered.unbind (consistent.not_running reserved)
  | forget name => exact ⟨registered.apart, registered.running⟩
  | unsubscribe name _ => exact registered.unsubscribe name
  | refuse => exact ⟨registered.apart, registered.running⟩
  | clear => exact clear
  | drain => exact ⟨registered.apart, registered.running⟩

end Registered

/-- How one change of a table moves its registrations: not at all; by one more
after the others, for the reserved name that a promotion starts running; by
the registration of a name that loses its entry; or by all of them, with the
whole table. So they stay in the order their bindings started running. -/
inductive RegistrationsMove (b b' : BusState) : Prop
  | kept : b'.registrations = b.registrations → RegistrationsMove b b'
  | added (registration : Registration) : b.isReserved registration.subscription = true →
      (∃ a, b'.binding? registration.subscription = some (.running a)) →
      b'.registrations = b.registrations ++ [registration] → RegistrationsMove b b'
  | removed (n : String) : b'.binding? n = none →
      b'.registrations = b.registrations.filter (·.subscription != n) → RegistrationsMove b b'
  | cleared : b'.bindings = [] → b'.registrations = [] → RegistrationsMove b b'

/-- Two states of a bus with one table: the same bindings, registrations and
refusal of subscribers. -/
structure SameTable (b b' : BusState) : Prop where
  bindings : b'.bindings = b.bindings
  registrations : b'.registrations = b.registrations
  shuttingDown : b'.shuttingDown = b.shuttingDown

theorem SameTable.binding? {b b' : BusState} (same : SameTable b b') (n : String) : b'.binding? n = b.binding? n := by
  unfold BusState.binding?
  rw [same.bindings]

theorem SameTable.isReserved {b b' : BusState} (same : SameTable b b') (n : String) :
    b'.isReserved n = b.isReserved n := by
  unfold BusState.isReserved
  rw [same.binding? n]

/-- The reservations of a bus, told by the names the subscribe calls hold: every
reserved name is held, each by one call, and a held name is reserved, or its
entry was taken by a shutdown. The table is consistent and its registrations
follow its running bindings. -/
structure Accounted (b : BusState) (names : Multiset String) : Prop where
  consistent : b.Consistent
  registered : b.Registered
  apart : names.Nodup
  held : ∀ n, b.isReserved n = true → n ∈ names
  reserved : ∀ n ∈ names, b.isReserved n = true ∨ (b.shuttingDown = true ∧ b.binding? n = none)

theorem Registered.sameTable (registered : b.Registered) {b' : BusState} (same : SameTable b b') :
    b'.Registered :=
  ⟨same.registrations ▸ registered.apart, fun n => by
    rw [same.registrations, same.bindings]
    exact registered.running n⟩

namespace Accounted

variable {names : Multiset String}

theorem sameTable (holds : b.Accounted names) {b' : BusState} (consistent : b'.Consistent)
    (same : SameTable b b') : b'.Accounted names where
  consistent := consistent
  registered := holds.registered.sameTable same
  apart := holds.apart
  held n reserved := holds.held n (same.isReserved n ▸ reserved)
  reserved n member := by
    rw [same.isReserved, same.shuttingDown, same.binding?]
    exact holds.reserved n member

/-- A name free on a bus that accepts subscribers is held by no call. -/
theorem not_held (holds : b.Accounted names) {n : String} (free : b.binding? n = none)
    (accepting : b.shuttingDown = false) : n ∉ names := by
  intro member
  rcases holds.reserved n member with reserved | ⟨refusing, _⟩
  · rw [isReserved_iff, free] at reserved
    cases reserved
  · rw [accepting] at refusing
    cases refusing

/-- A reservation of a free name on a bus that accepts subscribers is held by
the call that makes it. -/
theorem reserve (holds : b.Accounted names) {n : String} (free : b.binding? n = none)
    (accepting : b.shuttingDown = false) :
    { b with bindings := b.bindings ++ [(n, Binding.reserved)] }.Accounted (n ::ₘ names) where
  consistent := holds.consistent.reserve free
  registered := holds.registered.reserve n
  apart := Multiset.nodup_cons.mpr ⟨holds.not_held free accepting, holds.apart⟩
  held m reserved := by
    rw [isReserved_iff, binding?_reserve] at reserved
    by_cases named : m = n
    · exact named ▸ Multiset.mem_cons_self n names
    · rw [if_neg named, Option.or_none, ← isReserved_iff] at reserved
      exact Multiset.mem_cons_of_mem (holds.held m reserved)
  reserved m member := by
    left
    rw [isReserved_iff, binding?_reserve]
    rcases Multiset.mem_cons.mp member with rfl | old
    · rw [free, if_pos rfl]
      rfl
    · rcases holds.reserved m old with reserved | ⟨refusing, _⟩
      · rw [isReserved_iff] at reserved
        rw [reserved]
        rfl
      · rw [accepting] at refusing
        cases refusing

/-- A promotion of a reservation gives up the name its call held. -/
theorem promote (holds : b.Accounted (n ::ₘ names)) (reserved : b.isReserved n = true)
    (accepting : b.shuttingDown = false) {active : ActiveSubscription} (runs : active.handle.name = n)
    {registration : Registration} (named : registration.subscription = n) :
    { b with bindings := b.bindings.map (fun (m, e) => if m == n then (m, Binding.running active) else (m, e)),
             registrations := b.registrations ++ [registration] }.Accounted names where
  consistent := holds.consistent.promote runs _
  registered := holds.registered.promote holds.consistent reserved active named
  apart := (Multiset.nodup_cons.mp holds.apart).2
  held m promoted := by
    rw [isReserved_iff, binding?_promote] at promoted
    by_cases same : m = n
    · rw [if_pos same] at promoted
      simp at promoted
    · rw [if_neg same, ← isReserved_iff] at promoted
      exact (Multiset.mem_cons.mp (holds.held m promoted)).resolve_left same
  reserved m member := by
    have other : m ≠ n := by
      rintro rfl
      exact (Multiset.nodup_cons.mp holds.apart).1 member
    left
    rw [isReserved_iff, binding?_promote, if_neg other, ← isReserved_iff]
    rcases holds.reserved m (Multiset.mem_cons_of_mem member) with reserved | ⟨refusing, _⟩
    · exact reserved
    · rw [accepting] at refusing
      cases refusing

theorem unbind (holds : b.Accounted (n ::ₘ names)) (reserved : b.isReserved n = true) :
    (b.unbind n).Accounted names where
  consistent := holds.consistent.unbind n
  registered := holds.registered.unbind (holds.consistent.not_running reserved)
  apart := (Multiset.nodup_cons.mp holds.apart).2
  held m left := by
    rw [isReserved_iff, binding?_unbind] at left
    by_cases same : m = n
    · rw [if_pos same] at left
      cases left
    · rw [if_neg same, ← isReserved_iff] at left
      exact (Multiset.mem_cons.mp (holds.held m left)).resolve_left same
  reserved m member := by
    have other : m ≠ n := by
      rintro rfl
      exact (Multiset.nodup_cons.mp holds.apart).1 member
    rw [isReserved_iff, binding?_unbind, if_neg other, ← isReserved_iff, shuttingDown_unbind]
    exact holds.reserved m (Multiset.mem_cons_of_mem member)

/-- A call whose name is no longer reserved may give it up. -/
theorem drop (holds : b.Accounted (n ::ₘ names)) (unreserved : b.isReserved n = false) : b.Accounted names where
  consistent := holds.consistent
  registered := holds.registered
  apart := (Multiset.nodup_cons.mp holds.apart).2
  held m reserved := by
    have other : m ≠ n := by
      rintro rfl
      rw [unreserved] at reserved
      cases reserved
    exact (Multiset.mem_cons.mp (holds.held m reserved)).resolve_left other
  reserved m member := holds.reserved m (Multiset.mem_cons_of_mem member)

/-- Releasing a reservation, if it is still there, gives up the name its call
held. -/
theorem release (holds : b.Accounted (n ::ₘ names)) :
    (if b.isReserved n then b.unbind n else b).Accounted names := by
  split
  · next reserved => exact holds.unbind reserved
  · next unreserved => exact holds.drop (by simpa using unreserved)

/-- Detaching a name that is not reserved keeps every call's names accounted. -/
theorem unsubscribe (holds : b.Accounted names) (unreserved : b.isReserved n = false) :
    { b.unbind n with registrations := b.registrations.filter (·.subscription != n) }.Accounted names where
  consistent := holds.consistent.tableChange (.unsubscribe n unreserved)
  registered := holds.registered.unsubscribe n
  apart := holds.apart
  held m left := by
    rw [isReserved_iff] at left
    change (b.unbind n).binding? m = some .reserved at left
    rw [binding?_unbind] at left
    by_cases same : m = n
    · rw [if_pos same] at left
      cases left
    · rw [if_neg same, ← isReserved_iff] at left
      exact holds.held m left
  reserved m member := by
    rw [isReserved_iff]
    change (b.unbind n).binding? m = some .reserved ∨ b.shuttingDown = true ∧ (b.unbind n).binding? m = none
    rw [binding?_unbind]
    by_cases same : m = n
    · -- the detached name was not reserved, so its entry was taken by a shutdown
      subst same
      rw [if_pos rfl]
      rcases holds.reserved m member with reserved | ⟨refusing, _⟩
      · rw [unreserved] at reserved
        cases reserved
      · exact .inr ⟨refusing, rfl⟩
    · rw [if_neg same, ← isReserved_iff]
      exact holds.reserved m member

theorem refuse (holds : b.Accounted names) : { b with shuttingDown := true }.Accounted names where
  consistent := ⟨holds.consistent.topics, holds.consistent.cached, holds.consistent.bound, holds.consistent.named⟩
  registered := ⟨holds.registered.apart, holds.registered.running⟩
  apart := holds.apart
  held := holds.held
  reserved m member := (holds.reserved m member).imp_right fun taken => ⟨rfl, taken.2⟩

/-- A bus that refuses subscribers may lose its whole table: the names the
calls hold are then all taken by the shutdown. -/
theorem clear (holds : b.Accounted names) (refusing : b.shuttingDown = true) :
    { b with bindings := [], registrations := [] }.Accounted names where
  consistent := holds.consistent.tableChange .clear
  registered := Registered.clear
  apart := holds.apart
  held m reserved := by
    simp [isReserved_iff, binding?] at reserved
  reserved _ _ := .inr ⟨refusing, rfl⟩

end Accounted

end BusState

/-- On a bus that refuses subscribers, a name without an entry keeps none: only
a subscribe on a bus that accepts them reserves a name. -/
theorem TableChange.taken {b b' : BusState} (change : TableChange b b') {n : String}
    (refusing : b.shuttingDown = true) (free : b.binding? n = none) :
    b'.shuttingDown = true ∧ b'.binding? n = none := by
  refine ⟨change.refusing refusing, ?_⟩
  cases change with
  | reserve name _ accepting => exact absurd accepting (by simp [refusing])
  | promote name active registration _ accepting _ _ => exact absurd accepting (by simp [refusing])
  | release name =>
    split
    · rw [BusState.binding?_unbind]
      split <;> simp [free]
    · exact free
  | withdraw name _ =>
    rw [BusState.binding?_unbind]
    split <;> simp [free]
  | forget name => exact free
  | unsubscribe name _ =>
    change (b.unbind name).binding? n = none
    rw [BusState.binding?_unbind]
    split <;> simp [free]
  | refuse => exact free
  | clear => rfl
  | drain => exact free

theorem TableChange.registrationsMove {b b' : BusState} (change : TableChange b b') : b.RegistrationsMove b' := by
  cases change with
  | promote name active registration reserved _ _ named =>
    refine .added registration (named ▸ reserved) ⟨active, ?_⟩ rfl
    rw [BusState.binding?_promote, named, if_pos rfl, (BusState.isReserved_iff b name).mp reserved]
    rfl
  | release name =>
    split
    · exact .kept rfl
    · exact .kept rfl
  | unsubscribe name _ =>
    refine .removed name ?_ rfl
    change (b.unbind name).binding? name = none
    rw [BusState.binding?_unbind, if_pos rfl]
  | clear => exact .cleared rfl rfl
  | _ => exact .kept rfl

/-- The names a collection of tokens holds on one bus. -/
def tokensOn (tokens : Multiset (Nat × String)) (i : Nat) : Multiset String :=
  (tokens.filter (·.1 = i)).map (·.2)

theorem mem_tokensOn {tokens : Multiset (Nat × String)} {i : Nat} {n : String} :
    n ∈ tokensOn tokens i ↔ (i, n) ∈ tokens := by
  unfold tokensOn
  rw [Multiset.mem_map]
  constructor
  · rintro ⟨⟨j, m⟩, member, rfl⟩
    obtain ⟨inside, rfl⟩ := Multiset.mem_filter.mp member
    exact inside
  · intro member
    exact ⟨(i, n), Multiset.mem_filter.mpr ⟨member, rfl⟩, rfl⟩

theorem tokensOn_add (tokens tokens' : Multiset (Nat × String)) (i : Nat) :
    tokensOn (tokens + tokens') i = tokensOn tokens i + tokensOn tokens' i := by
  simp [tokensOn]

theorem tokensOn_cons_self (tokens : Multiset (Nat × String)) (i : Nat) (n : String) :
    tokensOn ((i, n) ::ₘ tokens) i = n ::ₘ tokensOn tokens i := by
  simp [tokensOn]

theorem tokensOn_cons_other (tokens : Multiset (Nat × String)) {i j : Nat} (n : String) (other : j ≠ i) :
    tokensOn ((i, n) ::ₘ tokens) j = tokensOn tokens j := by
  simp [tokensOn, Multiset.filter_cons_of_neg, Ne.symm other]

theorem add_singleton_add {γ : Type} (g frame : Multiset γ) (x : γ) : g + {x} + frame = x ::ₘ (g + frame) := by
  rw [add_right_comm, add_comm, Multiset.singleton_add]

theorem World.bus_outside {w : World} {i : Nat} (outside : w.buses.length ≤ i) : w.bus i = .fresh .standard := by
  simp [World.bus, List.getElem?_eq_none outside]

/-- No bus out of range has a binding, so a reserved name is on a bus in range. -/
theorem World.within_of_reserved {w : World} {i : Nat} {n : String} (reserved : (w.bus i).isReserved n = true) :
    i < w.buses.length := by
  by_contra outside
  rw [World.bus_outside (Nat.le_of_not_lt outside)] at reserved
  cases reserved

theorem World.sameTable_modifyBus (w : World) (i : Nat) (f : BusState → BusState)
    (same : ∀ b, BusState.SameTable b (f b)) (j : Nat) : BusState.SameTable (w.bus j) ((w.modifyBus i f).bus j) := by
  rcases World.bus_modifyBus w i j f with kept | ⟨-, changed⟩
  · rw [kept]
    exact ⟨rfl, rfl, rfl⟩
  · rw [changed]
    exact same _

theorem World.sameTable_modifyPublishing (w : World) (o : Outlet) (f : Publishing → Publishing) (j : Nat) :
    BusState.SameTable (w.bus j) ((w.modifyPublishing o f).bus j) := by
  cases o with
  | bus i => exact World.sameTable_modifyBus w i _ (fun _ => by exact ⟨rfl, rfl, rfl⟩) j
  | standalone => exact ⟨rfl, rfl, rfl⟩

/-- A change that leaves tables alone leaves every bus's table as it was. -/
theorem TableFree.sameTable {policy : ProvisioningPolicy} {w w' : World} (change : TableFree policy w w') (j : Nat) :
    BusState.SameTable (w.bus j) (w'.bus j) := by
  cases change with
  | job change =>
    cases change with
    | gate _ o _ => exact World.sameTable_modifyPublishing w o _ j
    | cacheTopic _ o name _ =>
      rw [World.cacheTopic_fst]
      exact World.sameTable_modifyPublishing w.allocate.1 o _ j
    | _ => exact ⟨rfl, rfl, rfl⟩
  | call c => exact ⟨rfl, rfl, rfl⟩
  | createSubscription name topic ackDeadline _ _ _ => exact ⟨rfl, rfl, rfl⟩
  | cacheSubscription i handle _ => exact World.sameTable_modifyBus w i _ (fun _ => by exact ⟨rfl, rfl, rfl⟩) j
  | closePublisher o => exact World.sameTable_modifyPublishing w o _ j
  | drainTopics o => exact World.sameTable_modifyPublishing w o _ j

section Protocol

variable {policy : ProvisioningPolicy}

/-- The world under the reservations of the subscribe calls, told by the
tokens they hold: what is cached exists, every handler publishes under
`policy`, and each bus in range has its reservations accounted by the names
the tokens hold on it. -/
structure Accounted (policy : ProvisioningPolicy) (w : World) (tokens : Multiset (Nat × String)) : Prop where
  provisioned : Provisioned w
  handlers : HandlersUnder policy w
  buses : ∀ i < w.buses.length, (w.bus i).Accounted (tokensOn tokens i)

/-- Tasks on buses that provision under `policy`, where a subscribe call holds
a token for the name it reserved: each step of each task is a step of a
caller. -/
def reservations (policy : ProvisioningPolicy) : Protocol World (Multiset (Nat × String)) where
  inv := Accounted policy
  rely := Relation.ReflTransGen (Stepped policy)
  rely_refl _ := .refl
  rely_trans first second := first.trans second

variable {w w' : World} {tokens tokens' : Multiset (Nat × String)}

theorem Accounted.tableFree (holds : Accounted policy w tokens) (change : TableFree policy w w') :
    Accounted policy w' tokens := by
  have tidy : TidyChange policy w w' := change.guarantee
  refine ⟨tidy.1.provisioned holds.provisioned, tidy.1.steady.handlersUnder holds.handlers, fun i within => ?_⟩
  have before := holds.buses i (tidy.2.length ▸ within)
  exact before.sameTable (tidy.2.consistent i before.consistent) (change.sameTable i)

/-- A change of one bus's table, accounted on that bus, keeps the world
accounted. -/
theorem Accounted.modifyBus (holds : Accounted policy w tokens) {i : Nat} {f : BusState → BusState}
    (change : TableChange (w.bus i) (f (w.bus i)))
    (bus : i < w.buses.length → (w.bus i).Accounted (tokensOn tokens i) → (f (w.bus i)).Accounted (tokensOn tokens' i))
    (others : ∀ j, j ≠ i → tokensOn tokens' j = tokensOn tokens j) :
    Accounted policy (w.modifyBus i f) tokens' := by
  have step : Change policy true w (w.modifyBus i f) := Guarantee.Caller.table w i f change
  refine ⟨step.provisioned holds.provisioned, step.steady.handlersUnder holds.handlers, fun j within => ?_⟩
  rw [World.length_modifyBus] at within
  by_cases same : j = i
  · subst same
    rw [World.bus_modifyBus_self w within]
    exact bus within (holds.buses j within)
  · rcases World.bus_modifyBus w i j f with kept | ⟨changed, -⟩
    · rw [kept, others j same]
      exact holds.buses j within
    · exact absurd changed same

/-- The steps of callers that keep the invariant whatever the tokens: those a
task may take holding any share. -/
abbrev Keeping (policy : ProvisioningPolicy) : World → World → Prop :=
  (reservations policy).Keeping (Stepped policy)

theorem keeping_tableFree : ∀ w w', TableFree policy w w' → Keeping policy w w' :=
  fun _ _ change => ⟨.free change, fun _ holds => Accounted.tableFree holds change⟩

theorem keeping_ungated : ∀ w w', Ungated policy w w' → Keeping policy w w' :=
  fun w w' change => keeping_tableFree w w' change.tableFree

/-- A change of a table that keeps the names accounted on its bus is one a task
may take holding any share. -/
theorem keeping_modifyBus {i : Nat} {f : BusState → BusState} (change : TableChange (w.bus i) (f (w.bus i)))
    (bus : i < w.buses.length → ∀ names, (w.bus i).Accounted names → (f (w.bus i)).Accounted names) :
    Keeping policy w (w.modifyBus i f) :=
  ⟨.table w i f change, fun _ holds => holds.modifyBus change (fun within => bus within _) fun _ _ => rfl⟩

theorem keeping_unsubscribe {i : Nat} {n : String} (unreserved : (w.bus i).isReserved n = false) :
    Keeping policy w (w.modifyBus i fun b =>
      { b.unbind n with registrations := b.registrations.filter (·.subscription != n) }) :=
  keeping_modifyBus (.unsubscribe n unreserved) fun _ _ bus => bus.unsubscribe unreserved

theorem keeping_forget {i : Nat} {n : String} :
    Keeping policy w (w.modifyBus i fun b => { b with subscriptions := (b.subscriptions.remove n).1 }) :=
  keeping_modifyBus (.forget n) fun _ _ bus => bus.sameTable (bus.consistent.forget n) ⟨rfl, rfl, rfl⟩

theorem keeping_refuse {i : Nat} : Keeping policy w (w.modifyBus i ({ · with shuttingDown := true })) :=
  keeping_modifyBus .refuse fun _ _ bus => bus.refuse

theorem keeping_clear {i : Nat} (refusing : i < w.buses.length → (w.bus i).shuttingDown = true) :
    Keeping policy w (w.modifyBus i fun b => { b with bindings := [], registrations := [] }) :=
  keeping_modifyBus .clear fun within _ bus => bus.clear (refusing within)

theorem keeping_drain {i : Nat} : Keeping policy w (w.modifyBus i ({ · with subscriptions := [] })) :=
  keeping_modifyBus .drain fun _ _ bus => bus.sameTable (bus.consistent.tableChange .drain) ⟨rfl, rfl, rfl⟩

theorem Stepped.tidy (step : Stepped policy w w') : TidyChange policy w w' := by
  cases step with
  | free change => exact change.guarantee
  | table i f change => exact Guarantee.Caller.table w i f change

/-- A name without an entry on a bus that refuses subscribers, or on no bus of
the world. -/
def Taken (i : Nat) (n : String) (w : World) : Prop :=
  (w.bus i).binding? n = none ∧ (i < w.buses.length → (w.bus i).shuttingDown = true)

/-- A name that a shutdown took stays without an entry, whatever the callers do:
only a subscribe on a bus that accepts subscribers gives a name an entry. -/
theorem stable_taken {S : World → World → Prop} (sub : ∀ w w', S w w' → Stepped policy w w') (i : Nat) (n : String) :
    Stable (Stepped policy) S (Taken i n) := by
  intro w w' taken step
  have stepped : Stepped policy w w' := step.elim id (sub w w')
  have length : w'.buses.length = w.buses.length := stepped.tidy.2.length
  by_cases within : i < w.buses.length
  · have refusing := taken.2 within
    cases stepped with
    | free change =>
      have same := change.sameTable i
      exact ⟨by rw [same.binding? n]; exact taken.1, fun _ => by rw [same.shuttingDown]; exact refusing⟩
    | table j f change =>
      rcases World.bus_modifyBus w j i f with kept | ⟨rfl, changed⟩
      · exact ⟨by rw [kept]; exact taken.1, fun _ => by rw [kept]; exact refusing⟩
      · have after := change.taken refusing taken.1
        exact ⟨by rw [changed]; exact after.2, fun _ => by rw [changed]; exact after.1⟩
  · -- a bus out of range stays out of range, and has no entry
    have outside : w'.buses.length ≤ i := by omega
    exact ⟨by rw [World.bus_outside outside]; rfl, fun inside => absurd inside (by omega)⟩

/-- Every step of a caller moves each bus's registrations as
`RegistrationsMove` says. -/
theorem Stepped.registrationsMove (step : Stepped policy w w') (i : Nat) :
    (w.bus i).RegistrationsMove (w'.bus i) := by
  cases step with
  | free change => exact .kept (change.sameTable i).registrations
  | table j f change =>
    rcases World.bus_modifyBus w j i f with kept | ⟨rfl, changed⟩
    · exact .kept (by rw [kept])
    · rw [changed]
      exact change.registrationsMove

/-- Every step of a caller keeps each consistent bus consistent, with its
registrations following its running bindings. -/
theorem Stepped.tables (step : Stepped policy w w') {i : Nat} (consistent : (w.bus i).Consistent)
    (registered : (w.bus i).Registered) : (w'.bus i).Consistent ∧ (w'.bus i).Registered := by
  have kept := step.tidy.2.consistent i consistent
  cases step with
  | free change => exact ⟨kept, registered.sameTable (change.sameTable i)⟩
  | table j f change =>
    refine ⟨kept, ?_⟩
    rcases World.bus_modifyBus w j i f with same | ⟨rfl, changed⟩
    · rw [same]
      exact registered
    · rw [changed]
      exact registered.tableChange consistent change

theorem reservations_fits : (reservations policy).Fits (Keeping policy) (Stepped policy) :=
  Protocol.fits_keeping fun _ _ related => related

section Updates

variable (g : Multiset (Nat × String)) {i : Nat} {n : String}

/-- A subscribe call that reserves a free name on a bus that accepts
subscribers takes the token of that name. -/
theorem reserve_update (free : (w.bus i).binding? n = none) (accepting : (w.bus i).shuttingDown = false) :
    (reservations policy).Update g w (g + {(i, n)})
      (w.modifyBus i fun b => { b with bindings := b.bindings ++ [(n, .reserved)] }) := by
  intro frame holds
  show Accounted policy _ _
  rw [add_singleton_add]
  refine holds.modifyBus (.reserve n free accepting) (fun _ bus => ?_) fun j other => tokensOn_cons_other _ n other
  rw [tokensOn_cons_self]
  exact bus.reserve free accepting

/-- A change of a bus's table that lets the name's call give up its token there:
the task gives up the token with the step. -/
theorem give_update {f : BusState → BusState} (change : TableChange (w.bus i) (f (w.bus i)))
    (bus : ∀ names, (w.bus i).Accounted (n ::ₘ names) → (f (w.bus i)).Accounted names) :
    (reservations policy).Update (g + {(i, n)}) w g (w.modifyBus i f) := by
  intro frame holds
  change Accounted policy w _ at holds
  rw [add_singleton_add] at holds
  refine holds.modifyBus change (fun _ before => ?_) fun j other => (tokensOn_cons_other _ n other).symm
  rw [tokensOn_cons_self] at before
  exact bus _ before

/-- A subscribe call that promotes its reservation gives up its token. -/
theorem promote_update (reserved : (w.bus i).isReserved n = true) (accepting : (w.bus i).shuttingDown = false)
    {active : ActiveSubscription} (runs : active.handle.name = n) {registration : Registration}
    (named : registration.subscription = n) :
    (reservations policy).Update (g + {(i, n)}) w g
      (w.modifyBus i fun b =>
        { b with bindings := b.bindings.map (fun (m, e) => if m == n then (m, Binding.running active) else (m, e)),
                 registrations := b.registrations ++ [registration] }) :=
  give_update g (.promote n active registration reserved accepting runs named) fun _ bus =>
    bus.promote reserved accepting runs named

/-- A subscribe call that releases its reservation, if it is still there,
gives up its token. -/
theorem release_update :
    (reservations policy).Update (g + {(i, n)}) w g
      (w.modifyBus i fun b => if b.isReserved n then b.unbind n else b) :=
  give_update g (.release n) fun _ bus => bus.release

/-- A subscribe call that withdraws its reservation gives up its token. -/
theorem withdraw_update (reserved : (w.bus i).isReserved n = true) :
    (reservations policy).Update (g + {(i, n)}) w g (w.modifyBus i (·.unbind n)) :=
  give_update g (.withdraw n reserved) fun _ bus => bus.unbind reserved

/-- A subscribe call whose reservation a shutdown took gives up its token. -/
theorem drop_update (unreserved : (w.bus i).isReserved n = false) :
    (reservations policy).Update (g + {(i, n)}) w g w := by
  intro frame holds
  change Accounted policy w _ at holds
  rw [add_singleton_add] at holds
  refine ⟨holds.provisioned, holds.handlers, fun j within => ?_⟩
  have bus := holds.buses j within
  by_cases same : j = i
  · subst same
    rw [tokensOn_cons_self] at bus
    exact bus.drop unreserved
  · rwa [tokensOn_cons_other _ n same] at bus

end Updates

section Owners

variable {g g' frame : Multiset (Nat × String)} {i : Nat} {n : String}

/-- In a stretch of a task that keeps the reservations, begun where the
invariant held with the task's tokens and the others': a reservation that goes
while its bus still accepts subscribers, by a withdrawal or a promotion, was
the task's, and no other task held it. -/
theorem Protocol.Update.held_of_removed (update : (reservations policy).Update g w g' w')
    (valid : Accounted policy w (g + frame)) (reserved : (w.bus i).isReserved n = true)
    (within : i < w'.buses.length) (gone : (w'.bus i).isReserved n = false)
    (accepting : (w'.bus i).shuttingDown = false) : (i, n) ∈ g ∧ (i, n) ∉ frame ∧ (i, n) ∉ g' := by
  have after : Accounted policy w' (g' + frame) := update frame valid
  have held : (i, n) ∈ g + frame :=
    mem_tokensOn.mp ((valid.buses i (World.within_of_reserved reserved)).held n reserved)
  -- after the stretch no token may name it: it is neither reserved nor taken by a shutdown
  have unheld : (i, n) ∉ g' + frame := fun token => by
    rcases (after.buses i within).reserved n (mem_tokensOn.mpr token) with still | ⟨refusing, _⟩
    · rw [gone] at still
      cases still
    · rw [accepting] at refusing
      cases refusing
  rw [Multiset.mem_add, not_or] at unheld
  exact ⟨(Multiset.mem_add.mp held).resolve_right unheld.2, unheld.2, unheld.1⟩

/-- A reservation made in a stretch on a bus that accepts subscribers is the
task's at its end, and no other task holds it. -/
theorem Protocol.Update.held_of_made (update : (reservations policy).Update g w g' w')
    (valid : Accounted policy w (g + frame)) (within : i < w.buses.length)
    (free : (w.bus i).isReserved n = false) (accepting : (w.bus i).shuttingDown = false)
    (made : (w'.bus i).isReserved n = true) : (i, n) ∈ g' ∧ (i, n) ∉ frame := by
  have after : Accounted policy w' (g' + frame) := update frame valid
  have held : (i, n) ∈ g' + frame :=
    mem_tokensOn.mp ((after.buses i (World.within_of_reserved made)).held n made)
  -- before the stretch no other task could name it: it was neither reserved nor taken
  have unheld : (i, n) ∉ frame := fun token => by
    rcases (valid.buses i within).reserved n (mem_tokensOn.mpr (Multiset.mem_add.mpr (.inr token))) with
      was | ⟨refusing, _⟩
    · rw [free] at was
      cases was
    · rw [accepting] at refusing
      cases refusing
  exact ⟨(Multiset.mem_add.mp held).resolve_right unheld, unheld⟩

/-- A task keeps the token of a reservation that is still there at the end of
its stretch. -/
theorem Protocol.Update.keeps_held (update : (reservations policy).Update g w g' w')
    (valid : Accounted policy w (g + frame)) (within : i < w.buses.length) (held : (i, n) ∈ g)
    (still : (w'.bus i).isReserved n = true) : (i, n) ∈ g' := by
  have after : Accounted policy w' (g' + frame) := update frame valid
  have token : (i, n) ∈ g' + frame :=
    mem_tokensOn.mp ((after.buses i (World.within_of_reserved still)).held n still)
  -- the others' tokens are those they held, and one name is held once
  refine (Multiset.mem_add.mp token).resolve_right fun theirs => ?_
  have apart := (valid.buses i within).apart
  rw [tokensOn_add, Multiset.nodup_add] at apart
  exact Multiset.disjoint_left.mp apart.2.2 (mem_tokensOn.mpr held) (mem_tokensOn.mpr theirs)

end Owners

end Protocol

end Courier
