import Courier.Bus.Publish

namespace Courier

/-! # The message a publish hands the broker

A publish stamps its draft into a wire message with identifiers minted for it,
encodes the message, and lays the caller's attributes over the standard ones of
the envelope. Attributes are kept as a map sorted by key: putting one changes
the value of its key and of no other, and keeps the map sorted. Laying a list
of attributes over a map thus gives each key the value of its last entry in the
list, or else the map's own; the bytes are the encoding of the message, and the
ordering key is the caller's. -/

section Attributes

variable (key value : String)

theorem lookup_cons_of_ne {k : String} (rest : List (String × String)) (other : k ≠ key) :
    ((key, value) :: rest).lookup k = rest.lookup k := by
  have miss : (k == key) = false := by simpa using other
  simp [List.lookup_cons, miss]

theorem mem_putAttribute {entry : String × String} {attributes : List (String × String)}
    (member : entry ∈ putAttribute key value attributes) : entry = (key, value) ∨ entry ∈ attributes := by
  induction attributes with
  | nil => simpa [putAttribute] using member
  | cons head rest induction =>
    obtain ⟨k', v'⟩ := head
    by_cases before : key < k'
    · simp only [putAttribute, before, if_true] at member
      exact (List.mem_cons.mp member).imp_right id
    · by_cases equal : key = k'
      · subst equal
        simp only [putAttribute, before, if_true, if_false] at member
        exact (List.mem_cons.mp member).elim .inl fun later => .inr (List.mem_cons_of_mem _ later)
      · simp only [putAttribute, before, equal, if_false] at member
        rcases List.mem_cons.mp member with first | later
        · exact .inr (first ▸ List.mem_cons_self)
        · exact (induction later).imp_right (List.mem_cons_of_mem _)

/-- Putting an attribute changes the value of its key and of no other. -/
theorem lookup_putAttribute (attributes : List (String × String)) (k : String) :
    (putAttribute key value attributes).lookup k = if k = key then some value else attributes.lookup k := by
  induction attributes with
  | nil =>
    by_cases same : k = key
    · simp [putAttribute, same]
    · simp [putAttribute, same]
  | cons head rest induction =>
    obtain ⟨k', v'⟩ := head
    by_cases same : k = key
    · subst same
      by_cases before : k < k'
      · simp [putAttribute, before]
      · by_cases equal : k = k'
        · simp [putAttribute, equal]
        · -- the entry passed over keeps its place, in front of the one put
          simp [putAttribute, before, equal, lookup_cons_of_ne _ _ _ equal, induction]
    · rw [if_neg same]
      by_cases before : key < k'
      · simp [putAttribute, before, lookup_cons_of_ne _ _ _ same]
      · by_cases equal : key = k'
        · subst equal
          simp [putAttribute, lookup_cons_of_ne _ _ _ same]
        · simp only [putAttribute, before, equal, if_false]
          by_cases passed : k = k'
          · subst passed
            simp
          · rw [lookup_cons_of_ne _ _ _ passed, lookup_cons_of_ne _ _ _ passed, induction, if_neg same]

/-- Putting an attribute into a map sorted by key keeps it sorted. -/
theorem pairwise_putAttribute {attributes : List (String × String)}
    (sorted : attributes.Pairwise fun a b => a.1 < b.1) :
    (putAttribute key value attributes).Pairwise fun a b => a.1 < b.1 := by
  induction attributes with
  | nil => simp [putAttribute]
  | cons head rest induction =>
    obtain ⟨k', v'⟩ := head
    obtain ⟨first, sortedRest⟩ := List.pairwise_cons.mp sorted
    by_cases before : key < k'
    · simp only [putAttribute, before, if_true]
      refine List.Pairwise.cons (fun entry member => ?_) sorted
      rcases List.mem_cons.mp member with rfl | later
      · exact before
      · exact String.lt_trans before (first entry later)
    · by_cases equal : key = k'
      · subst equal
        simp only [putAttribute, before, if_true, if_false]
        exact List.Pairwise.cons first sortedRest
      · simp only [putAttribute, before, equal, if_false]
        have after : k' < key := Std.lt_of_le_of_ne (String.not_lt.mp before) (Ne.symm equal)
        refine List.Pairwise.cons (fun entry member => ?_) (induction sortedRest)
        rcases mem_putAttribute key value member with rfl | old
        · exact after
        · exact first entry old

end Attributes

section Laying

variable (extra : List (String × String))

/-- Laying attributes over others gives each key the value of its last entry
among those laid, or else its old value. -/
theorem lookup_foldl_putAttribute (base : List (String × String)) (k : String) :
    (extra.foldl (fun acc (key, value) => putAttribute key value acc) base).lookup k =
      (extra.reverse.lookup k).or (base.lookup k) := by
  induction extra generalizing base with
  | nil => simp
  | cons head rest induction =>
    obtain ⟨key, value⟩ := head
    rw [List.foldl_cons, induction, lookup_putAttribute, List.reverse_cons, List.lookup_append,
      Option.or_assoc]
    by_cases same : k = key
    · subst same
      simp
    · rw [lookup_cons_of_ne _ _ _ same, if_neg same]
      rfl

theorem pairwise_foldl_putAttribute {base : List (String × String)}
    (sorted : base.Pairwise fun a b => a.1 < b.1) :
    (extra.foldl (fun acc (key, value) => putAttribute key value acc) base).Pairwise
      fun a b => a.1 < b.1 := by
  induction extra generalizing base with
  | nil => exact sorted
  | cons head rest induction => exact induction (pairwise_putAttribute head.1 head.2 sorted)

end Laying

theorem standardAttributes_sorted (e : EventEnvelope) :
    e.standardAttributes.Pairwise fun a b => a.1 < b.1 := by
  have keys : (e.standardAttributes.map (·.1)).Pairwise (· < ·) := by
    show ["eventId", "eventType", "source", "version"].Pairwise (· < ·)
    decide
  exact List.pairwise_map.mp keys

/-- The wire message of a draft published by `serviceName`, its envelope stamped
at `stamped` and the message at `published`, with the three identifiers minted
after the first `minted`: the event's own, then the correlation and the trace
identifiers. -/
def EventDraft.stamp (draft : EventDraft) (serviceName : String) (minted : Nat) (stamped published : Instant) :
    WireMessage :=
  ⟨draft.materialize serviceName (mintUuid (minted + 1)) stamped,
    ⟨mintUuid (minted + 2), mintUuid (minted + 3)⟩, published⟩

/-- A message as a topic stores it carries a wire message published with
`options`: its bytes are the encoding of the message, its attributes are the
standard ones of the envelope with the caller's laid over them key by key, kept
sorted by key, and its ordering key is the caller's. -/
structure Carries (stored : StoredMessage) (message : WireMessage) (options : PublishOptions) : Prop where
  data : stored.data = message.encode.data
  sorted : stored.attributes.Pairwise fun a b => a.1 < b.1
  attributes : ∀ key, stored.attributes.lookup key =
    (options.attributes.reverse.lookup key).or (message.data.standardAttributes.lookup key)
  orderingKey : stored.orderingKey = options.orderingKey

/-- What a publish hands the broker, under whatever id the broker gives it,
carries the draft stamped with the identifiers minted for it. -/
theorem carries_outboundOf (draft : EventDraft) (serviceName : String) (minted : Nat) (stamped published : Instant)
    (options : PublishOptions) (id : String) :
    let sent := (outboundOf draft serviceName (mintUuid (minted + 1)) (mintUuid (minted + 2))
      (mintUuid (minted + 3)) stamped published options).2
    Carries ⟨id, sent.data, sent.attributes, options.orderingKey⟩ (draft.stamp serviceName minted stamped published)
      options where
  data := rfl
  sorted := pairwise_foldl_putAttribute options.attributes (standardAttributes_sorted _)
  attributes key := lookup_foldl_putAttribute options.attributes _ key
  orderingKey := rfl

/-- Whatever a publish hands the broker carries the draft it stamped. -/
theorem carries_of_outboundOf {draft : EventDraft} {serviceName : String} {minted : Nat}
    {stamped published : Instant} {options : PublishOptions} {message : WireMessage} {encoded : EncodedMessage}
    (sent : outboundOf draft serviceName (mintUuid (minted + 1)) (mintUuid (minted + 2)) (mintUuid (minted + 3))
      stamped published options = (message, encoded)) (id : String) :
    Carries ⟨id, encoded.data, encoded.attributes, options.orderingKey⟩
      (draft.stamp serviceName minted stamped published) options := by
  have encodedAs := congrArg Prod.snd sent
  simp only at encodedAs
  rw [← encodedAs]
  exact carries_outboundOf draft serviceName minted stamped published options id

/-- A caller's attribute wins over a standard one of the same key. -/
example : ((outboundOf (.ofPayload "post.liked" (.object [])) "interaction-svc" "e" "c" "t" ⟨0, 0, 0⟩ ⟨0, 0, 0⟩
    ⟨none, [("source", "override"), ("tenant", "acme")]⟩).2.attributes.map (·.1)) =
      ["eventId", "eventType", "source", "tenant", "version"] := by
  decide

end Courier
