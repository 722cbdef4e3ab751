import Courier.Envelope.Basic
import Courier.Text.Uuid

namespace Courier

/-! # Materializing a draft

The engine stamps its defaults on an envelope and lays over them every field of
the draft that is not blank. The identifier, type and version of the envelope
are therefore never blank: the defaults are not, and a blank field of the draft
never wins. The source falls back to the service's name, and to
`unknown-service` only when it ends up empty: a service name of blanks alone is
kept, so the source is blank exactly when the draft gives no source that is not
blank and the service's name is blank but not empty. -/

/-- A field the caller gave wins exactly when it is not blank. -/
theorem nonBlank_eq_some {value : Option String} {text : String} :
    nonBlank value = some text ↔ value = some text ∧ isBlank text = false := by
  unfold nonBlank
  rw [Option.filter_eq_some_iff, Bool.not_eq_true']

theorem nonBlank_eq_none {value : Option String} :
    nonBlank value = none ↔ ∀ text, value = some text → isBlank text = true := by
  unfold nonBlank
  rw [Option.filter_eq_none_iff]
  simp only [Bool.not_eq_true', Bool.not_eq_false]

/-- A field that falls back to a default that is not blank is not blank. -/
theorem isBlank_getD_nonBlank (value : Option String) {fallback : String} (filled : isBlank fallback = false) :
    isBlank ((nonBlank value).getD fallback) = false := by
  cases given : nonBlank value with
  | none => exact filled
  | some text => exact (nonBlank_eq_some.mp given).2

theorem isBlank_of_isUuidV4 {text : String} (uuid : isUuidV4 text = true) : isBlank text = false := by
  unfold isUuidV4 at uuid
  simp only [Bool.and_eq_true, beq_iff_eq] at uuid
  obtain ⟨⟨length, -⟩, four⟩ := uuid
  have member : '4' ∈ text.toList := by
    rw [← four, List.getD_eq_getElem?_getD, List.getElem?_eq_getElem (by omega)]
    exact List.getElem_mem _
  unfold isBlank
  rw [Bool.eq_false_iff]
  intro all
  exact absurd (List.all_eq_true.mp all '4' member) (by decide)

/-- What an envelope materialized from a draft for a service holds: identifier,
type and version that are not blank and a source that is not empty; each field
of the draft that is not blank, verbatim; the draft's timestamp and payload;
the type `unknown` and the standard version when the draft gives none that is
not blank; and a blank source exactly when neither the draft nor the service's
name supplies one that is not blank and the name is not empty either. -/
structure Stamped (draft : EventDraft) (serviceName : String) (e : EventEnvelope) : Prop where
  eventId : isBlank e.eventId = false
  eventType : isBlank e.eventType = false
  version : isBlank e.version = false
  source : e.source ≠ ""
  givenEventId : ∀ text, draft.eventId = some text → isBlank text = false → e.eventId = text
  givenEventType : ∀ text, draft.eventType = some text → isBlank text = false → e.eventType = text
  givenVersion : ∀ text, draft.version = some text → isBlank text = false → e.version = text
  givenSource : ∀ text, draft.source = some text → isBlank text = false → e.source = text
  timestamp : ∀ t, draft.timestamp = some t → e.timestamp = t
  payload : e.payload = draft.payload
  unknownType : (∀ text, draft.eventType = some text → isBlank text = true) → e.eventType = unknownEventType
  standardVersion : (∀ text, draft.version = some text → isBlank text = true) → e.version = envelopeVersion
  blankSource : isBlank e.source = true ↔
    (∀ text, draft.source = some text → isBlank text = true) ∧ serviceName ≠ "" ∧ isBlank serviceName = true

/-- The identifier minted for an envelope is a UUID; every draft for every
service then materializes to a stamped envelope. -/
theorem materialize_stamped (draft : EventDraft) (serviceName freshId : String) (fresh : isUuidV4 freshId = true)
    (now : Instant) : Stamped draft serviceName (draft.materialize serviceName freshId now) := by
  have given : ∀ {value : Option String} {fallback text : String}, value = some text → isBlank text = false →
      (nonBlank value).getD fallback = text := fun {_ _ _} same filled => by
    rw [nonBlank_eq_some.mpr ⟨same, filled⟩, Option.getD_some]
  have defaulted : ∀ {value : Option String} {fallback : String},
      (∀ text, value = some text → isBlank text = true) → (nonBlank value).getD fallback = fallback :=
    fun {_ _} blank => by rw [nonBlank_eq_none.mpr blank, Option.getD_none]
  -- the source before its last fallback
  let source := (nonBlank draft.source).getD serviceName
  have sourceNonEmpty : (if source.isEmpty then defaultServiceName else source) ≠ "" := by
    split
    · decide
    · next nonEmpty => exact fun empty => nonEmpty (by rw [empty]; rfl)
  refine ⟨isBlank_getD_nonBlank _ (isBlank_of_isUuidV4 fresh), isBlank_getD_nonBlank _ (by decide),
    isBlank_getD_nonBlank _ (by decide), sourceNonEmpty, fun _ => given, fun _ => given, fun _ => given,
    fun text same filled => ?_, fun t same => by simp [EventDraft.materialize, same], rfl, defaulted,
    defaulted, ?_⟩
  · -- a source the caller gave that is not blank is not empty either
    show (if source.isEmpty then defaultServiceName else source) = text
    have kept : source = text := given same filled
    rw [kept, if_neg]
    intro empty
    rw [String.isEmpty_iff.mp empty] at filled
    cases filled
  · show isBlank (if source.isEmpty then defaultServiceName else source) = true ↔ _
    cases found : nonBlank draft.source with
    | some text =>
      obtain ⟨same, filled⟩ := nonBlank_eq_some.mp found
      have kept : source = text := by simp only [source, found, Option.getD_some]
      have notEmpty : text.isEmpty = false := by
        rw [Bool.eq_false_iff]
        intro empty
        rw [String.isEmpty_iff.mp empty] at filled
        cases filled
      rw [kept, notEmpty, if_neg (by decide), filled]
      exact ⟨fun wrong => (by cases wrong), fun ⟨blank, _⟩ => absurd (blank text same) (by rw [filled]; decide)⟩
    | none =>
      have kept : source = serviceName := by simp only [source, found, Option.getD_none]
      rw [kept]
      by_cases empty : serviceName = ""
      · subst empty
        exact ⟨fun wrong => absurd wrong (by decide), fun ⟨_, wrong, _⟩ => absurd rfl wrong⟩
      · have notEmpty : serviceName.isEmpty = false := by
          rw [Bool.eq_false_iff]
          exact fun isEmpty => empty (String.isEmpty_iff.mp isEmpty)
        rw [notEmpty, if_neg (by decide)]
        exact ⟨fun blank => ⟨nonBlank_eq_none.mp found, empty, blank⟩, fun ⟨_, _, blank⟩ => blank⟩

theorem materialize_stamped_post_liked :
    isUuidV4 (mintUuid 1) = true ∧
      Stamped (.ofPayload "post.liked" .null) "interaction-svc"
        ((EventDraft.ofPayload "post.liked" .null).materialize "interaction-svc" (mintUuid 1) ⟨0, 0, 0⟩) :=
  ⟨by decide, materialize_stamped _ _ _ (by decide) _⟩

end Courier
