import Courier.Envelope.Codec
import Courier.Proofs.Json.RoundTrip
import Courier.Proofs.Time.RoundTrip

namespace Courier

/-! # Decoding what encoding writes

Encoding writes a wire message's JSON form with its members in declaration
order; reading the text back sorts the members of every object by key. The
sorted forms (`EventEnvelope.sortedJson`, `WireMessage.sortedJson`) are what
decoding meets, and each record reads its fields out of them by name. The
reader refuses documents nested more than 128 levels deep, and the payload
stands two levels below the top, so the law holds of payloads nested less than
126 levels deep. -/

section Records

theorem firstFailure_eq_none {failures : List (Option ShapeError)} (passed : ∀ failure ∈ failures, failure = none) :
    firstFailure failures = none := by
  induction failures with
  | nil => rfl
  | cons failure rest ih =>
    rw [passed failure List.mem_cons_self, firstFailure]
    exact ih fun other member => passed other (List.mem_cons_of_mem _ member)

/-- An object whose members pass the check of each field they name, and that names
every field, reads as the values of its fields in declaration order. -/
theorem recordFields_object {name : String} {fields : List FieldCheck} {members : List (String × Json)}
    (passed : ∀ member ∈ members, ∀ field ∈ fields, field.name = member.1 → field.check member.2 = none)
    (present : ∀ field ∈ fields, (members.lookup field.name).isSome) :
    Json.recordFields name fields (.object members) =
      .ok (fields.map fun field => (members.lookup field.name).getD .null) := by
  rw [Json.recordFields]
  split
  · -- no member fails the check of the field it names
    rename_i failure failed
    rw [firstFailure_eq_none] at failed
    · cases failed
    intro failure member
    obtain ⟨⟨key, value⟩, belongs, rfl⟩ := List.mem_map.1 member
    dsimp only
    split
    · rename_i field found
      exact passed _ belongs field (List.mem_of_find?_eq_some found) (by simpa using List.find?_some found)
    · rfl
  rename_i visited
  clear passed visited
  -- then every field is looked up in declaration order
  induction fields with
  | nil => rfl
  | cons field rest ih =>
    obtain ⟨value, found⟩ := Option.isSome_iff_exists.1 (present field List.mem_cons_self)
    rw [List.mapM_cons, List.map_cons, found, ih fun other member => present other (List.mem_cons_of_mem _ member)]
    rfl

end Records

theorem asInstant_render {t : Instant} (valid : t.Valid) : Json.asInstant t.toJson = .ok t := by
  rw [Instant.toJson, Json.asInstant, Instant.parse_render valid]

namespace EventEnvelope

/-- The JSON form of an envelope with its members sorted by key. -/
def sortedJson (e : EventEnvelope) : Json :=
  .object [("eventId", .string e.eventId), ("eventType", .string e.eventType), ("payload", e.payload),
    ("source", .string e.source), ("timestamp", e.timestamp.toJson), ("version", .string e.version)]

theorem normalize_toJson (e : EventEnvelope) (sorted : e.payload.KeysSorted) :
    e.toJson.normalize = e.sortedJson := by
  simp (disch := decide) only [toJson, sortedJson, Json.normalize, Json.normalizeMembers, Json.insertSorted,
    Json.normalize_of_keysSorted _ sorted, Instant.toJson, if_pos, if_neg]

theorem ofJson_sortedJson (e : EventEnvelope) (valid : e.timestamp.Valid) : ofJson e.sortedJson = .ok e := by
  rw [ofJson, sortedJson, recordFields_object]
  · rw [bind_of_ok rfl]
    simp [fieldAt, List.lookup, FieldCheck.of, Json.asText, asInstant_render valid, Bind.bind, Except.bind]
    rfl
  · simp [FieldCheck.of, Decoder.failure?, Json.asText, Json.asAny, asInstant_render valid]
  · simp [List.lookup, FieldCheck.of]

end EventEnvelope

namespace EnvelopeMetadata

theorem normalize_toJson (m : EnvelopeMetadata) : m.toJson.normalize = m.toJson := by
  simp (disch := decide) only [toJson, Json.normalize, Json.normalizeMembers, Json.insertSorted, if_neg]

theorem ofJson_toJson (m : EnvelopeMetadata) : ofJson m.toJson = .ok m := by
  rw [ofJson, toJson, recordFields_object]
  · rw [bind_of_ok rfl]
    simp [fieldAt, List.lookup, FieldCheck.of, Json.asText, Bind.bind, Except.bind]
    rfl
  · simp [FieldCheck.of, Decoder.failure?, Json.asText]
  · simp [List.lookup, FieldCheck.of]

end EnvelopeMetadata

namespace WireMessage

/-- The JSON form of a wire message with the members of each of its objects sorted by key. -/
def sortedJson (m : WireMessage) : Json :=
  .object [("data", m.data.sortedJson), ("metadata", m.metadata.toJson), ("publishedAt", m.publishedAt.toJson)]

theorem normalize_toJson (m : WireMessage) (sorted : m.data.payload.KeysSorted) :
    m.toJson.normalize = m.sortedJson := by
  simp (disch := decide) only [toJson, sortedJson, Json.normalize, Json.normalizeMembers, Json.insertSorted,
    EventEnvelope.normalize_toJson _ sorted, EnvelopeMetadata.normalize_toJson, Instant.toJson, if_neg]

theorem ofJson_sortedJson (m : WireMessage) (stamped : m.data.timestamp.Valid) (published : m.publishedAt.Valid) :
    ofJson m.sortedJson = .ok m := by
  rw [ofJson, sortedJson, recordFields_object]
  · rw [bind_of_ok rfl]
    simp [fieldAt, List.lookup, FieldCheck.of, EventEnvelope.ofJson_sortedJson _ stamped,
      EnvelopeMetadata.ofJson_toJson, asInstant_render published, Bind.bind, Except.bind]
    rfl
  · simp [FieldCheck.of, Decoder.failure?, EventEnvelope.ofJson_sortedJson _ stamped,
      EnvelopeMetadata.ofJson_toJson, asInstant_render published]
  · simp [List.lookup, FieldCheck.of]

/-- The payload stands two levels below the top of the document. -/
theorem depth_toJson (m : WireMessage) : m.toJson.depth = m.data.payload.depth + 2 := by
  simp [toJson, EventEnvelope.toJson, EnvelopeMetadata.toJson, Instant.toJson, Json.depth, Json.depthMembers]

theorem numbersReadable_toJson {m : WireMessage} (readable : m.data.payload.NumbersReadable) :
    m.toJson.NumbersReadable := by
  simp [toJson, EventEnvelope.toJson, EnvelopeMetadata.toJson, Instant.toJson, Json.NumbersReadable,
    Json.MembersReadable, readable]

theorem hasEventType_sortedJson (m : WireMessage) : hasEventType m.sortedJson = !m.data.eventType.isEmpty := by
  simp [hasEventType, sortedJson, EventEnvelope.sortedJson, Json.field?, List.lookup]

end WireMessage

/-- Decoding the bytes of an encoded message gives the message back, and its
attributes are the envelope's standard attributes, for every message with an
event type whose payload is held as a map keyed by strings holds it, with numbers
that read back, nested less than 126 levels deep, and whose instants are date and
time values. -/
theorem decodeMessage_encode {m : WireMessage} (named : m.data.eventType ≠ "")
    (readable : m.data.payload.NumbersReadable) (sorted : m.data.payload.KeysSorted)
    (shallow : m.data.payload.depth < 126) (stamped : m.data.timestamp.Valid) (published : m.publishedAt.Valid) :
    decodeMessage m.encode.data = .ok m ∧ m.encode.attributes = m.data.standardAttributes := by
  have read : Json.read m.encode.data = .ok m.sortedJson := by
    rw [WireMessage.encode, WireMessage.text, Json.read_compact (WireMessage.numbersReadable_toJson readable)
      (by rw [WireMessage.depth_toJson]; omega), WireMessage.normalize_toJson _ sorted]
  refine ⟨?_, rfl⟩
  rw [decodeMessage, read]
  simp [WireMessage.hasEventType_sortedJson, named, WireMessage.ofJson_sortedJson _ stamped published]

/-- A message created in a leap second, published in a year before the common era,
with a payload of an object holding an array, decodes to itself. -/
theorem decodeMessage_encode_leapSecond :
    let m : WireMessage := ⟨⟨"e", "t", ⟨17166, 86399, 1500000000⟩, "1.0", "s",
      .object [("a", .array [.nat 1, .bool true]), ("b", .null)]⟩, ⟨"c", "r"⟩, ⟨-800000, 0, 0⟩⟩
    decodeMessage m.encode.data = .ok m ∧ m.encode.attributes = m.data.standardAttributes := by
  intro m
  exact decodeMessage_encode (by decide)
    (by simp [m, Json.NumbersReadable, Json.MembersReadable, Json.ItemsReadable, JsonNumber.Readable, Json.nat,
      Reader.wordMax])
    ⟨fun member listed => by rw [List.mem_singleton.1 listed]; decide, ⟨trivial, trivial, trivial⟩,
      fun _ absent => absurd absent List.not_mem_nil, trivial, trivial⟩
    (by decide) ⟨by decide, by decide, by decide, by decide⟩ ⟨by decide, by decide, by decide, by decide⟩

end Courier
