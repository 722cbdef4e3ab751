import Courier.Proofs.Envelope.RoundTrip
import Courier.Proofs.Json.Reading

/-! # What decoding gives

Decoding reads a document, checks for an event type at `data.eventType`, then reads the
wire message out of the document; each check has its own failure, so the three failures
are told apart by the first check that fails (`decodeMessage_notStructured`,
`decodeMessage_missingEventType`, `decodeMessage_schema`). Records ignore members under
names none of their fields has (`recordFields_insertSorted`).

What decoding gives back it gives back again from the message's own bytes: the reader
leaves objects sorted by key, integers in range and the payload two levels under a
budget of 128 (`decoded_parts`), and every instant it reads is a date and time value,
which is all encoding needs (`WireMessage.Decodable`), save that each binary64 number
of the payload must read back from its text. -/

namespace Courier

section Records

theorem mem_of_lookup {k : String} {x : Json} : ∀ {members : List (String × Json)},
    members.lookup k = some x → (k, x) ∈ members
  | [], found => nomatch found
  | (key, value) :: rest, found => by
    by_cases same : k = key
    · subst same
      simp only [List.lookup, beq_self_eq_true, Option.some.injEq] at found
      rw [found]
      exact List.mem_cons_self
    · simp only [List.lookup, beq_false_of_ne same] at found
      exact List.mem_cons_of_mem _ (mem_of_lookup found)

variable {name : String} {fields : List FieldCheck} {members : List (String × Json)}

/-- A record read from an object holds, field by field, the member of the field's name,
and every field has one. -/
theorem recordFields_object_ok {values : List Json}
    (ran : Json.recordFields name fields (.object members) = .ok values) :
    ∀ i (within : i < fields.length), members.lookup fields[i].name = some (fieldAt values i) := by
  rw [Json.recordFields] at ran
  split at ran
  · cases ran
  rename_i passed
  clear passed
  induction fields generalizing values with
  | nil => intro i within; cases within
  | cons field rest ih =>
    rw [List.mapM_cons] at ran
    obtain ⟨found, look, ran⟩ := bind_eq_ok_iff.1 ran
    obtain ⟨later, readRest, ran⟩ := bind_eq_ok_iff.1 ran
    cases ran
    intro i within
    cases i with
    | zero =>
      split at look
      · rename_i value present
        cases look
        exact present
      · cases look
    | succ i => exact ih readRest i (by simpa using within)

theorem mapM_congr {ε α β : Type} {f g : α → Except ε β} :
    ∀ {l : List α}, (∀ a ∈ l, f a = g a) → l.mapM f = l.mapM g
  | [], _ => rfl
  | a :: rest, same => by
    rw [List.mapM_cons, List.mapM_cons, same a List.mem_cons_self,
      mapM_congr fun b member => same b (List.mem_cons_of_mem _ member)]

/-- A member no check looks at adds no failure, wherever it is inserted. -/
theorem firstFailure_insertSorted {key : String} {value : Json} {check : String × Json → Option ShapeError}
    (unknown : ∀ v, check (key, v) = none) : ∀ members : List (String × Json),
      firstFailure ((Json.insertSorted key value members).map check) = firstFailure (members.map check)
  | [] => by
    rw [Json.insertSorted, List.map_singleton, unknown]
    rfl
  | (k, v) :: rest => by
    rw [Json.insertSorted]
    split
    · rw [List.map_cons, unknown]
      rfl
    split
    · rename_i same
      subst same
      rw [List.map_cons, List.map_cons, unknown, unknown]
    · rw [List.map_cons, List.map_cons]
      cases checked : check (k, v) with
      | some e => rfl
      | none => exact firstFailure_insertSorted unknown rest

/-- A record ignores a member under a name none of its fields has. -/
theorem recordFields_insertSorted {key : String} {value : Json} (unknown : ∀ field ∈ fields, field.name ≠ key) :
    Json.recordFields name fields (.object (Json.insertSorted key value members)) =
      Json.recordFields name fields (.object members) := by
  have notFound : fields.find? (·.name == key) = none :=
    List.find?_eq_none.2 fun field member => by simpa using unknown field member
  have lookups : ∀ field ∈ fields,
      (Json.insertSorted key value members).lookup field.name = members.lookup field.name :=
    fun field member => by rw [Json.lookup_insertSorted, if_neg (unknown field member)]
  simp only [Json.recordFields]
  rw [firstFailure_insertSorted (by simp [notFound])]
  split
  · rfl
  · exact mapM_congr fun field member => by rw [lookups field member]

end Records

theorem asText_eq_ok {v : Json} {text : String} : Json.asText v = .ok text ↔ v = .string text := by
  cases v <;> simp [Json.asText]

theorem asInstant_valid {v : Json} {t : Instant} (read : Json.asInstant v = .ok t) : t.Valid := by
  unfold Json.asInstant at read
  split at read
  · split at read
    · cases read
      exact Instant.parse_valid ‹_›
    · cases read
  · cases read

namespace EventEnvelope

/-- An envelope read from an object has the event type and the payload of its members of
those names, and a date and time value for its timestamp. -/
theorem ofJson_object {members : List (String × Json)} {e : EventEnvelope} (read : ofJson (.object members) = .ok e) :
    members.lookup "eventType" = some (.string e.eventType) ∧ members.lookup "payload" = some e.payload ∧
      e.timestamp.Valid := by
  unfold ofJson at read
  obtain ⟨values, fieldsRead, read⟩ := bind_eq_ok_iff.1 read
  have typeFound : members.lookup "eventType" = some (fieldAt values 1) := recordFields_object_ok fieldsRead 1 (by decide)
  have payloadFound : members.lookup "payload" = some (fieldAt values 5) :=
    recordFields_object_ok fieldsRead 5 (by decide)
  obtain ⟨id, -, read⟩ := bind_eq_ok_iff.1 read
  obtain ⟨type, typeRead, read⟩ := bind_eq_ok_iff.1 read
  obtain ⟨stamp, stampRead, read⟩ := bind_eq_ok_iff.1 read
  obtain ⟨version, -, read⟩ := bind_eq_ok_iff.1 read
  obtain ⟨source, -, read⟩ := bind_eq_ok_iff.1 read
  cases read
  rw [asText_eq_ok.1 typeRead] at typeFound
  exact ⟨typeFound, payloadFound, asInstant_valid stampRead⟩

/-- An envelope ignores a member under a name none of its fields has. -/
theorem ofJson_insertSorted {members : List (String × Json)} {key : String} {value : Json}
    (unknown : key ∉ ["eventId", "eventType", "timestamp", "version", "source", "payload"]) :
    ofJson (.object (Json.insertSorted key value members)) = ofJson (.object members) := by
  unfold ofJson
  rw [recordFields_insertSorted]
  intro field member same
  simp only [List.mem_cons, List.not_mem_nil, or_false] at member
  rcases member with rfl | rfl | rfl | rfl | rfl | rfl <;> exact unknown (by simp [← same, FieldCheck.of])

end EventEnvelope

namespace EnvelopeMetadata

/-- Metadata ignores a member under a name none of its fields has. -/
theorem ofJson_insertSorted {members : List (String × Json)} {key : String} {value : Json}
    (unknown : key ∉ ["correlationId", "traceId"]) :
    ofJson (.object (Json.insertSorted key value members)) = ofJson (.object members) := by
  unfold ofJson
  rw [recordFields_insertSorted]
  intro field member same
  simp only [List.mem_cons, List.not_mem_nil, or_false] at member
  rcases member with rfl | rfl <;> exact unknown (by simp [← same, FieldCheck.of])

end EnvelopeMetadata

namespace WireMessage

/-- A message ignores a member under a name none of its fields has. -/
theorem ofJson_insertSorted {members : List (String × Json)} {key : String} {value : Json}
    (unknown : key ∉ ["data", "metadata", "publishedAt"]) :
    ofJson (.object (Json.insertSorted key value members)) = ofJson (.object members) := by
  unfold ofJson
  rw [recordFields_insertSorted]
  intro field member same
  simp only [List.mem_cons, List.not_mem_nil, or_false] at member
  rcases member with rfl | rfl | rfl <;> exact unknown (by simp [← same, FieldCheck.of])

/-- A message read from an object has the envelope read from its member `data` and a date
and time value for its publication. -/
theorem ofJson_object {members : List (String × Json)} {m : WireMessage} (read : ofJson (.object members) = .ok m) :
    ∃ data, members.lookup "data" = some data ∧ EventEnvelope.ofJson data = .ok m.data ∧ m.publishedAt.Valid := by
  unfold ofJson at read
  obtain ⟨values, fieldsRead, read⟩ := bind_eq_ok_iff.1 read
  have dataFound : members.lookup "data" = some (fieldAt values 0) := recordFields_object_ok fieldsRead 0 (by decide)
  obtain ⟨data, dataRead, read⟩ := bind_eq_ok_iff.1 read
  obtain ⟨metadata, -, read⟩ := bind_eq_ok_iff.1 read
  obtain ⟨published, publishedRead, read⟩ := bind_eq_ok_iff.1 read
  cases read
  exact ⟨_, dataFound, dataRead, asInstant_valid publishedRead⟩

/-- What decoding needs of a message to give it back from its bytes: an event type, a
payload whose objects are sorted by key, whose numbers read back from their texts and
which nests less than 126 levels deep, and date and time values for its instants. -/
structure Decodable (m : WireMessage) : Prop where
  named : m.data.eventType ≠ ""
  readable : m.data.payload.NumbersReadable
  sorted : m.data.payload.KeysSorted
  shallow : m.data.payload.depth < 126
  stamped : m.data.timestamp.Valid
  published : m.publishedAt.Valid

theorem Decodable.decode {m : WireMessage} (decodable : m.Decodable) : decodeMessage m.encode.data = .ok m := by
  have read : Json.read m.encode.data = .ok m.sortedJson := by
    rw [encode, text, Json.read_compact (numbersReadable_toJson decodable.readable)
      (by rw [depth_toJson]; have := decodable.shallow; omega), normalize_toJson _ decodable.sorted]
  rw [decodeMessage, read]
  simp [hasEventType_sortedJson, decodable.named, ofJson_sortedJson _ decodable.stamped decodable.published]

end WireMessage

/-- The document holds a non-empty string at `data.eventType`. -/
def Json.NamesEventType (document : Json) : Prop :=
  ∃ data text, document.field? "data" = some data ∧ data.field? "eventType" = some (.string text) ∧ text ≠ ""

theorem hasEventType_iff {document : Json} : hasEventType document = true ↔ document.NamesEventType := by
  unfold Json.NamesEventType
  cases dataFound : document.field? "data" with
  | none => simp [hasEventType, dataFound]
  | some data =>
    cases typeFound : data.field? "eventType" with
    | none => simp [hasEventType, dataFound, typeFound]
    | some value => cases value <;> simp [hasEventType, dataFound, typeFound]

section Classes

variable {bytes : ByteArray}

theorem decodeMessage_notStructured {e : ReadError} :
    decodeMessage bytes = .error (.notStructured e) ↔ Json.read bytes = .error e := by
  unfold decodeMessage
  cases Json.read bytes with
  | error e' => simp
  | ok document =>
    simp only
    split
    · simp
    · split <;> simp

theorem decodeMessage_missingEventType :
    decodeMessage bytes = .error .missingEventType ↔
      ∃ document, Json.read bytes = .ok document ∧ ¬ document.NamesEventType := by
  unfold decodeMessage
  cases Json.read bytes with
  | error e => simp
  | ok document =>
    simp only [← hasEventType_iff]
    split
    · simp_all
    · split <;> simp_all

theorem decodeMessage_schema {e : ShapeError} :
    decodeMessage bytes = .error (.schema e) ↔
      ∃ document, Json.read bytes = .ok document ∧ document.NamesEventType ∧ WireMessage.ofJson document = .error e := by
  unfold decodeMessage
  cases Json.read bytes with
  | error e' => simp
  | ok document =>
    simp only [← hasEventType_iff]
    split
    · simp_all
    · split <;> simp_all

theorem decodeMessage_ok {m : WireMessage} :
    decodeMessage bytes = .ok m ↔
      ∃ document, Json.read bytes = .ok document ∧ document.NamesEventType ∧ WireMessage.ofJson document = .ok m := by
  unfold decodeMessage
  cases Json.read bytes with
  | error e => simp
  | ok document =>
    simp only [← hasEventType_iff]
    split
    · simp_all
    · split <;> simp_all

end Classes

/-- What a decoded message was read from: a document whose `data` was an object naming the
event type and holding the payload two levels below the top, under the reader's budget of
128 levels, with date and time values for its instants. -/
theorem decoded_parts {bytes : ByteArray} {m : WireMessage} (decoded : decodeMessage bytes = .ok m) :
    m.data.eventType ≠ "" ∧ m.data.payload.AsRead 126 ∧ m.data.timestamp.Valid ∧ m.publishedAt.Valid := by
  obtain ⟨document, read, ⟨data, text, dataFound, typeFound, named⟩, messageRead⟩ := decodeMessage_ok.1 decoded
  cases document with
  | object members =>
    obtain ⟨data', dataFound', envelopeRead, published⟩ := WireMessage.ofJson_object messageRead
    have same : data' = data := Option.some.inj (dataFound'.symm.trans dataFound)
    subst same
    cases data' with
    | object fields =>
      obtain ⟨typeFound', payloadFound, stamped⟩ := EventEnvelope.ofJson_object envelopeRead
      have sameType : m.data.eventType = text := by
        have := typeFound'.symm.trans typeFound
        simpa using this
      have payloadRead := ((Json.read_asRead read).member (mem_of_lookup dataFound')).member
        (mem_of_lookup payloadFound)
      exact ⟨sameType ▸ named, payloadRead, stamped, published⟩
    | _ => simp [Json.field?] at typeFound
  | _ => simp [Json.field?] at dataFound

/-- A decoded message has all that decoding needs to give it back from its own bytes,
once the binary64 numbers of its payload read back. -/
theorem decodable_of_decoded {bytes : ByteArray} {m : WireMessage} (decoded : decodeMessage bytes = .ok m)
    (floats : m.data.payload.FloatsReadBack) : m.Decodable := by
  obtain ⟨named, payloadRead, stamped, published⟩ := decoded_parts decoded
  have deep := payloadRead.shallow
  exact ⟨named, payloadRead.numbersReadable floats, payloadRead.sorted, by omega, stamped, published⟩

/-- Decoding tells the cause of each failure apart, in the order its checks are made: the
bytes are no JSON document, the document names no event type at `data.eventType`, or
the document has not the wire message's shape, where records ignore members under
other names and a text that repeats a key keeps the value written last. What it
decodes names an event type and decodes again from its own bytes, so decoding then
encoding normalises, once and for all, where the binary64 numbers of the payload read
back from their texts. -/
theorem decodeMessage_stable_and_classified :
    (∀ bytes : ByteArray,
      (∀ e, decodeMessage bytes = .error (.notStructured e) ↔ Json.read bytes = .error e) ∧
      (decodeMessage bytes = .error .missingEventType ↔
        ∃ document, Json.read bytes = .ok document ∧ ¬ document.NamesEventType) ∧
      (∀ e, decodeMessage bytes = .error (.schema e) ↔
        ∃ document, Json.read bytes = .ok document ∧ document.NamesEventType ∧
          WireMessage.ofJson document = .error e) ∧
      (∀ m, decodeMessage bytes = .ok m → m.data.eventType ≠ "" ∧
        (m.data.payload.FloatsReadBack → decodeMessage m.encode.data = .ok m))) ∧
    (∀ members key value, key ∉ ["data", "metadata", "publishedAt"] →
      WireMessage.ofJson (.object (Json.insertSorted key value members)) = WireMessage.ofJson (.object members)) ∧
    (∀ members key value, key ∉ ["eventId", "eventType", "timestamp", "version", "source", "payload"] →
      EventEnvelope.ofJson (.object (Json.insertSorted key value members)) =
        EventEnvelope.ofJson (.object members)) ∧
    (∀ members key value, key ∉ ["correlationId", "traceId"] →
      EnvelopeMetadata.ofJson (.object (Json.insertSorted key value members)) =
        EnvelopeMetadata.ofJson (.object members)) ∧
    (∀ members : List (String × Json), (Json.object members).NumbersReadable → (Json.object members).depth < 128 →
      ∀ key, (Json.read (Json.object members).compact.toUTF8).toOption.bind (·.field? key) =
        (members.reverse.lookup key).map Json.normalize) := by
  refine ⟨fun bytes => ⟨fun e => decodeMessage_notStructured, decodeMessage_missingEventType,
    fun e => decodeMessage_schema, fun m decoded => ?_⟩, fun _ _ _ unknown => WireMessage.ofJson_insertSorted unknown,
    fun _ _ _ unknown => EventEnvelope.ofJson_insertSorted unknown,
    fun _ _ _ unknown => EnvelopeMetadata.ofJson_insertSorted unknown,
    fun _ readable shallow key => Json.read_compact_field readable shallow key⟩
  exact ⟨(decoded_parts decoded).1, fun floats => (decodable_of_decoded decoded floats).decode⟩

/-- A message with an integer in its payload decodes from its bytes and again from the
bytes of what it decodes to; a message member under another name is ignored; and reading
an object that gives the key `a` twice keeps the second value. -/
theorem decoding_laws_on_samples :
    let m : WireMessage :=
      ⟨⟨"e", "t", ⟨19723, 0, 0⟩, "1.0", "s", .object [("n", .nat 7)]⟩, ⟨"c", "r"⟩, ⟨19723, 0, 0⟩⟩
    let twice : List (String × Json) := [("a", .nat 1), ("a", .nat 2)]
    decodeMessage m.encode.data = .ok m ∧ m.data.eventType ≠ "" ∧ decodeMessage m.encode.data = .ok m ∧
      WireMessage.ofJson (.object (Json.insertSorted "x" .null
        [("data", m.data.sortedJson), ("metadata", m.metadata.toJson), ("publishedAt", m.publishedAt.toJson)])) =
          .ok m ∧
      (Json.read (Json.object twice).compact.toUTF8).toOption.bind (·.field? "a") = some (.nat 2) := by
  intro m twice
  have laws := decodeMessage_stable_and_classified
  have decodable : m.Decodable :=
    ⟨by decide, by simp [m, Json.NumbersReadable, Json.MembersReadable, JsonNumber.Readable, Json.nat, Reader.wordMax],
      ⟨fun _ absent => absurd absent List.not_mem_nil, trivial, trivial⟩, by decide,
      ⟨by decide, by decide, by decide, by decide⟩, ⟨by decide, by decide, by decide, by decide⟩⟩
  have decoded := decodable.decode
  have floats : m.data.payload.FloatsReadBack := fun x member => by
    simp [m, Json.numbers, Json.numbersMembers, Json.nat] at member
  obtain ⟨named, again⟩ := (laws.1 m.encode.data).2.2.2 m decoded
  refine ⟨decoded, named, again floats, ?_, ?_⟩
  · rw [laws.2.1 _ "x" .null (by decide)]
    exact WireMessage.ofJson_sortedJson m decodable.stamped decodable.published
  rw [laws.2.2.2.2 twice (by simp [twice, Json.NumbersReadable, Json.MembersReadable, JsonNumber.Readable, Json.nat,
    Reader.wordMax]) (by decide) "a"]
  rfl

end Courier
