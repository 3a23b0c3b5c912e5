import FoldAtlas.Proofs.Envelope.Transit
import FoldAtlas.Proofs.Json.Depth
import FoldAtlas.Proofs.Json.Reading
import FoldAtlas.Proofs.Json.Rereading

/-!
# The grammar of envelopes

Which values are requests, responses and notifications, in terms of their members alone
(`Json.Asks`, `Json.Answers`, `Json.Notifies`), and that a payload is told to be one of
them exactly if its value is one (`Message.grammar_is_exact`). What is told is what the
members say; parameters, a result, an error or its data that are `null` count as absent.

Two limits lie before this grammar, in the reader: a text that is nested too deeply is no
value, and a double may be read as one of its neighbours (`Message.grammar_has_limits`).
-/

namespace FoldAtlas

/-! ## Values and members -/

/-- Whether a value identifies a request: an unsigned integer of 64 bits, or a string. -/
inductive Json.Identifies : Json → RequestId → Prop where
  | number (value : UInt64) : Json.Identifies (.natural value.toNat) (.number value)
  | text (value : String) : Json.Identifies (.string value) (.text value)

/-- Whether a member that may be missing stands for a value or for none. A member that is
`null` stands for none. -/
def Json.StandsFor {α : Type} (reads : Json → α → Prop) (found : Option Json) : Option α → Prop
  | none => Json.stated? found = none
  | some value => ∃ source, Json.stated? found = some source ∧ reads source value

/-- Whether a value reports an error: as an object, or as an array of its code, its wording
and possibly data. -/
inductive Json.Reports : Json → ResponseError → Prop where
  | object {members : List (String × Json)} {error : ResponseError}
      (code : List.lookup "code" members = some (.integer error.code.toInt))
      (message : List.lookup "message" members = some (.string error.message))
      (data : error.data = Json.stated? (List.lookup "data" members)) :
      Json.Reports (.object members) error
  | pair (code : Int32) (message : String) :
      Json.Reports (.array [.integer code.toInt, .string message]) ⟨code, message, none⟩
  | triple (code : Int32) (message : String) (data : Json) :
      Json.Reports (.array [.integer code.toInt, .string message, data])
        ⟨code, message, Json.stated? (some data)⟩

/-- Whether a value is a request: an object with an identifier and a method. -/
structure Json.Asks (value : Json) (asked : Request) : Prop where
  /-- The version is a string. -/
  version : value.member? "jsonrpc" = some (.string asked.version)
  /-- The identifier is one. -/
  identified : ∃ given, value.member? "id" = some given ∧ given.Identifies asked.id
  /-- The method is a string. -/
  directed : value.member? "method" = some (.string asked.method)
  /-- The parameters are anything. -/
  params : asked.params = Json.stated? (value.member? "params")

/-- Whether a value is a response: an object with an identifier and without a method. -/
structure Json.Answers (value : Json) (given : Response) : Prop where
  /-- The version is a string. -/
  version : value.member? "jsonrpc" = some (.string given.version)
  /-- There is an identifier. -/
  addressed : (value.member? "id").isSome = true
  /-- The identifier is one, or `null`. -/
  identified : Json.StandsFor Json.Identifies (value.member? "id") given.id
  /-- There is no method. -/
  undirected : value.member? "method" = none
  /-- The result is anything. -/
  result : given.result = Json.stated? (value.member? "result")
  /-- The error is one, if there is any. -/
  error : Json.StandsFor Json.Reports (value.member? "error") given.error

/-- Whether a value is a notification: an object with a method and without an identifier. -/
structure Json.Notifies (value : Json) (notice : Notification) : Prop where
  /-- The version is a string. -/
  version : value.member? "jsonrpc" = some (.string notice.version)
  /-- There is no identifier. -/
  anonymous : value.member? "id" = none
  /-- The method is a string. -/
  directed : value.member? "method" = some (.string notice.method)
  /-- The parameters are anything. -/
  params : notice.params = Json.stated? (value.member? "params")

/-- Whether what is made of a value is the message that it is, and an error if it is
none. -/
structure Json.Means (value : Json) (outcome : Except JsonFault Message) : Prop where
  /-- A request is told exactly from one. -/
  request : ∀ asked, outcome = .ok (.request asked) ↔ value.Asks asked
  /-- A response is told exactly from one. -/
  response : ∀ given, outcome = .ok (.response given) ↔ value.Answers given
  /-- A notification is told exactly from one. -/
  notification : ∀ notice, outcome = .ok (.notification notice) ↔ value.Notifies notice
  /-- Every other value is an error. -/
  refused : (∃ fault, outcome = .error fault) ↔
    (∀ asked, ¬ value.Asks asked) ∧ (∀ given, ¬ value.Answers given) ∧
      ∀ notice, ¬ value.Notifies notice

/-! ## What codecs accept -/

namespace Codec

/-- A string is read from itself alone. -/
theorem text_decode_eq_ok_iff {source : Json} {value : String} :
    text.decode source = .ok value ↔ source = .string value := by
  cases source <;> simp [text]

/-- A value that may be missing is read from what is not `null`, and its lack from
`null`. -/
theorem optional_decode_eq_ok_iff {α : Type} {codec : Codec α} {source : Json}
    {value : Option α} :
    codec.optional.decode source = .ok value ↔
      Json.StandsFor (fun source value => codec.decode source = .ok value) (some source) value := by
  have given (other : source ≠ .null) :
      codec.optional.decode source = (codec.decode source).map some ∧
        Json.stated? (some source) = some source := by
    cases source with
    | null => exact absurd rfl other
    | bool | number | string | array | object => exact ⟨rfl, rfl⟩
  by_cases null : source = .null
  · subst null
    cases value <;> simp [optional, Json.StandsFor, Json.stated?]
  · obtain ⟨decoded, stated⟩ := given null
    rw [decoded]
    cases value <;> cases read : codec.decode source <;>
      simp [Json.StandsFor, stated, read, Except.map]

end Codec

/-- An identifier is read from what identifies a request. -/
theorem RequestId.decode_eq_ok_iff {source : Json} {id : RequestId} :
    RequestId.codec.decode source = .ok id ↔ source.Identifies id := by
  constructor
  · intro decoded
    simp only [RequestId.codec] at decoded
    split at decoded
    · next value read =>
      obtain rfl := Except.ok.inj decoded
      rw [Codec.unsigned64_decode_eq_ok_iff.mp read]
      exact .number value
    · obtain rfl := Except.ok.inj decoded
      exact .text _
    · cases decoded
  · rintro (⟨value⟩ | ⟨value⟩)
    · have read := Codec.unsigned64_decode_eq_ok_iff.mpr (rfl : Json.natural value.toNat = _)
      simp only [RequestId.codec, read]
    · rfl

/-! ## Fields -/

namespace Field

variable {α : Type} {codec : Codec α} {name : String} {found : Option Json}

/-- A field that must be given is read from its member. -/
theorem required_reads_iff {value : α} :
    (required name codec).Reads found value ↔
      ∃ source, found = some source ∧ codec.decode source = .ok value := by
  cases found with
  | none => simp [Reads, required]
  | some source => simp [Reads, required]

/-- A string that must be given is its member. -/
theorem required_text_reads_iff {value : String} :
    (required name .text).Reads found value ↔ found = some (.string value) := by
  simp only [required_reads_iff, Codec.text_decode_eq_ok_iff]
  constructor
  · rintro ⟨_, rfl, rfl⟩
    rfl
  · rintro rfl
    exact ⟨_, rfl, rfl⟩

/-- A field that need not be given is read from what its member stands for. -/
theorem optional_reads_iff {value : Option α} :
    (optional name codec).Reads found value ↔
      Json.StandsFor (fun source value => codec.decode source = .ok value) found value := by
  cases found with
  | none => cases value <;> simp [Reads, optional, Json.StandsFor, Json.stated?]
  | some source => exact Codec.optional_decode_eq_ok_iff

/-- A field that an object need not give is read from what its member stands for. -/
theorem nullable_reads_iff {value : Option α} :
    (nullable name codec).Reads found value ↔
      Json.StandsFor (fun source value => codec.decode source = .ok value) found value := by
  cases found with
  | none => cases value <;> simp [Reads, nullable, Json.StandsFor, Json.stated?]
  | some source => exact Codec.optional_decode_eq_ok_iff

/-- Anything that need not be given is its member, if that says anything. -/
theorem optional_any_reads_iff {value : Option Json} :
    (optional name .any).Reads found value ↔ value = Json.stated? found := by
  rw [optional_reads_iff]
  cases value with
  | none => exact eq_comm
  | some value =>
    simp only [Json.StandsFor, Codec.any, Except.ok.injEq]
    constructor
    · rintro ⟨_, stated, rfl⟩
      exact stated.symm
    · intro stated
      exact ⟨value, stated.symm, rfl⟩

end Field

/-! ## Errors -/

namespace ResponseError

variable {error : ResponseError}

/-- An object is read as the error that it reports. -/
theorem decode_object_eq_ok_iff {members : List (String × Json)}
    (distinct : (members.map Prod.fst).Nodup) :
    codec.decode (.object members) = .ok error ↔ Json.Reports (.object members) error := by
  rw [codec, Fields.codec_decode_eq_ok_iff]
  simp only [Fields.decode_object_iff nodup_names distinct]
  constructor
  · rintro ⟨⟨code, message, data, ⟨⟩⟩, ⟨coded, worded, stated, -⟩, rfl⟩
    obtain ⟨source, found, decoded⟩ := Field.required_reads_iff.mp coded
    rw [Codec.signed32_decode_eq_ok_iff] at decoded
    exact .object (decoded ▸ found) (Field.required_text_reads_iff.mp worded)
      (Field.optional_any_reads_iff.mp stated)
  · rintro ⟨coded, worded, stated⟩
    exact ⟨(error.code, error.message, error.data, ()),
      ⟨Field.required_reads_iff.mpr ⟨_, coded, Codec.signed32_decode_eq_ok_iff.mpr rfl⟩,
        Field.required_text_reads_iff.mpr worded, Field.optional_any_reads_iff.mpr stated,
        trivial⟩, rfl⟩

/-- An array is read as the error that it reports. -/
theorem decode_array_eq_ok_iff {items : List Json} :
    codec.decode (.array items) = .ok error ↔ Json.Reports (.array items) error := by
  rw [codec, Fields.codec_decode_eq_ok_iff]
  simp only [Fields.decode_array_iff]
  constructor
  · rintro ⟨⟨code, message, data, ⟨⟩⟩, taken, rfl⟩
    rcases items with _ | ⟨first, _ | ⟨second, _ | ⟨third, rest⟩⟩⟩
    · cases taken.1
    · cases taken.2.1
    · obtain ⟨coded, worded, missing, -⟩ := taken
      rw [Codec.signed32_decode_eq_ok_iff.mp coded, Codec.text_decode_eq_ok_iff.mp worded]
      cases missing
      exact .pair code message
    · obtain ⟨coded, worded, given, none⟩ := taken
      have stated : data = Json.stated? (some third) := Field.optional_any_reads_iff.mp given
      have last : rest = [] := none
      rw [Codec.signed32_decode_eq_ok_iff.mp coded, Codec.text_decode_eq_ok_iff.mp worded, stated,
        last]
      exact .triple code message third
  · rintro (_ | ⟨code, message⟩ | ⟨code, message, data⟩)
    · exact ⟨(code, message, none, ()), ⟨Codec.signed32_decode_eq_ok_iff.mpr rfl, rfl, rfl, rfl⟩,
        rfl⟩
    · have given : (Field.optional "data" .any).Reads (some data) (Json.stated? (some data)) :=
        Field.optional_any_reads_iff.mpr rfl
      exact ⟨(code, message, Json.stated? (some data), ()),
        ⟨Codec.signed32_decode_eq_ok_iff.mpr rfl, rfl, given, rfl⟩, rfl⟩

/-- A value in order is read as the error that it reports. -/
theorem decode_eq_ok_iff {source : Json} (same : source.sorted = source) :
    codec.decode source = .ok error ↔ source.Reports error := by
  cases source with
  | object members => exact decode_object_eq_ok_iff (Json.nodup_of_sorted same)
  | array items => exact decode_array_eq_ok_iff
  | null | bool | number | string =>
    constructor
    · intro decoded
      cases decoded
    · rintro ⟨⟩

end ResponseError

/-! ## Envelopes -/

section

variable {members : List (String × Json)}

/-- What stands for a value does not depend on how reading it is put. -/
theorem Json.standsFor_congr {α : Type} {reads others : Json → α → Prop} {found : Option Json}
    {value : Option α}
    (same : ∀ source ∈ found, ∀ value, reads source value ↔ others source value) :
    Json.StandsFor reads found value ↔ Json.StandsFor others found value := by
  cases value with
  | none => exact Iff.rfl
  | some value =>
    have given {source : Json} (stated : Json.stated? found = some source) : source ∈ found := by
      unfold Json.stated? at stated
      split at stated
      · cases stated
      · exact stated
    exact exists_congr fun source => and_congr_right fun stated => same source (given stated) value

/-- An object is read as the request that it is. -/
theorem Request.decode_eq_ok_iff {asked : Request} (distinct : (members.map Prod.fst).Nodup) :
    Request.codec.decode (.object members) = .ok asked ↔ (Json.object members).Asks asked := by
  rw [codec, Fields.codec_decode_eq_ok_iff]
  simp only [Fields.decode_object_iff nodup_names distinct]
  constructor
  · rintro ⟨⟨version, id, method, params, ⟨⟩⟩, ⟨versioned, identified, directed, stated, -⟩, rfl⟩
    obtain ⟨source, found, decoded⟩ := Field.required_reads_iff.mp identified
    exact ⟨Field.required_text_reads_iff.mp versioned,
      ⟨source, found, RequestId.decode_eq_ok_iff.mp decoded⟩,
      Field.required_text_reads_iff.mp directed, Field.optional_any_reads_iff.mp stated⟩
  · rintro ⟨versioned, ⟨source, found, identifies⟩, directed, stated⟩
    exact ⟨(asked.version, asked.id, asked.method, asked.params, ()),
      ⟨Field.required_text_reads_iff.mpr versioned,
        Field.required_reads_iff.mpr ⟨source, found, RequestId.decode_eq_ok_iff.mpr identifies⟩,
        Field.required_text_reads_iff.mpr directed, Field.optional_any_reads_iff.mpr stated,
        trivial⟩, rfl⟩

/-- An object without an identifier is read as the notification that it is. -/
theorem Notification.decode_eq_ok_iff {notice : Notification}
    (distinct : (members.map Prod.fst).Nodup) (anonymous : List.lookup "id" members = none) :
    Notification.codec.decode (.object members) = .ok notice ↔
      (Json.object members).Notifies notice := by
  rw [codec, Fields.codec_decode_eq_ok_iff]
  simp only [Fields.decode_object_iff nodup_names distinct]
  constructor
  · rintro ⟨⟨version, method, params, ⟨⟩⟩, ⟨versioned, directed, stated, -⟩, rfl⟩
    exact ⟨Field.required_text_reads_iff.mp versioned, anonymous,
      Field.required_text_reads_iff.mp directed, Field.optional_any_reads_iff.mp stated⟩
  · rintro ⟨versioned, -, directed, stated⟩
    exact ⟨(notice.version, notice.method, notice.params, ()),
      ⟨Field.required_text_reads_iff.mpr versioned, Field.required_text_reads_iff.mpr directed,
        Field.optional_any_reads_iff.mpr stated, trivial⟩, rfl⟩

/-- An object with an identifier and without a method is read as the response that it is. -/
theorem Response.decode_eq_ok_iff {given : Response}
    (same : (Json.object members).sorted = .object members)
    (addressed : (List.lookup "id" members).isSome = true)
    (undirected : List.lookup "method" members = none) :
    Response.codec.decode (.object members) = .ok given ↔ (Json.object members).Answers given := by
  have distinct := Json.nodup_of_sorted same
  have identified (id : Option RequestId) :
      (Field.nullable "id" RequestId.codec).Reads (List.lookup "id" members) id ↔
        Json.StandsFor Json.Identifies (List.lookup "id" members) id :=
    Field.nullable_reads_iff.trans
      (Json.standsFor_congr fun _ _ _ => RequestId.decode_eq_ok_iff)
  have failed (error : Option ResponseError) :
      (Field.optional "error" ResponseError.codec).Reads (List.lookup "error" members) error ↔
        Json.StandsFor Json.Reports (List.lookup "error" members) error :=
    Field.optional_reads_iff.trans (Json.standsFor_congr fun source found _ =>
      ResponseError.decode_eq_ok_iff
        (Json.arranges_sorted.inner members same _ (Keyed.mem_of_lookup found)))
  rw [codec, Fields.codec_decode_eq_ok_iff]
  simp only [Fields.decode_object_iff nodup_names distinct]
  constructor
  · rintro ⟨⟨version, id, result, error, ⟨⟩⟩, ⟨versioned, named, stated, reported, -⟩, rfl⟩
    exact ⟨Field.required_text_reads_iff.mp versioned, addressed, (identified id).mp named,
      undirected, Field.optional_any_reads_iff.mp stated, (failed error).mp reported⟩
  · rintro ⟨versioned, -, named, -, stated, reported⟩
    exact ⟨(given.version, given.id, given.result, given.error, ()),
      ⟨Field.required_text_reads_iff.mpr versioned, (identified given.id).mpr named,
        Field.optional_any_reads_iff.mpr stated, (failed given.error).mpr reported, trivial⟩, rfl⟩

end

namespace Message

variable {value : Json} {payload : Bytes}

/-- What has a member is an object. -/
theorem exists_members {name : String} (found : (value.member? name).isSome = true) :
    ∃ members, value = .object members := by
  cases value with
  | object members => exact ⟨members, rfl⟩
  | null | bool | number | string | array => cases found

/-- What is changed where it succeeds. -/
theorem map_eq_ok_iff {ε α β : Type} {change : α → β} {outcome : Except ε α} {result : β} :
    outcome.map change = .ok result ↔ ∃ value, outcome = .ok value ∧ change value = result := by
  cases outcome <;> simp [Except.map]

/-- A value in order is told to be a request exactly if it is one. -/
theorem decode_eq_request_iff (same : value.sorted = value) {asked : Request} :
    decode value = .ok (.request asked) ↔ value.Asks asked := by
  constructor
  · intro told
    simp only [decode] at told
    split at told
    · next identified directed =>
      obtain ⟨members, rfl⟩ := exists_members identified
      obtain ⟨_, decoded, kind⟩ := map_eq_ok_iff.mp told
      cases kind
      exact (Request.decode_eq_ok_iff (Json.nodup_of_sorted same)).mp decoded
    · obtain ⟨_, -, other⟩ := map_eq_ok_iff.mp told
      cases other
    · obtain ⟨_, -, other⟩ := map_eq_ok_iff.mp told
      cases other
    · cases told
  · intro asks
    obtain ⟨given, found, -⟩ := asks.identified
    have identified : (value.member? "id").isSome = true := by rw [found, Option.isSome_some]
    have directed : (value.member? "method").isSome = true := by
      rw [asks.directed, Option.isSome_some]
    obtain ⟨members, rfl⟩ := exists_members identified
    simp only [decode, identified, directed]
    exact map_eq_ok_iff.mpr
      ⟨asked, (Request.decode_eq_ok_iff (Json.nodup_of_sorted same)).mpr asks, rfl⟩

/-- A value in order is told to be a response exactly if it is one. -/
theorem decode_eq_response_iff (same : value.sorted = value) {given : Response} :
    decode value = .ok (.response given) ↔ value.Answers given := by
  constructor
  · intro told
    simp only [decode] at told
    split at told
    · obtain ⟨_, -, other⟩ := map_eq_ok_iff.mp told
      cases other
    · next identified undirected =>
      obtain ⟨members, rfl⟩ := exists_members identified
      obtain ⟨_, decoded, kind⟩ := map_eq_ok_iff.mp told
      cases kind
      have absent : (Json.object members).member? "method" = none := by simpa using undirected
      exact (Response.decode_eq_ok_iff same identified absent).mp decoded
    · obtain ⟨_, -, other⟩ := map_eq_ok_iff.mp told
      cases other
    · cases told
  · intro answers
    have identified := answers.addressed
    have undirected : (value.member? "method").isSome = false := by
      rw [answers.undirected, Option.isSome_none]
    obtain ⟨members, rfl⟩ := exists_members identified
    simp only [decode, identified, undirected]
    exact map_eq_ok_iff.mpr
      ⟨given, (Response.decode_eq_ok_iff same identified answers.undirected).mpr answers, rfl⟩

/-- A value in order is told to be a notification exactly if it is one. -/
theorem decode_eq_notification_iff (same : value.sorted = value) {notice : Notification} :
    decode value = .ok (.notification notice) ↔ value.Notifies notice := by
  constructor
  · intro told
    simp only [decode] at told
    split at told
    · obtain ⟨_, -, other⟩ := map_eq_ok_iff.mp told
      cases other
    · obtain ⟨_, -, other⟩ := map_eq_ok_iff.mp told
      cases other
    · next anonymous directed =>
      obtain ⟨members, rfl⟩ := exists_members directed
      obtain ⟨_, decoded, kind⟩ := map_eq_ok_iff.mp told
      cases kind
      have absent : (Json.object members).member? "id" = none := by simpa using anonymous
      exact (Notification.decode_eq_ok_iff (Json.nodup_of_sorted same) absent).mp decoded
    · cases told
  · intro notifies
    have anonymous : (value.member? "id").isSome = false := by
      rw [notifies.anonymous, Option.isSome_none]
    have directed : (value.member? "method").isSome = true := by
      rw [notifies.directed, Option.isSome_some]
    obtain ⟨members, rfl⟩ := exists_members directed
    simp only [decode, anonymous, directed]
    exact map_eq_ok_iff.mpr ⟨notice,
      (Notification.decode_eq_ok_iff (Json.nodup_of_sorted same) notifies.anonymous).mpr notifies,
      rfl⟩

/-- What is told exactly of each kind of message is an error for every other value. -/
theorem means_of_kinds {outcome : Except JsonFault Message}
    (request : ∀ asked, outcome = .ok (.request asked) ↔ value.Asks asked)
    (response : ∀ given, outcome = .ok (.response given) ↔ value.Answers given)
    (notification : ∀ notice, outcome = .ok (.notification notice) ↔ value.Notifies notice) :
    value.Means outcome where
  request := request
  response := response
  notification := notification
  refused := by
    simp only [← request, ← response, ← notification]
    cases outcome with
    | error fault => simp
    | ok message => cases message <;> simp

/-- A payload is told to be the message that its value is. -/
theorem means_of_read (spelled : Json.read payload = .ok value) :
    value.Means (ofPayload payload) := by
  have same := Json.sorted_of_read spelled
  have told {message : Message} : ofPayload payload = .ok message ↔ decode value = .ok message := by
    simp only [ofPayload, spelled]
    cases decode value <;> simp
  exact means_of_kinds (fun _ => told.trans (decode_eq_request_iff same))
    (fun _ => told.trans (decode_eq_response_iff same))
    (fun _ => told.trans (decode_eq_notification_iff same))

/-- Every payload that is read as a value is told to be the message that the value is. So is
the text of any value whose numbers come back, if the value is not nested too deeply, and if
it is, its text is an error. -/
theorem grammar_is_exact (value : Json) :
    (∀ payload, Json.read payload = .ok value → value.Means (ofPayload payload)) ∧
    (value.AllNumbers Json.Number.Returns →
      (value.nesting ≤ Json.maxNesting →
        value.sorted.Means (ofPayload (Bytes.ofText value.compact))) ∧
      (Json.maxNesting < value.nesting →
        ofPayload (Bytes.ofText value.compact) = .error (.unreadable .malformed))) := by
  refine ⟨fun payload spelled => means_of_read spelled, fun returns => ⟨fun shallow => ?_, ?_⟩⟩
  · exact means_of_read (returns.read_compact shallow)
  · intro deep
    simp only [ofPayload, returns.read_compact_of_deep deep]

/-- A request with odd spaces, an escape in a name and parameters that say nothing. -/
def spacedRequest : Bytes :=
  Bytes.ofText ("\x7b\"method\" :\t\"m\",\n \"\\u0069d\": 18446744073709551615,\"x\":[]," ++
    "\"params\":null, \"jsonrpc\":\"1\"\x7d ")

/-- A response without an identifier, the members of whose error are unsorted, with a
double. -/
def unsortedResponse : Json :=
  .object [("jsonrpc", .string "2.0"), ("id", .null), ("error", .array [.integer (-1), .string "e",
    .object [("b", .number (.double ⟨false, 6755399441055744, 1022⟩)), ("a", .null)]])]

/-- The request and the response are told to be what they are. -/
theorem grammar_of_oddEnvelopes :
    ofPayload spacedRequest = .ok (.request ⟨"1", .number 18446744073709551615, "m", none⟩) ∧
      ofPayload (Bytes.ofText unsortedResponse.compact) = .ok (.response ⟨"2.0", none, none,
        some ⟨-1, "e", some (.object [("a", .null),
          ("b", .number (.double ⟨false, 6755399441055744, 1022⟩))])⟩⟩) := by
  have spelled : Json.read spacedRequest = .ok (.object [("id", .natural 18446744073709551615),
      ("jsonrpc", .string "1"), ("method", .string "m"), ("params", .null), ("x", .array [])]) := by
    rfl
  have shallow : unsortedResponse.nesting ≤ Json.maxNesting := by decide
  have double : (Json.Number.double ⟨false, 6755399441055744, 1022⟩).Returns := by decide +kernel
  have returns : unsortedResponse.AllNumbers Json.Number.Returns := by
    have data : Json.AllNumbers Json.Number.Returns (.object
        [("b", .number (.double ⟨false, 6755399441055744, 1022⟩)), ("a", .null)]) :=
      .object (by simpa using ⟨.number double, .null⟩)
    have code : (Json.integer (-1)).AllNumbers Json.Number.Returns :=
      .number (Json.returns_integer (by decide) (by decide))
    refine .object ?_
    simpa using ⟨.string "2.0", .null, .array (by simpa using ⟨code, .string "e", data⟩)⟩
  refine ⟨?_, ?_⟩
  · refine (((grammar_is_exact _).1 _ spelled).request _).mpr ⟨rfl, ⟨_, rfl, ?_⟩, rfl, rfl⟩
    exact .number 18446744073709551615
  · refine ((((grammar_is_exact _).2 returns).1 shallow).response _).mpr
      ⟨rfl, rfl, rfl, rfl, rfl, ⟨_, rfl, ?_⟩⟩
    exact .triple (-1) "e" _

/-- An array in as many others. -/
def enclosed : Nat → Json
  | 0 => .array []
  | count + 1 => .array [enclosed count]

/-- Enclosed arrays are nested as often as they are enclosed, and in order. -/
theorem enclosed_plain (count : Nat) : (enclosed count).nesting = count + 1 ∧
    (enclosed count).sorted = enclosed count ∧
      (enclosed count).AllNumbers Json.Number.Returns := by
  induction count with
  | zero => exact ⟨rfl, rfl, .array (by simp)⟩
  | succ count ih =>
    obtain ⟨nesting, same, returns⟩ := ih
    refine ⟨?_, ?_, .array (by simpa using returns)⟩
    · simp [enclosed, Json.nesting, Json.nestingOfItems, nesting]
    · simp [enclosed, Json.sorted, Json.sortedItems, same]

/-- A request with given parameters. -/
def requestFor (params : Json) : Json :=
  .object [("id", .natural 1), ("jsonrpc", .string "2.0"), ("method", .string "m"),
    ("params", params)]

/-- A request is in order if its parameters are. -/
theorem requestFor_sorted {params : Json} (same : params.sorted = params) :
    (requestFor params).sorted = requestFor params := by
  have names : ["id", "jsonrpc", "method", "params"].Pairwise (· < ·) := by decide +kernel
  have increasing : Keyed.Increasing [("id", Json.natural 1), ("jsonrpc", .string "2.0"),
      ("method", .string "m"), ("params", params)] := (List.pairwise_map (f := Prod.fst)).mp names
  simp only [requestFor, Json.natural, Json.sorted, Json.sortedMembers, same]
  exact congrArg Json.object (Keyed.sort_of_increasing increasing)

/-- A request is what it asks for. -/
theorem requestFor_asks (params : Json) :
    (requestFor params).Asks ⟨"2.0", .number 1, "m", Json.stated? (some params)⟩ :=
  ⟨rfl, ⟨_, rfl, .number 1⟩, rfl, rfl⟩

/-- A request whose parameters are nested too deeply. -/
def deepRequest : Json := requestFor (enclosed 127)

/-- Nothing is wrong with a request that is nested too deeply, but its text is refused. -/
theorem deepRequest_refused : deepRequest.sorted = deepRequest ∧
    deepRequest.AllNumbers Json.Number.Returns ∧
      ofPayload (Bytes.ofText deepRequest.compact) = .error (.unreadable .malformed) := by
  obtain ⟨nesting, same, returns⟩ := enclosed_plain 127
  have deep : Json.maxNesting < deepRequest.nesting := by
    simp [deepRequest, requestFor, Json.natural, Json.nesting, Json.nestingOfMembers, nesting,
      Json.maxNesting]
  have numbers : deepRequest.AllNumbers Json.Number.Returns := by
    have id : (Json.natural 1).AllNumbers Json.Number.Returns :=
      .number (Json.returns_integer (by decide) (by decide))
    refine .object ?_
    simpa using ⟨id, .string "2.0", .string "m", returns⟩
  refine ⟨requestFor_sorted same, numbers, ?_⟩
  simp only [ofPayload, numbers.read_compact_of_deep deep]

/-- The double that a message has for its parameters. -/
def doubleOf? : Except JsonFault Message → Option Binary64
  | .ok (.request ⟨_, _, _, some (.number (.double value))⟩) => some value
  | _ => none

/-- Without a limit to its depth, or with doubles that do not come back, a value is not
always told to be the message that it is: a request whose parameters are too deep is an
error, and a request may be told to have another double for its parameters. -/
theorem grammar_has_limits :
    ¬ (∀ value : Json, value.sorted = value → value.AllNumbers Json.Number.Returns →
      value.Means (ofPayload (Bytes.ofText value.compact))) ∧
    ¬ (∀ value : Json, value.sorted = value → value.nesting ≤ Json.maxNesting →
      value.Means (ofPayload (Bytes.ofText value.compact))) := by
  constructor
  · intro claimed
    obtain ⟨same, returns, refused⟩ := deepRequest_refused
    have told := ((claimed _ same returns).request _).mpr (requestFor_asks (enclosed 127))
    rw [refused] at told
    cases told
  · intro claimed
    let double : Json := .number (.double ⟨false, 8794761699453570, 1026⟩)
    have told := ((claimed _ (requestFor_sorted (rfl : double.sorted = double))
      (by decide)).request _).mpr (requestFor_asks double)
    have moved : doubleOf? (ofPayload (Bytes.ofText (requestFor double).compact)) =
        some ⟨false, 8794761699453571, 1026⟩ := by decide +kernel
    rw [told] at moved
    cases moved

end Message

end FoldAtlas
