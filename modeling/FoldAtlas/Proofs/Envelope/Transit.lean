import FoldAtlas.Envelope
import FoldAtlas.Proofs.Frame.Payloads
import FoldAtlas.Proofs.Json.Documents
import FoldAtlas.Proofs.Json.Members

/-!
# Messages in transit

A message that is written and read again is the same message of the same kind, except that
`null` for parameters, for a result or for the data of an error is taken for none
(`survives_transit`). That a response means the same to the call it answers holds
but for one that carries an error beside the result `null`: with a result, it breaks the
protocol, and without one, it brings the error (`null_result_is_lost`).

Messages hold values of any kind. As these are kept, their members are in order; their
numbers are integers here, because only integers are read back without a word about how
doubles are written.
-/

namespace FoldAtlas

/-- A value that says something: `null` is as good as none. -/
def Json.stated? : Option Json → Option Json
  | some .null => none
  | other => other

/-- Whether a value comes through as it is: its numbers are integers of 64 bits, and its
members are in order at every depth, as those of every value that was read. -/
structure Json.IsPortable (value : Json) : Prop where
  integral : value.IsIntegral
  ordered : value.sorted = value

/-- A request without parameters that say nothing. -/
def Request.plain (asked : Request) : Request := { asked with params := Json.stated? asked.params }

/-- A notification without parameters that say nothing. -/
def Notification.plain (notice : Notification) : Notification :=
  { notice with params := Json.stated? notice.params }

/-- An error without data that say nothing. -/
def ResponseError.plain (error : ResponseError) : ResponseError :=
  { error with data := Json.stated? error.data }

/-- A response without a result and data that say nothing. -/
def Response.plain (given : Response) : Response :=
  { given with result := Json.stated? given.result, error := given.error.map .plain }

namespace Message

/-- A message without what says nothing. -/
def plain : Message → Message
  | .request asked => .request asked.plain
  | .response given => .response given.plain
  | .notification notice => .notification notice.plain

/-- Whether all values of any kind in a message come through as they are. -/
def IsPortable : Message → Prop
  | .request asked => ∀ params ∈ asked.params, params.IsPortable
  | .response given => (∀ result ∈ given.result, result.IsPortable) ∧
      ∀ error ∈ given.error, ∀ data ∈ error.data, data.IsPortable
  | .notification notice => ∀ params ∈ notice.params, params.IsPortable

end Message

/-! ## Members of envelopes -/

/-- The members of an error have distinct names. -/
theorem ResponseError.nodup_names : ResponseError.fields.names.Nodup := by decide

/-- The members of a request have distinct names. -/
theorem Request.nodup_names : Request.fields.names.Nodup := by decide

/-- The members of a notification have distinct names. -/
theorem Notification.nodup_names : Notification.fields.names.Nodup := by decide

/-- The members of a response have distinct names. -/
theorem Response.nodup_names : Response.fields.names.Nodup := by decide

/-- An identifier is read as it was written. -/
theorem RequestId.decode_encode (id : RequestId) :
    RequestId.codec.decode (Json.sorted (RequestId.codec.encode id)) = .ok id := by
  cases id with
  | text value => rfl
  | number value =>
    have read : Codec.unsigned64.decode (.natural value.toNat) = .ok value :=
      Codec.unsigned64_decode_encode value
    have kept : Json.sorted (RequestId.codec.encode (.number value)) = .natural value.toNat := rfl
    rw [kept]
    simp only [RequestId.codec, read]

/-- A value of any kind that may be missing is read as it was written, if it says
anything. -/
theorem any_trips {name : String} {value : Option Json}
    (portable : ∀ given ∈ value, given.IsPortable) :
    (Field.optional name .any).Reads
      (if (Field.optional name .any).omits value then none
        else some (Json.sorted ((Field.optional name .any).codec.encode value)))
      (Json.stated? value) := by
  cases value with
  | none => exact .inl rfl
  | some given =>
    have read : (Field.optional name .any).Reads (some given) (Json.stated? (some given)) := by
      cases given <;> rfl
    have written : Json.sorted ((Field.optional name .any).codec.encode (some given)) = given :=
      (portable given rfl).ordered
    have kept : (Field.optional name .any).omits (some given) = false := rfl
    rw [kept, if_neg Bool.false_ne_true, written]
    exact read

/-- An error is read as it was written, without data that say nothing. -/
theorem ResponseError.decode_encode {error : ResponseError}
    (portable : ∀ data ∈ error.data, data.IsPortable) :
    ResponseError.codec.decode (Json.sorted (ResponseError.codec.encode error)) =
      .ok error.plain := by
  have trips : ResponseError.fields.Trips Json.sorted (error.code, error.message, error.data, ())
      (error.code, error.message, Json.stated? error.data, ()) :=
    ⟨Codec.signed32_decode_encode error.code, rfl, any_trips portable, trivial⟩
  exact Fields.codec_decode_written ResponseError.nodup_names trips rfl

/-- An error that may be missing is read as it was written, without data that say nothing. -/
theorem error_trips {name : String} {error : Option ResponseError}
    (portable : ∀ given ∈ error, ∀ data ∈ given.data, data.IsPortable) :
    (Field.optional name ResponseError.codec).Reads
      (if (Field.optional name ResponseError.codec).omits error then none
        else some (Json.sorted ((Field.optional name ResponseError.codec).codec.encode error)))
      (error.map .plain) := by
  cases error with
  | none => exact .inl rfl
  | some given =>
    have read := ResponseError.decode_encode (portable given rfl)
    have written : (Codec.optional ResponseError.codec).decode
        (Json.sorted (ResponseError.codec.encode given)) =
          (ResponseError.codec.decode (Json.sorted (ResponseError.codec.encode given))).map some :=
      rfl
    rw [read] at written
    exact written

/-! ## Envelopes -/

/-- A request is read as it was written, without parameters that say nothing. -/
theorem Request.decode_encode {asked : Request}
    (portable : ∀ params ∈ asked.params, params.IsPortable) :
    Request.codec.decode (Json.sorted (Request.codec.encode asked)) = .ok asked.plain := by
  have trips : Request.fields.Trips Json.sorted
      (asked.version, asked.id, asked.method, asked.params, ())
      (asked.version, asked.id, asked.method, Json.stated? asked.params, ()) :=
    ⟨rfl, RequestId.decode_encode asked.id, rfl, any_trips portable, trivial⟩
  exact Fields.codec_decode_written Request.nodup_names trips rfl

/-- A notification is read as it was written, without parameters that say nothing. -/
theorem Notification.decode_encode {notice : Notification}
    (portable : ∀ params ∈ notice.params, params.IsPortable) :
    Notification.codec.decode (Json.sorted (Notification.codec.encode notice)) =
      .ok notice.plain := by
  have trips : Notification.fields.Trips Json.sorted
      (notice.version, notice.method, notice.params, ())
      (notice.version, notice.method, Json.stated? notice.params, ()) :=
    ⟨rfl, rfl, any_trips portable, trivial⟩
  exact Fields.codec_decode_written Notification.nodup_names trips rfl

/-- A response is read as it was written, without a result and data that say nothing. -/
theorem Response.decode_encode {given : Response}
    (portable : ∀ result ∈ given.result, result.IsPortable)
    (portableToo : ∀ error ∈ given.error, ∀ data ∈ error.data, data.IsPortable) :
    Response.codec.decode (Json.sorted (Response.codec.encode given)) = .ok given.plain := by
  have identified : (Field.nullable "id" RequestId.codec).Reads
      (some (Json.sorted ((Codec.optional RequestId.codec).encode given.id))) given.id := by
    cases given.id with
    | none => rfl
    | some id =>
      have read := RequestId.decode_encode id
      cases id with
      | number value => exact congrArg (Except.map some) read
      | text value => rfl
  have trips : Response.fields.Trips Json.sorted
      (given.version, given.id, given.result, given.error, ())
      (given.version, given.id, Json.stated? given.result, given.error.map .plain, ()) :=
    ⟨rfl, identified, any_trips portable, error_trips portableToo, trivial⟩
  exact Fields.codec_decode_written Response.nodup_names trips rfl

namespace Message

/-- A message is told to be of its own kind and read as it was written. -/
theorem decode_encode {message : Message} (portable : message.IsPortable) :
    decode message.encode.sorted = .ok message.plain := by
  cases message with
  | request asked =>
    have identified : (Json.sorted (Request.codec.encode asked)).member? "id" =
        some (Json.sorted (RequestId.codec.encode asked.id)) :=
      Fields.member?_written Request.nodup_names "id"
    have directed : (Json.sorted (Request.codec.encode asked)).member? "method" =
        some (.string asked.method) :=
      Fields.member?_written Request.nodup_names "method"
    simp only [decode, encode, identified, directed, Option.isSome_some,
      Request.decode_encode portable, Except.map, plain]
  | response given =>
    have identified : (Json.sorted (Response.codec.encode given)).member? "id" =
        some (Json.sorted ((Codec.optional RequestId.codec).encode given.id)) :=
      Fields.member?_written Response.nodup_names "id"
    have undirected : (Json.sorted (Response.codec.encode given)).member? "method" = none :=
      (Fields.member?_written Response.nodup_names "method").trans
        (congrArg (Option.map Json.sorted) (Fields.lookup_members_of_foreign (by decide)))
    simp only [decode, encode, identified, undirected, Option.isSome_some, Option.isSome_none,
      Response.decode_encode portable.1 portable.2, Except.map, plain]
  | notification notice =>
    have anonymous : (Json.sorted (Notification.codec.encode notice)).member? "id" = none :=
      (Fields.member?_written Notification.nodup_names "id").trans
        (congrArg (Option.map Json.sorted) (Fields.lookup_members_of_foreign (by decide)))
    have directed : (Json.sorted (Notification.codec.encode notice)).member? "method" =
        some (.string notice.method) :=
      Fields.member?_written Notification.nodup_names "method"
    simp only [decode, encode, anonymous, directed, Option.isSome_some, Option.isSome_none,
      Notification.decode_encode portable, Except.map, plain]

end Message

/-! ## Integers -/

/-- An identifier is written without doubles. -/
theorem RequestId.encode_integral (id : RequestId) : (RequestId.codec.encode id).IsIntegral := by
  cases id with
  | text value => exact .string value
  | number value =>
    have bound : value.toNat < 2 ^ 64 := value.toNat_lt
    exact .number (by omega) (by omega)

/-- A value of any kind that may be missing is written without doubles, if it has none. -/
theorem any_integral {value : Option Json} (portable : ∀ given ∈ value, given.IsPortable) :
    ((Codec.optional .any).encode value).IsIntegral := by
  cases value with
  | none => exact .null
  | some given => exact (portable given rfl).integral

/-- An error is written without doubles, if its data have none. -/
theorem ResponseError.encode_integral {error : ResponseError}
    (portable : ∀ data ∈ error.data, data.IsPortable) :
    (ResponseError.codec.encode error).IsIntegral := by
  have least : -2 ^ 63 ≤ error.code.toInt := (by decide : (-2 ^ 63 : Int) ≤ -2 ^ 31).trans
    error.code.le_toInt
  have greatest : error.code.toInt < 2 ^ 64 := error.code.toInt_lt.trans (by decide)
  have writes : ResponseError.fields.Writes Json.IsIntegral
      (error.code, error.message, error.data, ()) :=
    ⟨fun _ => .number least greatest, fun _ => .string error.message,
      fun _ => any_integral portable, trivial⟩
  exact .object writes.of_mem

/-- A message is written without doubles, if its values have none. -/
theorem Message.encode_integral {message : Message} (portable : message.IsPortable) :
    message.encode.IsIntegral := by
  cases message with
  | request asked =>
    have writes : Request.fields.Writes Json.IsIntegral
        (asked.version, asked.id, asked.method, asked.params, ()) :=
      ⟨fun _ => .string asked.version, fun _ => asked.id.encode_integral,
        fun _ => .string asked.method, fun _ => any_integral portable, trivial⟩
    exact .object writes.of_mem
  | response given =>
    have identified : ((Codec.optional RequestId.codec).encode given.id).IsIntegral := by
      cases given.id with
      | none => exact .null
      | some id => exact id.encode_integral
    have failed : ((Codec.optional ResponseError.codec).encode given.error).IsIntegral := by
      cases error : given.error with
      | none => exact .null
      | some error => exact ResponseError.encode_integral (portable.2 _ error)
    have writes : Response.fields.Writes Json.IsIntegral
        (given.version, given.id, given.result, given.error, ()) :=
      ⟨fun _ => .string given.version, fun _ => identified, fun _ => any_integral portable.1,
        fun _ => failed, trivial⟩
    exact .object writes.of_mem
  | notification notice =>
    have writes : Notification.fields.Writes Json.IsIntegral
        (notice.version, notice.method, notice.params, ()) :=
      ⟨fun _ => .string notice.version, fun _ => .string notice.method,
        fun _ => any_integral portable, trivial⟩
    exact .object writes.of_mem

/-! ## The trip -/

/-- What a response means once `null` is taken for none: an error that stood beside the
result `null` comes forth, and nothing else changes. -/
theorem Response.plain_outcome (given : Response) :
    given.plain.outcome =
      match given.result, given.error with
      | some .null, some error => .error error.failure
      | _, _ => given.outcome := by
  obtain ⟨version, id, result, error⟩ := given
  cases error with
  | none =>
    cases result with
    | none => rfl
    | some result => cases result <;> rfl
  | some error =>
    cases result with
    | none => rfl
    | some result => cases result <;> rfl

namespace Message

variable {message : Message}

/-- The payload of a message is read as the message, without what says nothing. -/
theorem ofPayload_payload (portable : message.IsPortable)
    (shallow : message.encode.nesting ≤ Json.maxNesting) :
    ofPayload message.payload = .ok message.plain := by
  have read : Json.read message.payload = .ok message.encode.sorted :=
    Json.read_compact (encode_integral portable) shallow
  simp only [ofPayload, read, decode_encode portable]

/-- What becomes of a message that is written and read. -/
structure Survives (message : Message) : Prop where
  /-- Its payload is read as the same message, without what says nothing. -/
  read : ofPayload message.payload = .ok message.plain
  /-- Its frame is read before whatever is behind it, if it is not too long to be read. -/
  framed : ∀ rest, message.payload.length ≤ Frame.payloadLimit →
    Frame.messages (message.frame ++ rest) = message.plain :: Frame.messages rest
  /-- A response still means the same, unless an error stands beside the result `null`. -/
  meant : ∀ given, message = .response given →
    (given.result = some .null → given.error = none) → given.plain.outcome = given.outcome
  /-- An error beside the result `null` broke the protocol, and comes forth. -/
  revealed : ∀ given error, message = .response given → given.result = some .null →
    given.error = some error →
      (∃ wording, given.outcome = .error (.protocol wording)) ∧
        given.plain.outcome = .error error.failure

/-- A message whose values come through as they are, and that is not too deep to be read, is
read as a message of its own kind that is the same but for `null`. -/
theorem survives_transit (portable : message.IsPortable)
    (shallow : message.encode.nesting ≤ Json.maxNesting) : message.Survives := by
  have read := ofPayload_payload portable shallow
  refine ⟨read, fun rest short => ?_, ?_, ?_⟩
  · rw [frame, Frame.messages_encode short, read]
    rfl
  · rintro ⟨version, id, result, error⟩ - alone
    rw [Response.plain_outcome]
    split
    · next null failed =>
      cases (alone null).symm.trans failed
    · rfl
  · rintro ⟨version, id, result, error⟩ failure - rfl rfl
    exact ⟨⟨_, rfl⟩, Response.plain_outcome _⟩

/-- A call of another protocol version, with the greatest number for an identifier and the least
integer among its parameters. -/
def outlandish : Message :=
  .request ⟨"1.0", .number 18446744073709551615, "do/it",
    some (.object [("a", .array [.null, .integer (-9223372036854775808)]), ("b", .bool true)])⟩

/-- The call comes through as it is. -/
theorem transit_of_outlandish :
    outlandish.IsPortable ∧ outlandish.encode.nesting ≤ Json.maxNesting ∧
      ofPayload outlandish.payload = .ok outlandish ∧
        Frame.messages outlandish.frame = [outlandish] := by
  have portable : outlandish.IsPortable := by
    rintro params ⟨⟩
    refine ⟨?_, rfl⟩
    have items : ∀ item ∈ [.null, .integer (-9223372036854775808)], Json.IsIntegral item := by
      simpa using ⟨Json.IsIntegral.null, Json.IsIntegral.number (by decide) (by decide)⟩
    refine .object ?_
    simpa using ⟨Json.IsIntegral.array items, Json.IsIntegral.bool true⟩
  have shallow : outlandish.encode.nesting ≤ Json.maxNesting := by decide
  have survives := survives_transit portable shallow
  have framed := survives.framed [] (by decide +kernel)
  rw [List.append_nil, Frame.messages_nil] at framed
  exact ⟨portable, shallow, survives.read, framed⟩

end Message

/-- A response that breaks the protocol: an error beside the result `null`. -/
def Response.contradictory : Response :=
  ⟨envelopeVersion, some (.number 1), some .null, some ⟨1, "x", none⟩⟩

/-- On its way, a response can lose the result that breaks the protocol, and then it means
something else. -/
theorem Response.null_result_is_lost :
    (Message.response contradictory).IsPortable ∧
      (Message.response contradictory).encode.nesting ≤ Json.maxNesting ∧
      ∃ received,
        Message.ofPayload (Message.response contradictory).payload = .ok (.response received) ∧
          contradictory.outcome = .error (.protocol
            "response Some(Number(1)) carries both result and error") ∧
          received.outcome = .error (.rpc 1 "x") := by
  have portable : (Message.response contradictory).IsPortable := by
    refine ⟨?_, ?_⟩
    · rintro result ⟨⟩
      exact ⟨.null, rfl⟩
    · rintro error ⟨⟩ data ⟨⟩
  have shallow : (Message.response contradictory).encode.nesting ≤ Json.maxNesting := by decide
  exact ⟨portable, shallow, contradictory.plain, Message.ofPayload_payload portable shallow,
    rfl, rfl⟩

end FoldAtlas
