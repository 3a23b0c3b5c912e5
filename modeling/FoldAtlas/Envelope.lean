import FoldAtlas.Failure
import FoldAtlas.Json.Record

/-!
# Envelopes

The three kinds of message that travel in frames, how they are written, and how
a payload is told to be one of them: with an identifier and a method it is a
request, with an identifier alone a response, with a method alone a
notification. `Message.ofPayload` does both steps and `Response.outcome` says
what a response means to the call it answers.
-/

namespace FoldAtlas

/-- The protocol version that every envelope names. -/
def envelopeVersion : String := "2.0"

/-- The identifier that ties a response to its request. -/
inductive RequestId where
  /-- A number; the identifiers of this side are of this form. -/
  | number (value : UInt64)
  /-- A string, which a server may choose. -/
  | text (value : String)
deriving DecidableEq, Repr

namespace RequestId

/-- Reading and writing an identifier. -/
def codec : Codec RequestId where
  decode source :=
    match Codec.unsigned64.decode source, source with
    | .ok value, _ => .ok (.number value)
    | .error _, .string value => .ok (.text value)
    | .error _, _ => .error (.noAlternative "RequestId")
  encode
    | .number value => .natural value.toNat
    | .text value => .string value

/-- How an identifier is shown: a string between quotes. -/
def display : RequestId → String
  | .number value => toString value
  | .text value => "\"" ++ value ++ "\""

/-- How a message names an identifier together with its form. -/
def describe : RequestId → String
  | .number value => "Number(" ++ toString value ++ ")"
  | .text value => "String(" ++ quoted value ++ ")"

/-- How a message names an identifier that may be missing. -/
def describeOptional : Option RequestId → String
  | none => "None"
  | some id => "Some(" ++ id.describe ++ ")"

/-- The number that a string identifier spells. -/
def spelled? : RequestId → Option UInt64
  | .number _ => none
  | .text digits => unsigned64? digits.toList

end RequestId

/-- An error as a server reports it. -/
structure ResponseError where
  code : Int32
  /-- The wording. -/
  message : String
  /-- Anything else the server has to say. -/
  data : Option Json
deriving Repr

namespace ResponseError

/-- The members of an error. -/
def fields := Fields.cons (.required "code" .signed32)
  (.cons (.required "message" .text) (.cons (.optional "data" .any) .nil))

/-- Reading and writing an error. -/
def codec : Codec ResponseError :=
  fields.codec "ResponseError" (fun (code, message, data, ()) => ⟨code, message, data⟩)
    (fun error => (error.code, error.message, error.data, ()))

/-- How an error is shown. -/
def display (error : ResponseError) : String :=
  "[" ++ toString error.code ++ "] " ++ error.message

/-- The code for a method that nobody handles. -/
def unhandledMethodCode : Int32 := -32601

/-- The answer to a request whose method nobody handles. -/
def unhandledMethod (method : String) : ResponseError :=
  ⟨unhandledMethodCode, "Method not found: " ++ method, none⟩

/-- What a call that was answered with an error fails with. -/
def failure (error : ResponseError) : Failure := .rpc error.code error.message

end ResponseError

/-- A call that wants an answer. -/
structure Request where
  /-- The protocol version. -/
  version : String
  /-- The identifier that the answer must repeat. -/
  id : RequestId
  method : String
  /-- The parameters, if there are any. -/
  params : Option Json
deriving Repr

namespace Request

/-- The members of a request. -/
def fields := Fields.cons (.required "jsonrpc" .text)
  (.cons (.required "id" RequestId.codec)
    (.cons (.required "method" .text) (.cons (.optional "params" .any) .nil)))

/-- Reading and writing a request. -/
def codec : Codec Request :=
  fields.codec "Request"
    (fun (version, id, method, params, ()) => ⟨version, id, method, params⟩)
    (fun request => (request.version, request.id, request.method, request.params, ()))

/-- A request of this side. -/
def make (id : UInt64) (method : String) (params : Option Json) : Request :=
  ⟨envelopeVersion, .number id, method, params⟩

end Request

/-- A call that wants no answer. -/
structure Notification where
  /-- The protocol version. -/
  version : String
  method : String
  /-- The parameters, if there are any. -/
  params : Option Json
deriving Repr

namespace Notification

/-- The members of a notification. -/
def fields := Fields.cons (.required "jsonrpc" .text)
  (.cons (.required "method" .text) (.cons (.optional "params" .any) .nil))

/-- Reading and writing a notification. -/
def codec : Codec Notification :=
  fields.codec "Notification"
    (fun (version, method, params, ()) => ⟨version, method, params⟩)
    (fun notice => (notice.version, notice.method, notice.params, ()))

/-- A notification of this side. -/
def make (method : String) (params : Option Json) : Notification :=
  ⟨envelopeVersion, method, params⟩

end Notification

/-- The answer to a request. -/
structure Response where
  /-- The protocol version. -/
  version : String
  /-- The identifier of the request, if the server could tell it. -/
  id : Option RequestId
  result : Option Json
  error : Option ResponseError
deriving Repr

namespace Response

/-- The members of a response. -/
def fields := Fields.cons (.required "jsonrpc" .text)
  (.cons (.nullable "id" RequestId.codec)
    (.cons (.optional "result" .any) (.cons (.optional "error" ResponseError.codec) .nil)))

/-- Reading and writing a response. -/
def codec : Codec Response :=
  fields.codec "Response"
    (fun (version, id, result, error, ()) => ⟨version, id, result, error⟩)
    (fun response => (response.version, response.id, response.result, response.error, ()))

/-- The answer that brings a result. -/
def ok (id : RequestId) (result : Json) : Response :=
  ⟨envelopeVersion, some id, some result, none⟩

/-- The answer that brings an error. -/
def failed (id : RequestId) (error : ResponseError) : Response :=
  ⟨envelopeVersion, some id, none, some error⟩

/-- What a response means to the call that it answers. A response with neither
result nor error stands for the result `null`; one with both breaks the
protocol. -/
def outcome (response : Response) : Except Failure Json :=
  match response.result, response.error with
  | some _, some _ =>
    .error (.protocol ("response " ++ RequestId.describeOptional response.id ++
      " carries both result and error"))
  | _, some error => .error error.failure
  | result, none => .ok (result.getD .null)

end Response

/-- Any message. -/
inductive Message where
  /-- A call that wants an answer. -/
  | request (request : Request)
  /-- The answer to a request. -/
  | response (response : Response)
  /-- A call that wants no answer. -/
  | notification (notice : Notification)
deriving Repr

namespace Message

/-- Tell which message a value is. -/
def decode (value : Json) : Except DecodeError Message :=
  match (value.member? "id").isSome, (value.member? "method").isSome with
  | true, true => (Request.codec.decode value).map .request
  | true, false => (Response.codec.decode value).map .response
  | false, true => (Notification.codec.decode value).map .notification
  | false, false => .error .notAMessage

/-- Tell which message the payload of a frame is. -/
def ofPayload (payload : Bytes) : Except JsonFault Message :=
  match Json.read payload with
  | .error refusal => .error (.unreadable refusal)
  | .ok value =>
    match decode value with
    | .error error => .error (.mismatch error)
    | .ok message => .ok message

/-- Write a message as a value, members in declaration order. -/
def encode : Message → Json
  | .request call => Request.codec.encode call
  | .response answer => Response.codec.encode answer
  | .notification notice => Notification.codec.encode notice

/-- The payload of a frame that carries a message. -/
def payload (message : Message) : Bytes :=
  Bytes.ofText message.encode.compact

/-- A message as a frame. -/
def frame (message : Message) : Bytes :=
  Frame.encode message.payload

end Message

end FoldAtlas
