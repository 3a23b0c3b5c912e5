import FoldAtlas.Analysis
import FoldAtlas.Proofs.Client.Execution

/-!
# Scripts of servers

An analysis asks its server three questions. A `Script` says what the server does about
each of them, and a `Course` is anything that may happen to an analysis at a server that
keeps to its script: answers may be early or late, in the background the server may ask and
tell what it likes, and it may answer calls that nobody waits for.

What a reply comes to is said twice: by what the call yields (`Reply.Yields`), and by what
the question brings once the answer has been read (`Reply.Brings`).
-/

namespace FoldAtlas

/-! ## Replies -/

/-- What a server does about a call. -/
inductive Reply where
  /-- It answers with a result. -/
  | result (value : Json)
  /-- It answers with an error. -/
  | error (error : ResponseError)
  /-- It answers with a result and an error at once. -/
  | both (value : Json) (error : ResponseError)
  /-- It does not answer before the call has waited long enough. -/
  | silence
  /-- It ends the stream instead. -/
  | departure

namespace Reply

variable {reply : Reply} {response : Response}

/-- Whether a response is the one that a reply gives. The result `null` may be left out. -/
def Gives : Reply → Response → Prop
  | .result value, response => response.error = none ∧ response.result.getD .null = value
  | .error refusal, response => response.result = none ∧ response.error = some refusal
  | .both value refusal, response =>
    response.result = some value ∧ response.error = some refusal
  | .silence, _ | .departure, _ => False

/-- Whether an outcome is what a reply makes of a call. -/
def Yields : Reply → Except Failure Json → Prop
  | .result value, outcome => outcome = .ok value
  | .error refusal, outcome => outcome = .error (.rpc refusal.code refusal.message)
  | .both _ _, outcome => ∃ wording, outcome = .error (.protocol wording)
  | .silence, outcome => ∃ wording, outcome = .error (.timeout wording)
  | .departure, outcome => outcome = .error .sessionClosed

/-- A call that is answered as the reply says yields what the reply makes of it. -/
theorem Gives.yields (gives : reply.Gives response) : reply.Yields response.outcome := by
  obtain ⟨version, id, result, error⟩ := response
  cases reply with
  | result value =>
    obtain ⟨rfl, rfl⟩ := gives
    cases result <;> rfl
  | error given =>
    obtain ⟨rfl, rfl⟩ := gives
    rfl
  | both value given =>
    obtain ⟨rfl, rfl⟩ := gives
    exact ⟨_, rfl⟩
  | silence | departure => cases gives

/-- Only a result makes a call succeed. -/
theorem Yields.eq_result {value : Json} (yields : reply.Yields (.ok value)) :
    reply = .result value := by
  cases reply with
  | result other => rw [Except.ok.inj yields]
  | both | silence =>
    obtain ⟨wording, wrong⟩ := yields
    cases wrong
  | error | departure => cases yields

/-- The response that a reply gives to the call with an identifier, if it gives any. -/
def response? (id : RequestId) : Reply → Option Response
  | .result value => some (.ok id value)
  | .error refusal => some (.failed id refusal)
  | .both value refusal => some ⟨envelopeVersion, some id, some value, some refusal⟩
  | .silence | .departure => none

/-- The response to a call is one that the reply gives, and is meant for the call. -/
theorem gives_of_response? {number : UInt64}
    (given : reply.response? (.number number) = some response) :
    reply.Gives response ∧ response.Names number := by
  cases reply with
  | result | error | both =>
    obtain rfl := Option.some.inj given
    exact ⟨⟨rfl, rfl⟩, _, rfl, .inl rfl⟩
  | silence | departure => cases given

end Reply

/-! ## Questions -/

/-- A question to the server, and how the answer to it is read. -/
structure Inquiry (α : Type) where
  method : String
  decode : Json → Except DecodeError α
  /-- What the answer `null` stands for. -/
  absent : α

namespace Inquiry

variable {α : Type}

/-- Read the answer to a question. -/
def read (inquiry : Inquiry α) (value : Json) : Except Failure α :=
  if value.isNull then .ok inquiry.absent
  else match inquiry.decode value with
    | .ok answer => .ok answer
    | .error error =>
      .error (.protocol ("invalid " ++ inquiry.method ++ " result: " ++ error.message))

/-- The question that opens the greeting. -/
def greeting : Inquiry Greeting := ⟨Greeting.openingMethod, Greeting.codec.decode, .silent⟩

/-- The question for folding regions. -/
def folding : Inquiry (List FoldingRange) :=
  ⟨Query.folding.method, FoldingRange.listCodec.decode, []⟩

/-- The question for symbols, which may be given as a list or as trees. -/
def symbols : Inquiry (List OutlineEntry) :=
  ⟨Query.symbols.method, fun value => (Outline.codec.decode value).map Outline.entries, []⟩

/-- The answer to a greeting is read as the question says. -/
theorem read_greeting (value : Json) : Greeting.decodeAnswer value = greeting.read value := by
  simp only [Greeting.decodeAnswer, read, greeting]
  split
  · rfl
  · cases Greeting.codec.decode value <;> rfl

/-- The answer to the query for folding regions is read as the question says. -/
theorem decode_folding (value : Json) :
    Query.folding.decode value = (folding.read value).map .regions := by
  simp only [Query.decode, read, folding]
  split
  · rfl
  · cases FoldingRange.listCodec.decode value <;> rfl

/-- The answer to the query for symbols is read as the question says. -/
theorem decode_symbols (value : Json) :
    Query.symbols.decode value = (symbols.read value).map .symbols := by
  simp only [Query.decode, read, symbols]
  split
  · rfl
  · cases Outline.codec.decode value <;> rfl

end Inquiry

/-- Whether a question brings something, or fails, once it has been dealt with in the way
of a reply and the answer has been read. -/
def Reply.Brings {α : Type} (reply : Reply) (inquiry : Inquiry α) (brought : Except Failure α) :
    Prop :=
  ∃ outcome, reply.Yields outcome ∧ brought = outcome.bind inquiry.read

namespace Reply

variable {α : Type} {reply : Reply} {inquiry : Inquiry α}

/-- A question brings something exactly if it is answered with a result that can be read. -/
theorem brings_ok_iff {answer : α} :
    reply.Brings inquiry (.ok answer) ↔
      ∃ value, reply = .result value ∧ inquiry.read value = .ok answer := by
  constructor
  · rintro ⟨outcome, yields, brought⟩
    cases outcome with
    | error failure => cases brought
    | ok value => exact ⟨value, yields.eq_result, brought.symm⟩
  · rintro ⟨value, rfl, read⟩
    exact ⟨.ok value, rfl, read.symm⟩

/-- A question does not bring two different things. -/
theorem Brings.unique {one other : α} (brings : reply.Brings inquiry (.ok one))
    (bringsToo : reply.Brings inquiry (.ok other)) : one = other := by
  obtain ⟨value, rfl, read⟩ := brings_ok_iff.mp brings
  obtain ⟨another, same, readToo⟩ := brings_ok_iff.mp bringsToo
  obtain rfl := Reply.result.inj same
  exact Except.ok.inj (read.symm.trans readToo)

/-- A question that brings something does not fail. -/
theorem Brings.not_error {answer : α} {failure : Failure}
    (brings : reply.Brings inquiry (.ok answer)) : ¬ reply.Brings inquiry (.error failure) := by
  obtain ⟨value, rfl, read⟩ := brings_ok_iff.mp brings
  rintro ⟨outcome, rfl, failed⟩
  exact absurd (failed.trans read) (by simp)

end Reply

/-! ## Scripts -/

/-- What a server does about the questions of an analysis. -/
structure Script where
  greeting : Reply
  folding : Reply
  symbols : Reply

/-- Whether nothing that comes in changes any more how a call ends. -/
def Call.isDecided (call : Call) : Bool :=
  match call.phase with
  | .allocated | .registered | .waiting _ => call.inbox.isSome
  | .unsent _ | .expired | .finished _ => true

namespace Script

/-- What a server does about the call with a ticket. It may leave after the last one. -/
def reply (script : Script) : Nat → Reply
  | 0 => script.greeting
  | 1 => script.folding
  | 2 => script.symbols
  | _ => .departure

/-- Whether a server that keeps to its script may answer with a response now: if a call
waits for it, then it is the one that the script gives to that call. -/
def MayAnswer (script : Script) (session : Session) (response : Response) : Prop :=
  ∀ (ticket : Nat) (call : Call), session.calls[ticket]? = some call →
    response.Names call.id → session.pending.find? (.number call.id) = some ticket →
    call.isDecided = false → (script.reply ticket).Gives response

/-- Whether a server that keeps to its script may end the stream now: the script says so of
the first call that is not decided, whether there is such a call already or not. -/
def MayLeave (script : Script) (session : Session) : Prop :=
  script.reply (session.calls.countP Call.isDecided) = .departure

/-- Whether time may pass without an answer: the calls that then have waited long enough
are those about which the script is silent. -/
def MayWait (script : Script) (session : Session) (time : Nat) : Prop :=
  ∀ (ticket : Nat) (call : Call) (deadline : Option Nat), session.calls[ticket]? = some call →
    call.phase = .waiting deadline → call.inbox = none → isDue deadline time = true →
    script.reply ticket = .silence

end Script

/-! ## Courses -/

/-- One thing that happens to an analysis. -/
inductive AnalysisEvent where
  /-- It goes on by one step, and nothing hinders its writing. -/
  | advance (time : Nat)
  /-- Something happens in the background. -/
  | background (event : SessionEvent)

namespace AnalysisEvent

/-- Whether an event is a step of the analysis itself. -/
def isOwn : AnalysisEvent → Bool
  | .advance _ => true
  | .background _ => false

/-- Whether an event is one that a server allows that keeps to its script. -/
def IsScripted (script : Script) (session : Session) : AnalysisEvent → Prop
  | .advance time => script.MayWait session time
  | .background (.dispatch _ (.response response)) => script.MayAnswer session response
  | .background .abandon => script.MayLeave session
  | .background _ => True

end AnalysisEvent

namespace Analysis

/-- What an event makes of a client and its analysis; `none` if it cannot happen now. -/
def after? (subject : AnalysisSubject) (client : Client) (analysis : Analysis) :
    AnalysisEvent → Option (Client × Analysis)
  | .advance time => analysis.step subject client ⟨time, none⟩
  | .background event =>
    if event.isBackground then
      (client.session.after? event).map fun session => ({ client with session }, analysis)
    else none

/-- Whether an analysis is over. -/
def isOver : Analysis → Bool
  | .running _ _ => false
  | .reported _ | .failed _ | .brokeDown => true

end Analysis

/-- Zero or more events that take a client and its analysis further, at a server that keeps
to its script. -/
inductive Course (script : Script) (subject : AnalysisSubject) (first : Client × Analysis) :
    List AnalysisEvent → Client × Analysis → Prop where
  | refl : Course script subject first [] first
  | step {events : List AnalysisEvent} {client : Client} {analysis : Analysis}
      {event : AnalysisEvent} {next : Client × Analysis}
      (prior : Course script subject first events (client, analysis))
      (scripted : event.IsScripted script client.session)
      (transition : analysis.after? subject client event = some next) :
      Course script subject first (events ++ [event]) next

end FoldAtlas
