import FoldAtlas.Client.Basic

/-!
# Operations

The five operations of a client, each as a sequence of stages. `Client.step`
advances an operation by one stage; between two stages anything else may happen
to the client, and `none` means that the operation has to wait or is over.

What is one step is decided by where an operation can be held up: before it
writes, before it registers a call, while it waits for a response, and before
it reads or sets the document. What it does after that, up to the next such
point, belongs to the same step.
-/

namespace FoldAtlas

/-- How far the greeting is. -/
inductive GreetingStage where
  /-- Nothing has happened. -/
  | begun
  /-- The server has been asked. -/
  | asked (ticket : Nat)
  /-- The server has answered and is to be told that the greeting is over. -/
  | answered (greeting : Greeting)
deriving Repr, Inhabited

/-- How far the announcement of a document is. -/
inductive OpeningStage where
  /-- Nothing has happened. -/
  | begun
  /-- The announcement is to be written. -/
  | announcing
  /-- The server knows the document and the client does not yet. -/
  | announced
deriving DecidableEq, Repr, Inhabited

/-- How far a query is. -/
inductive QueryStage where
  /-- Nothing has happened. -/
  | begun
  /-- The state admits the query. -/
  | admitted
  /-- The server has been asked. -/
  | asked (ticket : Nat)
deriving DecidableEq, Repr, Inhabited

/-- How far the end of the session is. -/
inductive EndingStage where
  /-- Nothing has happened. -/
  | begun
  /-- The server has been asked to end. -/
  | asked (ticket : Nat)
  /-- The server is to be told to end. -/
  | leaving
  /-- The outgoing stream is to be closed. -/
  | detaching
  /-- The calls that wait are to be told. -/
  | draining
  /-- The server process is to be waited for. -/
  | releasing
  /-- The state is to say that the session is over. -/
  | settling
deriving DecidableEq, Repr, Inhabited

/-- How an operation ends. -/
inductive Ending where
  /-- With a result. -/
  | returned (result : OperationResult)
  /-- With a failure. -/
  | failed (failure : Failure)
  /-- Not at all: it breaks down. -/
  | brokeDown
deriving Repr, Inhabited

/-- An operation of a client. -/
inductive Operation where
  /-- Greet the server. -/
  | greet (stage : GreetingStage)
  /-- Announce a document with its text. -/
  | openDocument (document : AnnouncedDocument) (languageId text : String)
      (stage : OpeningStage)
  /-- Ask about the document. -/
  | ask (query : Query) (stage : QueryStage)
  /-- End the session. -/
  | finish (stage : EndingStage)
  /-- The operation is over. -/
  | over (ending : Ending)
deriving Repr, Inhabited

namespace Operation

/-- The announcement of the document with a URI. -/
def openUri (uri languageId text : String) : Operation :=
  .openDocument (.first uri) languageId text .begun

/-- The ending of an operation that is over. -/
def ending? : Operation → Option Ending
  | .over ending => some ending
  | _ => none

end Operation

namespace Client

/-- The method that announces a document. -/
def openingMethod : String := "textDocument/didOpen"

/-- The method that asks the server to end. -/
def endingMethod : String := "shutdown"

/-- The method that tells the server to end. -/
def leavingMethod : String := "exit"

/-- Fail because the state does not admit an operation. -/
def refuse (client : Client) (operation : String) : Client × Operation :=
  (client, .over (.failed (.invalidState operation client.state)))

/-- Begin a call with the limit of its method. A limit that cannot be counted
breaks the operation down before there is a call. -/
def beginCall (client : Client) (method : String) (params : Option Json)
    (proceed : Nat → Operation) : Client × Operation :=
  let begin (limit : Option Duration) :=
    let (session, ticket) := client.session.begin method params limit
    ({ client with session }, proceed ticket)
  match client.limits.limitOf method with
  | .uncountable => (client, .over .brokeDown)
  | .unlimited => begin none
  | .within limit => begin (some limit)

/-- Advance the call that an operation waits for, or go on with its outcome. -/
def await (client : Client) (surroundings : Surroundings) (ticket : Nat)
    (waiting : Operation) (goOn : Except Failure Json → Client × Operation) :
    Option (Client × Operation) :=
  match client.session.outcome? ticket with
  | some outcome => some (goOn outcome)
  | none =>
    (client.session.stepCall surroundings ticket).map fun session =>
      ({ client with session }, waiting)

/-- Advance the greeting. -/
def stepGreeting (client : Client) (surroundings : Surroundings) :
    GreetingStage → Option (Client × Operation)
  | .begun =>
    if client.state = .uninitialized then
      some ({ client with state := .initializing }.beginCall Greeting.openingMethod
        (some client.greetingParams) fun ticket => .greet (.asked ticket))
    else some (client.refuse Greeting.openingMethod)
  | .asked ticket =>
    client.await surroundings ticket (.greet (.asked ticket)) fun outcome =>
      match outcome with
      | .error failure => (client, .over (.failed failure))
      | .ok value =>
        match Greeting.decodeAnswer value with
        | .error failure => (client, .over (.failed failure))
        | .ok greeting => (client, .greet (.answered greeting))
  | .answered greeting =>
    match client.session.notify surroundings.fault Greeting.closingMethod
        (some (.object [])) with
    | .error failure => some (client, .over (.failed failure))
    | .ok session =>
      let client := { client with session }
      if client.state = .initializing then
        some ({ client with state := .ready }, .over (.returned (.greeting greeting)))
      else some (client.refuse Greeting.openingMethod)

/-- Advance the announcement of a document. The state says that the document is
open before it is announced; an announcement that could not be written takes
this back. -/
def stepOpening (client : Client) (surroundings : Surroundings)
    (document : AnnouncedDocument) (languageId text : String) :
    OpeningStage → Option (Client × Operation)
  | .begun =>
    if client.state = .ready then
      some ({ client with state := .documentOpen },
        .openDocument document languageId text .announcing)
    else some (client.refuse openingMethod)
  | .announcing =>
    match client.session.notify surroundings.fault openingMethod
        (some (document.announcement languageId text)) with
    | .error failure => some ({ client with state := .ready }, .over (.failed failure))
    | .ok session =>
      some ({ client with session }, .openDocument document languageId text .announced)
  | .announced =>
    some ({ client with document := some document }, .over (.returned (.document document)))

/-- Advance a query. -/
def stepQuery (client : Client) (surroundings : Surroundings) (query : Query) :
    QueryStage → Option (Client × Operation)
  | .begun =>
    if client.state = .documentOpen then some (client, .ask query .admitted)
    else some (client.refuse query.method)
  | .admitted =>
    match client.document with
    | none => some (client, .over (.failed (.invalidState query.method .documentOpen)))
    | some document =>
      some (client.beginCall query.method (some document.reference) fun ticket =>
        .ask query (.asked ticket))
  | .asked ticket =>
    client.await surroundings ticket (.ask query (.asked ticket)) fun outcome =>
      match outcome with
      | .error failure => (client, .over (.failed failure))
      | .ok value =>
        match query.decode value with
        | .error failure => (client, .over (.failed failure))
        | .ok result => (client, .over (.returned result))

/-- Advance the end of the session. A server that was greeted is asked to end
if the limits say so, one that was written to at all is told to end, and what
goes wrong on the way is ignored. -/
def stepEnding (client : Client) (surroundings : Surroundings) :
    EndingStage → Option (Client × Operation)
  | .begun =>
    match client.state with
    | .shuttingDown | .closed => some (client, .over (.returned .nothing))
    | .uninitialized => some ({ client with state := .shuttingDown }, .finish .detaching)
    | .initializing => some ({ client with state := .shuttingDown }, .finish .leaving)
    | .ready | .documentOpen =>
      let client := { client with state := .shuttingDown }
      if client.limits.graceful then
        some (client.beginCall endingMethod none fun ticket => .finish (.asked ticket))
      else some (client, .finish .leaving)
  | .asked ticket =>
    client.await surroundings ticket (.finish (.asked ticket)) fun _ =>
      (client, .finish .leaving)
  | .leaving =>
    match client.session.notify surroundings.fault leavingMethod none with
    | .error _ => some (client, .finish .detaching)
    | .ok session => some ({ client with session }, .finish .detaching)
  | .detaching => some ({ client with session := client.session.detach }, .finish .draining)
  | .draining =>
    some ({ client with session := client.session.abandonCalls }, .finish .releasing)
  | .releasing =>
    match client.process with
    | .held => some ({ client with process := .released }, .finish .settling)
    | .none | .released => some (client, .finish .settling)
  | .settling => some ({ client with state := .closed }, .over (.returned .nothing))

/-- Advance an operation by one stage. -/
def step (client : Client) (surroundings : Surroundings) :
    Operation → Option (Client × Operation)
  | .greet stage => client.stepGreeting surroundings stage
  | .openDocument document languageId text stage =>
    client.stepOpening surroundings document languageId text stage
  | .ask query stage => client.stepQuery surroundings query stage
  | .finish stage => client.stepEnding surroundings stage
  | .over _ => none

end Client

end FoldAtlas
