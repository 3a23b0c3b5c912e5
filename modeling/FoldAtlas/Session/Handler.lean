import FoldAtlas.Envelope
import FoldAtlas.Settings.Limits

/-!
# Handlers

What this side does with the requests and notifications of a server. A handler
is found by the method. What it replies and how long it takes may depend on all
that it can know when it is used: the parameters, the time, and every use of a
handler before. So a handler may keep a state of its own or share one with
others, and since no two uses have the same uses before them, it may reply as it
likes each time, whatever it learns while it is busy. It may also break down, or
never be done.

A request is answered with what the handler replies, or with the error that
nobody handles its method. The reply to a notification is of no interest, but
the reader of the stream waits until the handler is done.
-/

namespace FoldAtlas

/-- On whose behalf a handler acts. -/
inductive HandlerRole where
  /-- Every client has it from the start. -/
  | standard
  /-- It replies to what it is given. -/
  | responder
  /-- It only listens, and hears absent parameters as `null`. -/
  | listener
deriving DecidableEq, Repr, Inhabited

/-- One use of a handler. -/
structure Invocation where
  method : String
  /-- The parameters as the handler is given them. -/
  params : Option Json
  /-- On whose behalf the handler acts. -/
  role : HandlerRole
deriving Repr, Inhabited

/-- What a handler can know when it is used. -/
structure Occasion where
  /-- Every use of a handler before, the first one first. -/
  earlier : List Invocation
  /-- The time, in milliseconds. -/
  time : Nat
  /-- The parameters, if there are any. -/
  params : Option Json
deriving Repr, Inhabited

/-- What comes of the use of a handler that is done. -/
inductive HandlerOutcome where
  /-- It replies with a value. -/
  | value (result : Json)
  /-- It replies with an error. -/
  | error (error : ResponseError)
  /-- It breaks down and replies nothing. -/
  | breakdown
deriving Repr, Inhabited

namespace HandlerOutcome

/-- Whether a handler has broken down. -/
def isBreakdown : HandlerOutcome → Bool
  | .breakdown => true
  | .value _ | .error _ => false

end HandlerOutcome

/-- What a handler replies on each occasion. -/
def HandlerReply := Occasion → HandlerOutcome

namespace HandlerReply

instance : Inhabited HandlerReply := ⟨fun _ => default⟩

/-- Always the same value. -/
def value (result : Json) : HandlerReply := fun _ => .value result

/-- Always the same error. -/
def error (error : ResponseError) : HandlerReply := fun _ => .error error

/-- The handler always breaks down. -/
def breakdown : HandlerReply := fun _ => .breakdown

/-- How many items some parameters ask for. -/
def itemCount (params : Option Json) : Nat :=
  match params with
  | none => 0
  | some params =>
    match params.member? "items" with
    | some (.array items) => items.length
    | _ => 0

/-- An array with a `null` for every item that the parameters ask for. -/
def nullForEachItem : HandlerReply := fun occasion =>
  .value (.array (List.replicate (itemCount occasion.params) .null))

end HandlerReply

/-- How long the use of a handler takes. -/
inductive HandlerPace where
  /-- It is done before anything else can happen. -/
  | atOnce
  /-- It gives way to others, and is done when some time has passed. -/
  | after (span : Duration)
  /-- It is never done. -/
  | never
deriving DecidableEq, Repr, Inhabited

/-- How long a handler takes on each occasion. -/
def HandlerDelay := Occasion → HandlerPace

namespace HandlerDelay

instance : Inhabited HandlerDelay := ⟨fun _ => default⟩

/-- Always the same time; if there is none to pass, the handler is done at once. -/
def ofDuration (span : Duration) : HandlerDelay := fun _ =>
  if span.milliseconds = 0 then .atOnce else .after span

instance : Coe Duration HandlerDelay := ⟨ofDuration⟩

end HandlerDelay

/-- A handler. -/
structure Handler where
  /-- What it replies. -/
  reply : HandlerReply
  /-- How long it takes. -/
  delay : HandlerDelay
  /-- On whose behalf it acts. -/
  role : HandlerRole
deriving Inhabited

/-- What becomes of the use of a handler. -/
inductive HandlerCourse where
  /-- The handler is done at once. -/
  | done (outcome : HandlerOutcome)
  /-- It is busy up to a point in time. -/
  | busy (deadline : Nat) (outcome : HandlerOutcome)
  /-- It is never done. -/
  | endless
deriving Repr, Inhabited

namespace HandlerCourse

/-- What comes of the use of a handler, if it is ever done. -/
def outcome? : HandlerCourse → Option HandlerOutcome
  | .done outcome | .busy _ outcome => some outcome
  | .endless => none

end HandlerCourse

namespace Handler

/-- The use of a handler for a method with some parameters. -/
def invocation (handler : Handler) (method : String) (params : Option Json) : Invocation :=
  ⟨method, if handler.role = .listener then some (params.getD .null) else params, handler.role⟩

/-- What becomes of the use of a handler on an occasion. -/
def course (handler : Handler) (occasion : Occasion) : HandlerCourse :=
  match handler.delay occasion with
  | .atOnce => .done (handler.reply occasion)
  | .after span => .busy (occasion.time + span.milliseconds) (handler.reply occasion)
  | .never => .endless

/-- A handler that replies at once. -/
def immediate (reply : HandlerReply) (role : HandlerRole) : Handler :=
  ⟨reply, fun _ => .atOnce, role⟩

/-- The methods that every client answers with `null`. -/
def acknowledgedMethods : List String :=
  ["client/registerCapability", "client/unregisterCapability",
    "window/workDoneProgress/create", "window/logMessage", "window/showMessage"]

/-- The method that asks for settings. -/
def settingsMethod : String := "workspace/configuration"

end Handler

/-- Handlers by method. -/
abbrev Handlers := List (String × Handler)

namespace Handlers

/-- The handler of a method. -/
def find? (handlers : Handlers) (method : String) : Option Handler :=
  List.lookup method handlers

/-- Give a method a handler, in place of any that it has. -/
def install (handlers : Handlers) (method : String) (handler : Handler) : Handlers :=
  Keyed.append method handler handlers

/-- The handlers that every client has: one that knows no settings, and one for
each method that only wants to be acknowledged. -/
def standard : Handlers :=
  (Handler.settingsMethod, .immediate .nullForEachItem .standard) ::
    Handler.acknowledgedMethods.map fun method =>
      (method, .immediate (.value .null) .standard)

/-- A method has the handler that it was given last. -/
@[simp]
theorem find?_install_self (handlers : Handlers) (method : String) (handler : Handler) :
    (handlers.install method handler).find? method = some handler :=
  Keyed.lookup_append_self method handler handlers

end Handlers

end FoldAtlas
