import FoldAtlas.Settings.Basic

/-!
# Time limits

How long a call of each method may take. The greeting gets twice the time of
other calls, the end of the session a time of its own. Seconds are counted in
64 bits, so the doubled limit may fail to exist; a call that has no limit in
this sense cannot be made at all.
-/

namespace FoldAtlas

/-- A length of time in milliseconds. -/
structure Duration where
  /-- The number of milliseconds. -/
  milliseconds : Nat
deriving DecidableEq, Repr, Inhabited

namespace Duration

/-- A number of seconds. -/
def ofSeconds (seconds : Nat) : Duration := ⟨seconds * 1000⟩

/-- A fraction of a second in thousandths, without zeros at its end. -/
def fractionText (thousandths : Nat) : String :=
  if thousandths = 0 then ""
  else
    let digits := [thousandths / 100, thousandths / 10 % 10, thousandths % 10]
    let shown := (digits.reverse.dropWhile (· == 0)).reverse
    "." ++ String.join (shown.map toString)

/-- The text of a length of time: seconds from one second on, milliseconds
below, and nothing at all in nanoseconds. -/
def text (duration : Duration) : String :=
  let milliseconds := duration.milliseconds
  if milliseconds = 0 then "0ns"
  else if milliseconds < 1000 then toString milliseconds ++ "ms"
  else toString (milliseconds / 1000) ++ fractionText (milliseconds % 1000) ++ "s"

end Duration

/-- What a method is to the limits. -/
inductive CallClass where
  /-- An ordinary call. -/
  | request
  | greeting
  /-- The request to end. -/
  | ending
deriving DecidableEq, Repr

namespace CallClass

/-- The class of a method. -/
def ofMethod (method : String) : CallClass :=
  if method = "initialize" then .greeting
  else if method = "shutdown" then .ending
  else .request

/-- The name of a class. -/
def name : CallClass → String
  | .request => "Request"
  | .greeting => "Initialization"
  | .ending => "Shutdown"

end CallClass

/-- The limits of a session. -/
structure Limits where
  /-- How many seconds an ordinary call may take, if there is a limit. -/
  baseSeconds : Option UInt64
  /-- How many seconds the end of the session may take. -/
  shutdownSeconds : UInt64
  /-- Whether the server is asked to end before it is told to. -/
  graceful : Bool
deriving DecidableEq, Repr, Inhabited

/-- The limit of a call. -/
inductive CallLimit where
  /-- The call may take for ever. -/
  | unlimited
  /-- The call may take this long. -/
  | within (limit : Duration)
  /-- The limit cannot be counted, and the call cannot be made. -/
  | uncountable
deriving DecidableEq, Repr

namespace Limits

/-- The limits under some settings. -/
def ofSettings (settings : Settings) : Limits where
  baseSeconds :=
    if settings.session.timeoutSeconds = 0 then none
    else some settings.session.timeoutSeconds
  shutdownSeconds := settings.session.shutdownTimeoutSeconds
  graceful := settings.session.gracefulShutdown

/-- How many seconds fit into 64 bits. -/
def maxSeconds : Nat := UInt64.size - 1

/-- How often the base limit of a class of calls is taken. -/
def factor : CallClass → Nat
  | .greeting => 2
  | _ => 1

/-- The limit of the calls of a method. -/
def limitOf (limits : Limits) (method : String) : CallLimit :=
  match CallClass.ofMethod method, limits.baseSeconds with
  | .ending, _ => .within (.ofSeconds limits.shutdownSeconds.toNat)
  | _, none => .unlimited
  | callClass, some seconds =>
    let total := seconds.toNat * factor callClass
    if total ≤ maxSeconds then .within (.ofSeconds total) else .uncountable

end Limits

end FoldAtlas
