import FoldAtlas.Rehearsal.Basic

/-!
# Scripts

A script is a list of cues for a rehearsal. A cue begins a job or lets the other
side do something; then the rehearsal goes on until every actor waits, and what
can be seen from outside is noted. One millisecond passes between two cues.
-/

namespace FoldAtlas

/-- What happens at one point of a script. -/
inductive Cue where
  /-- A job begins. -/
  | begin (job : Job)
  /-- A method is given a handler. -/
  | install (method : String) (handler : Handler)
  /-- Bytes come in. -/
  | receive (bytes : Bytes)
  /-- The incoming stream ends. -/
  | endInbound
  /-- The other side no longer reads. -/
  | stopListening
  /-- Time passes. -/
  | pass (span : Nat)

/-- What can be seen after a cue. -/
structure Scene where
  /-- The messages written since the last cue. -/
  sent : List Message
  /-- The jobs that have ended since the last cue, by the cues that began them. -/
  ended : List (Nat × JobEnding)
  /-- The uses of handlers since the last cue. -/
  invocations : List Invocation
  /-- How many calls wait for a response. -/
  pending : Nat
  /-- How many responses answered no call. -/
  strays : Nat
  /-- Whether calls are refused. -/
  closed : Bool
  /-- Whether the other side has seen the end of what the client writes. -/
  outputEnded : Bool
  /-- The place of the client in its lifecycle. -/
  state : Lifecycle
deriving Repr

namespace Rehearsal

/-- Take a cue. -/
def take (rehearsal : Rehearsal) : Cue → Rehearsal
  | .begin job => rehearsal.begin job
  | .install method handler =>
    rehearsal.withSession (rehearsal.client.session.install method handler)
  | .receive bytes => rehearsal.withSession (rehearsal.client.session.receive bytes)
  | .endInbound => rehearsal.withSession rehearsal.client.session.endInbound
  | .stopListening => { rehearsal with listening := false }
  | .pass span => rehearsal.pass span

/-- The endings of jobs that were not over before, with the cues that began the
jobs. -/
def newEndings : (starts : List Nat) → (before after : List Job) → List (Nat × JobEnding)
  | [], _, _ | _, _, [] => []
  | start :: starts, before, job :: after =>
    let wasOver := (before.head?.bind Job.ending?).isSome
    match job.ending?, wasOver with
    | some ending, false => (start, ending) :: newEndings starts before.tail after
    | _, _ => newEndings starts before.tail after

/-- What can be seen after a cue that led from one rehearsal to another. -/
def scene (starts : List Nat) (before after : Rehearsal) : Scene where
  sent := after.client.session.sent.drop before.client.session.sent.length
  ended := newEndings starts before.jobs after.jobs
  invocations :=
    after.client.session.invocations.drop before.client.session.invocations.length
  pending := after.client.session.pending.count
  strays := after.client.session.strays
  closed := after.client.session.closed
  outputEnded := after.outputEnded
  state := after.client.state

/-- The cues that began jobs, after one more cue. -/
def startsWith (starts : List Nat) (index : Nat) : Cue → List Nat
  | .begin _ => starts ++ [index]
  | _ => starts

/-- Play a script from the cue number `index` on. The jobs that were begun so far
were begun by the cues `starts`. -/
def playFrom (index : Nat) (starts : List Nat) (rehearsal : Rehearsal) :
    List Cue → List Scene
  | [] => []
  | cue :: rest =>
    let starts := startsWith starts index cue
    let after := (rehearsal.take cue).settle
    scene starts rehearsal after :: playFrom (index + 1) starts (after.moveTo (after.time + 1)) rest

/-- Play a script. -/
def play (rehearsal : Rehearsal) (script : List Cue) : List Scene :=
  playFrom 0 [] rehearsal script

end Rehearsal

end FoldAtlas
