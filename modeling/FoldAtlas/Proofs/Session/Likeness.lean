import FoldAtlas.Proofs.Session.Connection

/-!
# Sessions that differ in nothing but their stream

A session never looks at how many responses answered no call, and only the reader
looks at the bytes that are still to be read. Everything else happens in the same way
in a session with other bytes to read and another count (`after?_recast`,
`actUpon_recast`). Two sessions that differ in these two alone are parallel
(`Parallel`), and they stay so whatever happens in both.

A message is ignored (`Ignores`) that changes nothing but the count.
-/

namespace FoldAtlas

namespace Session

variable {session next other : Session} {event : SessionEvent} {inbound : Bytes}
  {strays surplus : Nat}

/-- The session that has other bytes to read and another count of strays. -/
def recast (session : Session) (inbound : Bytes) (strays : Nat) : Session :=
  { session with inbound, strays }

/-! ## What does not depend on the stream -/

/-- Writing does not depend on the stream. -/
theorem write_recast (session : Session) (fault : Option StreamFault) (message : Message) :
    (session.recast inbound strays).write fault message =
      (session.write fault message).map (·.recast inbound strays) := by
  cases attached : session.outlet <;> cases fault <;> simp only [write, recast, attached] <;> rfl

/-- Giving up the calls does not depend on the stream. -/
theorem abandonCalls_recast (session : Session) :
    (session.recast inbound strays).abandonCalls = session.abandonCalls.recast inbound strays := by
  have telling (tickets : List Nat) (session : Session) :
      tickets.foldl (fun session ticket => session.deliver ticket (.error .sessionClosed))
          (session.recast inbound strays) =
        (tickets.foldl (fun session ticket => session.deliver ticket (.error .sessionClosed))
          session).recast inbound strays := by
    induction tickets generalizing session with
    | nil => rfl
    | cons ticket tickets ih => exact ih (session.deliver ticket (.error .sessionClosed))
  exact telling session.pending.tickets { session with closed := true, pending := .empty }

/-- The steps of a call do not depend on the stream. -/
theorem stepCall_recast (session : Session) (surroundings : Surroundings) (ticket : Nat) :
    (session.recast inbound strays).stepCall surroundings ticket =
      (session.stepCall surroundings ticket).map (·.recast inbound strays) := by
  have same : (session.recast inbound strays).calls = session.calls := rfl
  simp only [stepCall, same]
  cases session.calls[ticket]? with
  | none => rfl
  | some call =>
    cases phase : call.phase with
    | allocated =>
      have sameToo : (session.recast inbound strays).closed = session.closed := rfl
      simp only [phase, Option.map_some, register, sameToo]
      split <;> rfl
    | registered =>
      simp only [phase, Option.map_some, writeRequest, write_recast]
      cases session.write surroundings.fault call.request <;> rfl
    | unsent | expired | finished => simp only [phase]; rfl
    | waiting deadline =>
      simp only [phase, await]
      cases call.inbox with
      | some outcome => rfl
      | none =>
        dsimp only
        split <;> rfl

/-- The steps of an answer do not depend on the stream. -/
theorem stepAnswer_recast (session : Session) (surroundings : Surroundings) (index : Nat) :
    (session.recast inbound strays).stepAnswer surroundings index =
      (session.stepAnswer surroundings index).map (·.recast inbound strays) := by
  have same : (session.recast inbound strays).answers = session.answers := rfl
  simp only [stepAnswer, same]
  cases session.answers[index]? with
  | none => rfl
  | some answer =>
    cases phase : answer.phase with
    | begun handler =>
      cases handler with
      | none => simp only [phase]; rfl
      | some handler => simp only [phase]; rfl
    | busy deadline outcome =>
      simp only [phase]
      split <;> rfl
    | replying response =>
      simp only [phase, write_recast]
      cases session.write surroundings.fault (.response response) <;> rfl
    | heldUp | finished => simp only [phase]; rfl

/-- What a session does on its own does not depend on the stream. -/
theorem after?_recast (own : event.isOwn = true) (session : Session) (inbound : Bytes)
    (strays : Nat) :
    (session.recast inbound strays).after? event =
      (session.after? event).map (·.recast inbound strays) := by
  cases event with
  | dispatch | stream => cases own
  | begin | install | detach => rfl
  | proceed turn surroundings ticket =>
    have same : (session.recast inbound strays).calls = session.calls := rfl
    simp only [after?, same, stepCall_recast]
    split <;> rfl
  | answer surroundings index => exact session.stepAnswer_recast surroundings index
  | notify fault method params =>
    simp only [after?, notify, write_recast]
    cases session.write fault (.notification (.make method params)) <;> rfl
  | abandon => exact congrArg some session.abandonCalls_recast

/-- What a session does on its own counts no strays. -/
theorem strays_of_isOwn (own : event.isOwn = true) (happens : session.after? event = some next) :
    next.strays = session.strays := by
  -- with its own stream and count, the session is the same, and so is what comes of it
  have same := after?_recast own session session.inbound session.strays
  rw [happens, Option.map_some] at same
  have unchanged : next = next.recast session.inbound session.strays :=
    Option.some.inj (happens.symm.trans same)
  rw [unchanged]
  rfl

/-- Acting upon a message does not depend on the stream, and what it adds to the count
does not depend on the count. -/
theorem actUpon_recast (session : Session) (time : Nat) (message : Message) :
    ∃ more, (session.actUpon time message).strays = session.strays + more ∧
      ∀ inbound strays, (session.recast inbound strays).actUpon time message =
        (session.actUpon time message).recast inbound (strays + more) := by
  cases message with
  | request asked => exact ⟨0, rfl, fun _ _ => rfl⟩
  | notification notice =>
    refine ⟨0, ?_, fun inbound strays => ?_⟩
    · obtain ⟨_, _, heard⟩ := session.hear_eq time notice
      rw [actUpon, heard]
      rfl
    · simp only [actUpon, hear, recast]
      split <;> rfl
  | response response =>
    have same (inbound : Bytes) (strays : Nat) (id : RequestId) :
        (session.recast inbound strays).awaited? id = session.awaited? id := rfl
    simp only [actUpon, handOver, same]
    cases response.id with
    | none => exact ⟨0, rfl, fun _ _ => rfl⟩
    | some id =>
      dsimp only
      cases session.awaited? id with
      | none => exact ⟨1, rfl, fun _ _ => rfl⟩
      | some awaited => exact ⟨0, rfl, fun _ _ => rfl⟩

/-! ## Parallel sessions -/

/-- Whether two sessions differ in nothing but the bytes that are still to be read and
the count of strays, and how many the first one has counted more. -/
structure Parallel (session other : Session) (surplus : Nat) : Prop where
  alike : other = session.recast other.inbound other.strays
  strays : session.strays = other.strays + surplus

/-- A session is parallel to itself. -/
theorem Parallel.refl (session : Session) : session.Parallel session 0 := ⟨rfl, rfl⟩

/-- What one of two parallel sessions does on its own, the other one can do, too. -/
theorem Parallel.own (parallel : session.Parallel other surplus) (own : event.isOwn = true)
    (happens : session.after? event = some next) :
    ∃ last, other.after? event = some last ∧ last.inbound = other.inbound ∧
      next.Parallel last surplus := by
  refine ⟨next.recast other.inbound other.strays, ?_, rfl, rfl, ?_⟩
  · rw [parallel.alike]
    have happensToo := after?_recast own session other.inbound other.strays
    rw [happens, Option.map_some] at happensToo
    exact happensToo
  · exact (strays_of_isOwn own happens).trans parallel.strays

/-- Parallel sessions stay so when both act upon a message. -/
theorem Parallel.actUpon (parallel : session.Parallel other surplus) (time : Nat)
    (message : Message) : (session.actUpon time message).Parallel (other.actUpon time message)
      surplus := by
  obtain ⟨more, counted, acts⟩ := session.actUpon_recast time message
  have actsToo := acts other.inbound other.strays
  rw [← parallel.alike] at actsToo
  refine ⟨by rw [actsToo]; rfl, ?_⟩
  rw [counted, actsToo, parallel.strays]
  simp only [recast]
  omega

/-- Parallel sessions stay so whatever is still to be read by either of them. -/
theorem Parallel.setInbound (parallel : session.Parallel other surplus)
    (inbound inboundToo : Bytes) :
    Parallel { session with inbound } { other with inbound := inboundToo } surplus := by
  refine ⟨?_, parallel.strays⟩
  rw [parallel.alike]
  rfl

/-- Parallel sessions stay so when both learn whether more will come. -/
theorem Parallel.setEnded (parallel : session.Parallel other surplus) (ended : Bool) :
    Parallel { session with inboundEnded := ended } { other with inboundEnded := ended }
      surplus := by
  refine ⟨?_, parallel.strays⟩
  rw [parallel.alike]
  rfl

/-- Parallel sessions stay so when both are equally far in reading. -/
theorem Parallel.setIntake (parallel : session.Parallel other surplus) (intake : IntakePhase) :
    Parallel { session with intake } { other with intake } surplus := by
  refine ⟨?_, parallel.strays⟩
  rw [parallel.alike]
  rfl

/-- Parallel sessions stay so when both give up their calls. -/
theorem Parallel.abandonCalls (parallel : session.Parallel other surplus) :
    session.abandonCalls.Parallel other.abandonCalls surplus := by
  have gives : session.after? .abandon = some session.abandonCalls := rfl
  obtain ⟨last, happens, _, onward⟩ := parallel.own rfl gives
  cases happens
  exact onward

/-! ## Messages that are ignored -/

/-- Whether a session ignores a message: a response without identifier or with one for
which no call waits, neither as it is nor as the number that it spells; or a notification
without handler. -/
def Ignores (session : Session) : Message → Prop
  | .request _ => False
  | .response response => ∀ id, response.id = some id →
      session.pending.find? id = none ∧
        ∀ value, id.spelled? = some value → session.pending.find? (.number value) = none
  | .notification notice => session.handlers.find? notice.method = none

end Session

/-- Whether a message is a response with an identifier. -/
def Message.isIdentified : Message → Bool
  | .response given => given.id.isSome
  | .request _ | .notification _ => false

namespace Session

variable {session : Session} {message : Message}

/-- Nobody awaits an identifier that is expected neither as it is nor as a number. -/
theorem awaited?_eq_none {id : RequestId} (unexpected : session.pending.find? id = none)
    (unspelled : ∀ value, id.spelled? = some value →
      session.pending.find? (.number value) = none) : session.awaited? id = none := by
  simp only [awaited?, unexpected]
  cases spelled : id.spelled? with
  | none => rfl
  | some value => simp only [unspelled value spelled, Option.map_none]

/-- A message that is ignored changes nothing but the count, and that only if it is a
response with an identifier. -/
theorem Ignores.actUpon (ignores : session.Ignores message) (time : Nat) :
    session.actUpon time message =
      { session with strays := session.strays + message.isIdentified.toNat } := by
  cases message with
  | request => cases ignores
  | notification notice =>
    simp only [Ignores] at ignores
    simp only [Session.actUpon, hear, ignores, Message.isIdentified,
      Bool.toNat_false, Nat.add_zero]
  | response response =>
    simp only [Session.actUpon, handOver, Message.isIdentified]
    cases identified : response.id with
    | none => rfl
    | some id =>
      obtain ⟨unexpected, unspelled⟩ := ignores id identified
      simp only [awaited?_eq_none unexpected unspelled]
      rfl

end Session

end FoldAtlas
