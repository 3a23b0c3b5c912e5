import FoldAtlas.Proofs.Client.Asking
import FoldAtlas.Proofs.Client.Workload

/-!
# Questions that may still be asked

A question looks at the state of its client once, when it begins, and not again when it is
written. `Operation.Becomes` says what every operation may become in one stage: only a
question that begins is admitted, and only while the document is open.

`Session.prospects` counts the questions that have been written and those that calls under
way may still write. Nothing adds to them but a call that begins with a question, which is
one that has been admitted before (`Client.Stage.prospects_le`).
-/

namespace FoldAtlas

namespace Query

/-- Whether a method is that of a question. -/
def isMethod (method : String) : Bool :=
  method == Query.folding.method || method == Query.symbols.method

end Query

/-- Whether the request of a call is still to be written. -/
def CallPhase.isUnwritten : CallPhase → Bool
  | .allocated | .registered => true
  | .unsent _ | .waiting _ | .expired | .finished _ => false

/-- Whether a call asks about the document and has not written so yet. -/
def Call.isUnasked (call : Call) : Bool := Query.isMethod call.method && call.phase.isUnwritten

namespace Session

/-- How many calls have not yet written what they ask about the document. -/
def unasked (session : Session) : Nat := session.calls.countP Call.isUnasked

/-- How many questions have been written or may be by the calls that are under way. -/
def prospects (session : Session) : Nat :=
  session.transcript.countP Query.isMethod + session.unasked

variable {session next : Session} {event : SessionEvent} {ticket : Nat} {call later : Call}

/-- A list in which a property holds only where it does in another list of the same length has
it no more often. -/
theorem countP_le_of_getElem? {α : Type} {property : α → Bool} {before after : List α}
    (sameLength : after.length = before.length)
    (kept : ∀ (index : Nat) (later : α), after[index]? = some later → property later = true →
      ∃ earlier, before[index]? = some earlier ∧ property earlier = true) :
    after.countP property ≤ before.countP property := by
  induction after generalizing before with
  | nil => exact Nat.zero_le _
  | cons later after ih =>
    cases before with
    | nil => cases sameLength
    | cons earlier before =>
      have others := ih (Nat.succ.inj sameLength) fun index item found holds =>
        kept (index + 1) item found holds
      have first : property later = true → property earlier = true := by
        intro holds
        obtain ⟨item, found, holdsThere⟩ := kept 0 later rfl holds
        cases found
        exact holdsThere
      rw [List.countP_cons, List.countP_cons]
      split
      · next holds =>
        rw [if_pos (first holds)]
        omega
      · omega

/-- A call that has not asked yet had not asked before. -/
theorem Move.isUnasked (move : Move session ticket call event later)
    (unasked : later.isUnasked = true) : call.isUnasked = true := by
  cases move with
  | register phase => simpa [Call.isUnasked, phase, CallPhase.isUnwritten] using unasked
  | stay | answer | abandon => exact unasked
  | refuse | send | failToSend | withdraw | take | expire =>
    simp [Call.isUnasked, CallPhase.isUnwritten] at unasked

/-- Calls that have not asked yet do not become more unless one begins. -/
theorem Effect.unasked_le (effect : session.Effect event next) (consistent : session.Consistent)
    (sameLength : next.calls.length = session.calls.length) : next.unasked ≤ session.unasked := by
  refine countP_le_of_getElem? sameLength fun index later found unasked => ?_
  obtain ⟨call, present, move⟩ := effect.origin_of_sameLength consistent sameLength found
  exact ⟨call, present, move.isUnasked unasked⟩

/-- A call that writes its request has asked. -/
theorem unasked_of_sent {deadline : Option Nat} (found : session.calls[ticket]? = some call)
    (phase : call.phase = .registered)
    (calls : next.calls = (session.setPhase ticket (.waiting deadline)).calls) :
    next.unasked + (if Query.isMethod call.method then 1 else 0) = session.unasked := by
  obtain ⟨bound, rfl⟩ := List.getElem?_eq_some_iff.mp found
  have present := List.boole_getElem_le_countP (p := Call.isUnasked) bound
  have counted := List.countP_set (p := Call.isUnasked)
    (a := { session.calls[ticket] with phase := .waiting deadline }) bound
  have before : session.calls[ticket].isUnasked = Query.isMethod session.calls[ticket].method := by
    simp [Call.isUnasked, phase, CallPhase.isUnwritten]
  have behind : Call.isUnasked { session.calls[ticket] with phase := .waiting deadline } = false := by
    simp [Call.isUnasked, CallPhase.isUnwritten]
  have moved : next.calls =
      session.calls.set ticket { session.calls[ticket] with phase := .waiting deadline } := by
    rw [calls, setPhase, List.modify_eq_set_getElem?, found]
    rfl
  rw [unasked, unasked, moved, counted, before, behind]
  rw [before] at present
  simp only [Bool.false_eq_true, ↓reduceIte]
  omega

/-- A call that begins with a question adds one. -/
theorem prospects_begin (session : Session) (method : String) (params : Option Json)
    (limit : Option Duration) :
    (session.begin method params limit).1.prospects =
      session.prospects + (if Query.isMethod method then 1 else 0) := by
  have same : (session.begin method params limit).1.transcript = session.transcript := rfl
  have calls : (session.begin method params limit).1.unasked =
      session.unasked + (if Query.isMethod method then 1 else 0) := by
    simp [unasked, Session.begin, List.countP_append, List.countP_singleton, Call.isUnasked,
      CallPhase.isUnwritten]
  rw [prospects, prospects, same, calls, Nat.add_assoc]

/-- Nothing adds a question but a call that begins with one and a notification of its method. -/
theorem prospects_le (consistent : session.Consistent) (happens : session.after? event = some next)
    (unbegun : ∀ method params limit, event ≠ .begin method params limit)
    (quiet : ∀ fault method params, event = .notify fault method params →
      Query.isMethod method = false) : next.prospects ≤ session.prospects := by
  have effect := Effect.of_after? happens
  have fewer := effect.unasked_le consistent (effect.sameLength unbegun)
  rcases transcript_cases happens with same | ⟨ticket, call, deadline, found, phase, written, calls⟩ |
    ⟨fault, method, params, notifies, written⟩
  · rw [prospects, prospects, same]
    omega
  · have asked := unasked_of_sent found phase calls
    rw [prospects, prospects, written, List.countP_append, List.countP_singleton]
    omega
  · have noQuestion := quiet fault method params notifies
    rw [prospects, prospects, written, List.countP_append, List.countP_singleton, noQuestion]
    simp only [Bool.false_eq_true, ↓reduceIte]
    omega

end Session

/-! ## What becomes of operations -/

namespace Operation

/-- Whether a question has been admitted and has not begun its call. -/
def isAdmitted : Operation → Bool
  | .ask _ .admitted => true
  | _ => false

/-- What an operation of a client becomes in one stage: it is over, or it stays of its kind. A
question is admitted only while the document is open. -/
inductive Becomes (client : Client) : Operation → Operation → Prop where
  | over {operation : Operation} {ending : Ending} : Becomes client operation (.over ending)
  | greet {stage later : GreetingStage} : Becomes client (.greet stage) (.greet later)
  | openDocument {document : AnnouncedDocument} {languageId text : String}
      {stage later : OpeningStage} :
      Becomes client (.openDocument document languageId text stage)
        (.openDocument document languageId text later)
  | enter {query : Query} (state : client.state = .documentOpen) :
      Becomes client (.ask query .begun) (.ask query .admitted)
  | ask {query : Query} {ticket : Nat} :
      Becomes client (.ask query .admitted) (.ask query (.asked ticket))
  | wait {query : Query} {ticket : Nat} :
      Becomes client (.ask query (.asked ticket)) (.ask query (.asked ticket))
  | finish {stage later : EndingStage} : Becomes client (.finish stage) (.finish later)

end Operation

namespace Client

variable {client next : Client} {surroundings : Surroundings} {operation after : Operation}

/-- What a call that is awaited becomes, if it may wait and go on. -/
theorem becomes_of_await {ticket : Nat} {waiting : Operation}
    {goOn : Except Failure Json → Client × Operation}
    (waits : Operation.Becomes client operation waiting)
    (goesOn : ∀ outcome, Operation.Becomes client operation (goOn outcome).2)
    (moved : client.await surroundings ticket waiting goOn = some (next, after)) :
    Operation.Becomes client operation after := by
  rcases await_cases moved with ⟨outcome, _, same⟩ | ⟨session, _, _, rfl⟩
  · have goes := goesOn outcome
    rwa [same] at goes
  · exact waits

/-- What a call that begins becomes, if it may be waited for. -/
theorem becomes_of_beginCall {caller : Client} {method : String} {params : Option Json}
    {proceed : Nat → Operation} (begins : ∀ ticket, Operation.Becomes client operation (proceed ticket))
    (moved : caller.beginCall method params proceed = (next, after)) :
    Operation.Becomes client operation after := by
  rcases beginCall_cases caller method params proceed with broke | ⟨limit, begun⟩
  · rw [broke] at moved
    cases moved
    exact .over
  · rw [begun] at moved
    cases moved
    exact begins _

/-- What a stage makes of a greeting. -/
theorem becomes_of_stepGreeting {stage : GreetingStage}
    (moved : client.step surroundings (.greet stage) = some (next, after)) :
    Operation.Becomes client (.greet stage) after := by
  cases stage with
  | begun =>
    simp only [step, stepGreeting] at moved
    split at moved
    · exact becomes_of_beginCall (fun _ => .greet) (Option.some.inj moved)
    · cases moved
      exact .over
  | asked ticket =>
    refine becomes_of_await .greet (fun outcome => ?_) moved
    split
    · exact .over
    · split
      · exact .over
      · exact .greet
  | answered greeting =>
    simp only [step, stepGreeting] at moved
    split at moved
    · cases moved
      exact .over
    · split at moved <;> cases moved <;> exact .over

/-- What a stage makes of an announcement. -/
theorem becomes_of_stepOpening {document : AnnouncedDocument} {languageId text : String}
    {stage : OpeningStage}
    (moved : client.step surroundings (.openDocument document languageId text stage) =
      some (next, after)) :
    Operation.Becomes client (.openDocument document languageId text stage) after := by
  cases stage with
  | begun =>
    simp only [step, stepOpening] at moved
    split at moved <;> cases moved
    · exact .openDocument
    · exact .over
  | announcing =>
    simp only [step, stepOpening] at moved
    split at moved <;> cases moved
    · exact .over
    · exact .openDocument
  | announced =>
    cases moved
    exact .over

/-- What a stage makes of a question. -/
theorem becomes_of_stepQuery {query : Query} {stage : QueryStage}
    (moved : client.step surroundings (.ask query stage) = some (next, after)) :
    Operation.Becomes client (.ask query stage) after := by
  cases stage with
  | begun =>
    simp only [step, stepQuery] at moved
    split at moved
    · next state =>
      cases moved
      exact .enter state
    · cases moved
      exact .over
  | admitted =>
    simp only [step, stepQuery] at moved
    split at moved
    · cases moved
      exact .over
    · exact becomes_of_beginCall (fun _ => .ask) (Option.some.inj moved)
  | asked ticket =>
    refine becomes_of_await .wait (fun outcome => ?_) moved
    split
    · exact .over
    · split <;> exact .over

/-- What a stage makes of the end of a session. -/
theorem becomes_of_stepEnding {stage : EndingStage}
    (moved : client.step surroundings (.finish stage) = some (next, after)) :
    Operation.Becomes client (.finish stage) after := by
  cases stage with
  | begun =>
    simp only [step, stepEnding] at moved
    split at moved
    · cases moved
      exact .over
    · cases moved
      exact .over
    · cases moved
      exact .finish
    · cases moved
      exact .finish
    all_goals
      split at moved
      · exact becomes_of_beginCall (fun _ => .finish) (Option.some.inj moved)
      · cases moved
        exact .finish
  | asked ticket => exact becomes_of_await .finish (fun _ => .finish) moved
  | leaving | releasing =>
    simp only [step, stepEnding] at moved
    split at moved <;> cases moved <;> exact .finish
  | detaching | draining =>
    cases moved
    exact .finish
  | settling =>
    cases moved
    exact .over

/-- What a stage makes of an operation. -/
theorem becomes_of_step (moved : client.step surroundings operation = some (next, after)) :
    Operation.Becomes client operation after := by
  cases operation with
  | greet stage => exact becomes_of_stepGreeting moved
  | openDocument document languageId text stage => exact becomes_of_stepOpening moved
  | ask query stage => exact becomes_of_stepQuery moved
  | finish stage => exact becomes_of_stepEnding moved
  | «over» ending => cases moved

/-- Only a question that has been admitted adds to what has been asked and may still be. -/
theorem Stage.prospects_le (stage : client.Stage surroundings operation next after)
    (consistent : client.session.Consistent) :
    next.session.prospects ≤
      client.session.prospects + (if operation.isAdmitted then 1 else 0) := by
  rcases stage.utters with same | ⟨event, happens, utters⟩
  · rw [same]
    exact Nat.le_add_right _ _
  · have quiet (unbegun : ∀ method params limit, event ≠ .begin method params limit)
        (notifies : ∀ fault method params, event = .notify fault method params →
          Query.isMethod method = false) :
        next.session.prospects ≤
          client.session.prospects + (if operation.isAdmitted then 1 else 0) :=
      Nat.le_add_right_of_le (Session.prospects_le consistent happens unbegun notifies)
    have begins {method : String} {params : Option Json} {limit : Option Duration}
        (happens : client.session.after? (.begin method params limit) = some next.session) :
        next.session.prospects =
          client.session.prospects + (if Query.isMethod method then 1 else 0) := by
      rw [← Option.some.inj happens]
      exact Session.prospects_begin _ _ _ _
    cases utters with
    | greet | endAsking => exact Nat.le_of_eq (begins happens)
    | @ask query =>
      refine Nat.le_of_eq ((begins happens).trans ?_)
      cases query <;> rfl
    | welcome | announce | leave =>
      refine quiet (by simp) fun fault method params same => ?_
      cases same
      decide
    | proceed | detach | drain => exact quiet (by simp) (by simp)

end Client

end FoldAtlas
