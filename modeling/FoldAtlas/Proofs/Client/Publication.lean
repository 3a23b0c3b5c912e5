import FoldAtlas.Proofs.Client.Asking
import FoldAtlas.Proofs.Client.Workload

/-!
# Questions and the document they are about

However the operations of a client are interleaved, and whichever writes fail, a
question about a document is written behind the announcement of the document, and
there is one announcement only (`questions_follow_announcement`).

The state of the client does not say so: it says that the document is open before
the announcement is written, and may come back to that when the write has failed.
What does is, first, the document slot, which is filled behind the write
(`Workload.Publishes`), and second, that claims of the document and written
announcements together are never more than one (`Workload.ClaimsOnce`).
-/

namespace FoldAtlas

namespace Message

/-- The notification that announces a document with its text. -/
def announcement (document : AnnouncedDocument) (languageId text : String) : Message :=
  .notification (.make Client.openingMethod (some (document.announcement languageId text)))

/-- The parameters of a request or a notification. -/
def params? : Message → Option Json
  | .request asked => asked.params
  | .notification notice => notice.params
  | .response _ => none

/-- The URI of the document that a message is about. -/
def documentUri? (message : Message) : Option String :=
  match (message.params?.bind (·.member? "textDocument")).bind (·.member? "uri") with
  | some (.string uri) => some uri
  | _ => none

/-- An announcement is about the document that it announces. -/
theorem documentUri?_announcement (document : AnnouncedDocument) (languageId text : String) :
    (announcement document languageId text).documentUri? = some document.uri := rfl

/-- A question is about the document that it names. -/
theorem documentUri?_of_reference {asked : Request} {document : AnnouncedDocument}
    (names : asked.params = some document.reference) :
    (Message.request asked).documentUri? = some document.uri := by
  simp only [documentUri?, params?, names]
  rfl

end Message

/-- No question is an announcement. -/
theorem Query.method_ne_openingMethod (query : Query) : query.method ≠ Client.openingMethod := by
  cases query <;> decide

/-! ## What a session has said about documents -/

/-- Whether one of some messages announces a document. -/
def AnnouncedIn (messages : List Message) (document : AnnouncedDocument) : Prop :=
  ∃ languageId text, Message.announcement document languageId text ∈ messages

/-- Whether a request may be made behind some messages: it announces nothing, and if
it is a question, it names a document that they announce. -/
structure Follows (messages : List Message) (method : String) (params : Option Json) : Prop where
  apart : method ≠ Client.openingMethod
  named : ∀ query : Query, method = query.method →
    ∃ document, AnnouncedIn messages document ∧ params = some document.reference

/-- An announced document stays announced. -/
theorem AnnouncedIn.append {messages : List Message} {document : AnnouncedDocument}
    (announced : AnnouncedIn messages document) (more : List Message) :
    AnnouncedIn (messages ++ more) document := by
  obtain ⟨languageId, text, member⟩ := announced
  exact ⟨languageId, text, List.mem_append_left more member⟩

/-- What may follow some messages may follow more. -/
theorem Follows.append {messages : List Message} {method : String} {params : Option Json}
    (follows : Follows messages method params) (more : List Message) :
    Follows (messages ++ more) method params where
  apart := follows.apart
  named query asks := by
    obtain ⟨document, announced, names⟩ := follows.named query asks
    exact ⟨document, announced.append more, names⟩

/-- What stands among others and some that were added is among the others, or it was
added. -/
theorem split_of_append {α : Type} {before more front back : List α} {message : α}
    (split : before ++ more = front ++ message :: back) :
    (∃ rest, before = front ++ message :: rest) ∨
      ∃ between, front = before ++ between ∧ more = between ++ message :: back := by
  rcases List.append_eq_append_iff.mp split with ⟨between, rfl, added⟩ | ⟨rest, rfl, there⟩
  · exact .inr ⟨between, rfl, added⟩
  · cases rest with
    | nil => exact .inr ⟨[], by simp, by simpa using there.symm⟩
    | cons first rest =>
      obtain ⟨rfl, _⟩ := List.cons.inj there
      exact .inl ⟨rest, rfl⟩

namespace Session

/-- What the requests of a session follow: every request that it has written follows
what was written before it, and every call follows what has been written by now. -/
structure Refers (session : Session) : Prop where
  consistent : session.Consistent
  calls : ∀ call ∈ session.calls, Follows session.sent call.method call.params
  requests : ∀ front back request, session.sent = front ++ .request request :: back →
    Follows front request.method request.params

variable {session next : Session} {event : SessionEvent} {ticket : Nat} {later : Call}

/-- A session at its start has said nothing. -/
theorem Refers.start (handlers : Handlers) : (Session.start handlers).Refers where
  consistent := .start handlers
  calls call member := by simp [Session.start] at member
  requests front back request split := by simp [Session.start] at split

/-- A call keeps what it asks, or has just begun with it. -/
theorem Effect.voice (effect : session.Effect event next) (consistent : session.Consistent)
    (found : next.calls[ticket]? = some later) :
    (∃ call ∈ session.calls, later.method = call.method ∧ later.params = call.params) ∨
      ∃ limit, event = .begin later.method later.params limit := by
  rcases effect.length_calls with sameLength | ⟨method, params, limit, rfl, rfl⟩
  · obtain ⟨call, present, move⟩ := effect.origin_of_sameLength consistent sameLength found
    refine .inl ⟨call, List.mem_of_getElem? present, ?_⟩
    rw [move.identity]
    exact ⟨rfl, rfl⟩
  · rcases found_begin found with present | ⟨_, rfl⟩
    · exact .inl ⟨later, List.mem_of_getElem? present, rfl, rfl⟩
    · exact .inr ⟨limit, rfl⟩

/-- An event keeps in order what requests follow, if a call that begins with it
follows what has been written. -/
theorem Refers.after? (refers : session.Refers) (happens : session.after? event = some next)
    (fresh : ∀ method params limit, event = .begin method params limit →
      Follows session.sent method params) : next.Refers := by
  have effect := Effect.of_after? happens
  refine ⟨refers.consistent.of_effect effect, fun later member => ?_,
    fun front back request split => ?_⟩
  · obtain ⟨ticket, found⟩ := List.mem_iff_getElem?.mp member
    obtain ⟨more, sent⟩ := effect.sent_grows
    rw [sent]
    refine Follows.append ?_ more
    rcases effect.voice refers.consistent found with
      ⟨call, present, method, params⟩ | ⟨limit, begun⟩
    · rw [method, params]
      exact refers.calls call present
    · exact fresh _ _ _ begun
  · rcases effect.sent_cases with same | ⟨ticket, call, _, present, _, sent, _⟩ |
      ⟨_, more, sent, apart⟩
    · exact refers.requests front back request (same ▸ split)
    · rw [sent] at split
      rcases split_of_append split with ⟨rest, earlier⟩ | ⟨between, rfl, added⟩
      · exact refers.requests front rest request earlier
      · obtain ⟨rfl, made, _⟩ :
            between = [] ∧ Message.request request = call.request ∧ back = [] := by
          simpa [List.singleton_eq_append_iff] using added
        rw [List.append_nil, Message.request.inj made]
        exact refers.calls call (List.mem_of_getElem? present)
    · rw [sent] at split
      rcases split_of_append split with ⟨rest, earlier⟩ | ⟨between, _, added⟩
      · exact refers.requests front rest request earlier
      · exact absurd (by simp [added]) (apart request)

/-- An event that is no announcement adds none to the transcript. -/
theorem Refers.count_openingMethod (refers : session.Refers)
    (happens : session.after? event = some next)
    (silent : ∀ fault params, event ≠ .notify fault Client.openingMethod params) :
    next.transcript.count Client.openingMethod = session.transcript.count Client.openingMethod := by
  rcases transcript_cases happens with same | ⟨_, call, _, found, _, written, _⟩ |
    ⟨fault, method, params, rfl, written⟩
  · rw [same]
  · have other := (refers.calls call (List.mem_of_getElem? found)).apart
    simp [written, other]
  · have other : method ≠ Client.openingMethod := fun same => silent fault params (same ▸ rfl)
    simp [written, other]

end Session

/-- Whether a state comes before the document is claimed. -/
def Lifecycle.isEarly : Lifecycle → Bool
  | .uninitialized | .initializing | .ready => true
  | .documentOpen | .shuttingDown | .closed => false

/-! ## What an operation may say -/

namespace Client

/-- Whether an operation may let an event happen in the session of its client: it asks
only about the document of the client, and announces only the document that it
opens. -/
def MaySay (client : Client) (operation : Operation) : SessionEvent → Prop
  | .begin method params _ => method ≠ openingMethod ∧
      ∀ query : Query, method = query.method →
        ∃ document, client.document = some document ∧ params = some document.reference
  | .notify _ method params => method = openingMethod →
      ∃ document languageId text, operation = .openDocument document languageId text .announcing ∧
        params = some (document.announcement languageId text)
  | _ => True

variable {client next : Client} {surroundings : Surroundings} {operation after : Operation}

/-- A stage leaves the session alone or lets one event happen that the operation may
let happen. -/
theorem Stage.session_cases (stage : client.Stage surroundings operation next after) :
    next.session = client.session ∨
      ∃ event, client.session.after? event = some next.session ∧ client.MaySay operation event := by
  refine stage.utters.imp_right fun ⟨event, happens, utters⟩ => ⟨event, happens, ?_⟩
  cases utters with
  | greet | endAsking =>
    refine ⟨by decide, fun query asks => ?_⟩
    cases query <;> exact absurd asks (by decide)
  | @ask query document limit known =>
    exact ⟨query.method_ne_openingMethod, fun _ _ => ⟨document, known, rfl⟩⟩
  | welcome | leave => exact fun announces => absurd announces (by decide)
  | announce => exact fun _ => ⟨_, _, _, rfl, rfl⟩
  | proceed | detach | drain => trivial

/-- The document of a client is one whose announcement its operation has just
written, or it was there before. -/
theorem Stage.document_cases (stage : client.Stage surroundings operation next after) :
    next.document = client.document ∨
      ∃ document languageId text,
        operation = .openDocument document languageId text .announced ∧
        next.document = some document := by
  cases stage with
  | publish => exact .inr ⟨_, _, _, rfl, rfl⟩
  | _ => exact .inl rfl

/-- An operation that has just written an announcement has done so in this stage. -/
theorem Stage.announced {document : AnnouncedDocument} {languageId text : String}
    (stage : client.Stage surroundings operation next after)
    (written : after = .openDocument document languageId text .announced) :
    Message.announcement document languageId text ∈ next.session.sent := by
  cases stage with
  | announce wrote =>
    cases written
    rcases notify_cases client.session surroundings.fault openingMethod
      (some (document.announcement languageId text)) with wrotten | ⟨failure, failed⟩
    · rw [wrotten] at wrote
      cases wrote
      exact List.mem_append_right _ (List.mem_singleton.mpr rfl)
    · rw [failed] at wrote
      cases wrote
  | pass _ behind | «end» _ behind =>
    rw [written] at behind
    cases behind
  | proceed before =>
    rw [written] at before
    cases before
  | _ => cases written

/-- What becomes of the claim of a document in one stage. -/
inductive Claim (client : Client) (operation : Operation) (next : Client) (after : Operation) :
    Prop where
  /-- There was none, and there is none. -/
  | none (before : operation.isAnnouncing = false) (behind : after.isAnnouncing = false)
      (later : client.state.isEarly = false → next.state.isEarly = false)
      (silent : next.session.transcript.count openingMethod =
        client.session.transcript.count openingMethod)
  | made (before : operation.isAnnouncing = false) (behind : after.isAnnouncing = true)
      (early : client.state.isEarly = true) (late : next.state.isEarly = false)
      (silent : next.session = client.session)
  | takenBack (before : operation.isAnnouncing = true) (behind : after.isAnnouncing = false)
      (silent : next.session = client.session)
  | redeemed (before : operation.isAnnouncing = true) (behind : after.isAnnouncing = false)
      (same : next.state = client.state)
      (written : next.session.transcript = client.session.transcript ++ [openingMethod])

/-- A stage makes a claim, takes one back, redeems one, or has to do with none. -/
theorem Stage.claim_cases (stage : client.Stage surroundings operation next after)
    (refers : client.session.Refers) : Claim client operation next after := by
  have silent (unclaimed : operation.isAnnouncing = false) :
      next.session.transcript.count openingMethod =
        client.session.transcript.count openingMethod := by
    rcases stage.session_cases with same | ⟨event, happens, mays⟩
    · rw [same]
    · refine refers.count_openingMethod happens ?_
      rintro fault params rfl
      obtain ⟨document, languageId, text, rfl, _⟩ := mays rfl
      cases unclaimed
  cases stage with
  | claim state => exact .made rfl rfl (by rw [state]; rfl) rfl rfl
  | takeBack => exact .takenBack rfl rfl rfl
  | announce wrote => exact .redeemed rfl rfl rfl (Session.transcript_of_notify wrote)
  | pass before behind =>
    have before := Operation.isAnnouncing_of_isOpening before
    exact .none before (Operation.isAnnouncing_of_isOpening behind) id (silent before)
  | proceed before =>
    have before := Operation.isAnnouncing_of_isOpening before
    exact .none before before id (silent before)
  | «end» _ behind =>
    exact .none rfl (Operation.isAnnouncing_of_isOpening behind) (fun _ => rfl) (silent rfl)
  | greet state | greetInVain state | welcome _ state =>
    refine .none rfl rfl (fun late => ?_) (silent rfl)
    rw [state] at late
    cases late
  | endAsking | settle => exact .none rfl rfl (fun _ => rfl) (silent rfl)
  | welcomeInVain | publish | ask | leave | detach | drain | release =>
    exact .none rfl rfl id (silent rfl)

end Client

/-! ## What the operations of a client say -/

namespace Workload

variable {workload next : Workload} {event : WorkloadEvent}

/-- What a client says is in order, its document is announced, and so is every one
whose announcement has just been written. -/
structure Publishes (workload : Workload) : Prop where
  session : workload.client.session.Refers
  document : ∀ document, workload.client.document = some document →
    AnnouncedIn workload.client.session.sent document
  announced : ∀ document languageId text,
    .openDocument document languageId text .announced ∈ workload.operations →
    AnnouncedIn workload.client.session.sent document

/-- A client at its start has no document. -/
theorem Publishes.start (limits : Limits) (rootUri : String) (processId : Nat)
    (process : ServerProcess) : (Workload.start limits rootUri processId process).Publishes where
  session := .start _
  document document known := by cases known
  announced document languageId text member := by cases member

/-- Every change keeps what a client says in order. -/
theorem Publishes.change (publishes : workload.Publishes) (change : workload.Change event next) :
    next.Publishes := by
  cases change with
  | begin fresh =>
    refine ⟨publishes.session, publishes.document, fun document languageId text member => ?_⟩
    rcases List.mem_append.mp member with earlier | now
    · exact publishes.announced document languageId text earlier
    · rw [← List.mem_singleton.mp now] at fresh
      cases fresh
  | @advance surroundings index operation after client found stage =>
    have member := List.mem_of_getElem? found
    obtain ⟨refers, more, grown⟩ : client.session.Refers ∧
        ∃ more, client.session.sent = workload.client.session.sent ++ more := by
      rcases stage.session_cases with same | ⟨event, happens, mays⟩
      · rw [same]
        exact ⟨publishes.session, [], by simp⟩
      · refine ⟨publishes.session.after? happens ?_, (Session.Effect.of_after? happens).sent_grows⟩
        rintro method params limit rfl
        obtain ⟨apart, named⟩ := mays
        refine ⟨apart, fun query asks => ?_⟩
        obtain ⟨document, known, names⟩ := named query asks
        exact ⟨document, publishes.document document known, names⟩
    refine ⟨refers, fun document known => ?_, fun document languageId text present => ?_⟩
    · rcases stage.document_cases with same | ⟨other, languageId, text, rfl, published⟩
      · have announced := publishes.document document (same ▸ known)
        exact grown ▸ announced.append more
      · obtain rfl := Option.some.inj (published.symm.trans known)
        exact grown ▸ (publishes.announced other languageId text member).append more
    · rcases List.mem_or_eq_of_mem_set present with earlier | now
      · exact grown ▸ (publishes.announced document languageId text earlier).append more
      · exact ⟨languageId, text, stage.announced now.symm⟩
  | @background event session background happens =>
    obtain ⟨more, grown⟩ := (Session.Effect.of_after? happens).sent_grows
    refine ⟨publishes.session.after? happens ?_, fun document known => ?_,
      fun document languageId text member => ?_⟩
    · rintro method params limit rfl
      cases background
    · exact grown ▸ (publishes.document document known).append more
    · exact grown ▸ (publishes.announced document languageId text member).append more

/-- How often a document is claimed or was announced. -/
def claims (workload : Workload) : Nat :=
  workload.operations.countP Operation.isAnnouncing +
    workload.client.session.transcript.count Client.openingMethod

/-- The document is claimed or was announced once at most, and not before the state
says so. -/
structure ClaimsOnce (workload : Workload) : Prop where
  once : workload.claims ≤ 1
  early : workload.client.state.isEarly = true → workload.claims = 0

/-- What neither adds a claim nor goes back to an early state keeps claims single. -/
theorem ClaimsOnce.of_same (claimsOnce : workload.ClaimsOnce) (same : next.claims = workload.claims)
    (later : workload.client.state.isEarly = false → next.client.state.isEarly = false) :
    next.ClaimsOnce where
  once := same ▸ claimsOnce.once
  early isEarly := by
    rw [same]
    refine claimsOnce.early ?_
    by_contra late
    rw [later (by simpa using late)] at isEarly
    cases isEarly

/-- Every change of a client that speaks in order keeps claims single. -/
theorem ClaimsOnce.change (claimsOnce : workload.ClaimsOnce) (publishes : workload.Publishes)
    (change : workload.Change event next) : next.ClaimsOnce := by
  cases change with
  | begin fresh =>
    have idle := Operation.isAnnouncing_of_isFresh fresh
    exact claimsOnce.of_same (by simp [claims, idle]) id
  | @advance surroundings index operation after client found stage =>
    obtain ⟨bound, rfl⟩ := List.getElem?_eq_some_iff.mp found
    have counted := List.countP_set (p := Operation.isAnnouncing) (a := after) bound
    have present := List.boole_getElem_le_countP (p := Operation.isAnnouncing) bound
    have once := claimsOnce.once
    rw [claims] at once
    cases stage.claim_cases publishes.session with
    | none before behind later silent =>
      simp only [before, behind, Bool.false_eq_true, ↓reduceIte] at counted
      exact claimsOnce.of_same (by simp only [claims, counted, silent]; omega) later
    | made before behind early late silent =>
      have unclaimed := claimsOnce.early early
      rw [claims] at unclaimed
      simp only [before, behind, Bool.false_eq_true, ↓reduceIte] at counted
      refine ⟨?_, fun early => ?_⟩
      · simp only [claims, counted, silent]
        omega
      · rw [late] at early
        cases early
    | takenBack before behind silent =>
      simp only [before, behind, Bool.false_eq_true, ↓reduceIte] at counted present
      have gone : (workload.operations.set index after).countP Operation.isAnnouncing +
          client.session.transcript.count Client.openingMethod = 0 := by
        rw [counted, silent]
        omega
      exact ⟨Nat.le_trans (Nat.le_of_eq gone) (Nat.zero_le 1), fun _ => gone⟩
    | redeemed before behind same written =>
      simp only [before, behind, Bool.false_eq_true, ↓reduceIte] at counted present
      refine claimsOnce.of_same ?_ (same ▸ id)
      simp only [claims, counted, written, List.count_append, List.count_singleton_self]
      omega
  | @background event session background happens =>
    have silent := Session.transcript_of_background background happens
    exact claimsOnce.of_same (by simp only [claims, silent]) id

/-- Whatever has happened to a client so far, what it says is in order and claims are
single. -/
theorem publishes_of_steps {limits : Limits} {rootUri : String} {processId : Nat}
    {process : ServerProcess} {events : List WorkloadEvent}
    (run : Steps (.start limits rootUri processId process) events workload) :
    workload.Publishes ∧ workload.ClaimsOnce := by
  induction run with
  | refl => exact ⟨.start limits rootUri processId process, Nat.zero_le 1, fun _ => rfl⟩
  | step _ transition ih =>
    have change := Change.of_after? transition
    exact ⟨ih.1.change change, ih.2.change ih.1 change⟩

/-- However the operations of a client are interleaved and whichever writes fail:
every question about a document is written behind its announcement, which is the
only one, and names the same URI. -/
theorem questions_follow_announcement {limits : Limits} {rootUri : String} {processId : Nat}
    {process : ServerProcess} {events : List WorkloadEvent}
    (run : Steps (.start limits rootUri processId process) events workload)
    {front back : List Message} {request : Request} {query : Query}
    (written : workload.client.session.sent = front ++ .request request :: back)
    (asks : request.method = query.method) :
    ∃ announcement ∈ front, ∃ uri, announcement.method? = some Client.openingMethod ∧
      announcement.documentUri? = some uri ∧
      (Message.request request).documentUri? = some uri ∧
      workload.client.session.transcript.count Client.openingMethod = 1 := by
  obtain ⟨publishes, claimsOnce⟩ := publishes_of_steps run
  obtain ⟨document, ⟨languageId, text, announced⟩, names⟩ :=
    (publishes.session.requests front back request written).named query asks
  refine ⟨_, announced, document.uri, rfl, Message.documentUri?_announcement ..,
    Message.documentUri?_of_reference names, ?_⟩
  have told : Client.openingMethod ∈ workload.client.session.transcript :=
    List.mem_filterMap.mpr ⟨_, by rw [written]; exact List.mem_append_left _ announced, rfl⟩
  have some := List.count_pos_iff.mpr told
  have once := claimsOnce.once
  rw [claims] at once
  omega

/-- The stream breaks under the first announcement, while somebody already asks. A
second document is announced, and asked about twice: too early, and in time. -/
def secondAnnouncement : List WorkloadEvent :=
  greeted ++ [.begin (.openUri "file:///a.py" "python" ""), .advance ⟨2, none⟩ 1,
    .begin (.ask .folding .begun), .advance ⟨2, none⟩ 2, .advance ⟨3, some .brokenPipe⟩ 1,
    .begin (.openUri "file:///b.py" "python" ""), .advance ⟨4, none⟩ 3, .advance ⟨4, none⟩ 3,
    .begin (.ask .symbols .begun), .advance ⟨5, none⟩ 4, .advance ⟨5, none⟩ 2,
    .advance ⟨5, none⟩ 3] ++ List.replicate 3 (.advance ⟨6, none⟩ 4)

/-- A question that follows the second announcement. -/
theorem question_of_secondAnnouncement :
    ∃ workload front request,
      Steps (.start ⟨none, 2, false⟩ "file:///" 7 .none) secondAnnouncement workload ∧
      workload.client.session.sent = front ++ .request request :: [] ∧
      request.method = Query.symbols.method ∧
      (Message.request request).documentUri? = some "file:///b.py" ∧
      ∃ announcement ∈ front, ∃ uri, announcement.method? = some Client.openingMethod ∧
        announcement.documentUri? = some uri ∧
        (Message.request request).documentUri? = some uri ∧
        workload.client.session.transcript.count Client.openingMethod = 1 := by
  obtain ⟨workload, ran⟩ : ∃ workload,
      run? (.start ⟨none, 2, false⟩ "file:///" 7 .none) secondAnnouncement = some workload :=
    ⟨_, rfl⟩
  obtain ⟨front, request, written, asks, names⟩ : ∃ front request,
      workload.client.session.sent = front ++ .request request :: [] ∧
      request.method = Query.symbols.method ∧
      (Message.request request).documentUri? = some "file:///b.py" := by
    rw [← Option.some.inj ran]
    exact ⟨[_, _, _], _, rfl, rfl, rfl⟩
  have run := Steps.of_run? ran
  exact ⟨workload, front, request, run, written, asks, names,
    questions_follow_announcement run written asks⟩

end Workload

end FoldAtlas
