import FoldAtlas.Proofs.Analysis.Dealing

/-!
# Operations of an analysis

How far the operations of an analysis are at a server that keeps to its script: the greeting
(`Script.Greets`), the announcement of the document (`Script.Opens`) and the two queries
(`Script.Asks`). Each is kept by every step of the operation, which then has less left to do,
and by what happens in the background; and each lets the operation go on until it is over.
-/

namespace FoldAtlas

/-- All that an analysis writes, in its order. -/
def Analysis.words : List String :=
  [Greeting.openingMethod, Greeting.closingMethod, Client.openingMethod, Query.folding.method,
    Query.symbols.method]

namespace Limits

/-- The limit of a call that does not end the session exists if there is a limit at all. -/
theorem limitOf_cases (limits : Limits) {method : String}
    (ordinary : CallClass.ofMethod method ≠ .ending) :
    limits.limitOf method = .uncountable ∨
    (limits.limitOf method = .unlimited ∧ limits.baseSeconds.isSome = false) ∨
    ∃ limit, limits.limitOf method = .within limit ∧ limits.baseSeconds.isSome = true := by
  have counted (total : Nat) :
      (if total ≤ maxSeconds then CallLimit.within (.ofSeconds total) else .uncountable) =
          .uncountable ∨
        ∃ limit, (if total ≤ maxSeconds then CallLimit.within (.ofSeconds total)
          else .uncountable) = .within limit := by
    by_cases countable : total ≤ maxSeconds
    · exact .inr ⟨_, if_pos countable⟩
    · exact .inl (if_neg countable)
  simp only [limitOf]
  cases kind : CallClass.ofMethod method with
  | ending => exact absurd kind ordinary
  | request | greeting =>
    cases limits.baseSeconds with
    | none => exact .inr (.inl ⟨rfl, rfl⟩)
    | some seconds =>
      exact (counted _).imp_right fun ⟨limit, within⟩ => .inr ⟨limit, within, rfl⟩

/-- A query always has a limit that can be counted, if any. -/
theorem limitOf_query (limits : Limits) (query : Query) :
    limits.limitOf query.method ≠ .uncountable := by
  have request : CallClass.ofMethod query.method = .request := by cases query <;> decide
  simp only [limitOf, request]
  cases limits.baseSeconds with
  | none => simp
  | some seconds =>
    have bound : seconds.toNat < UInt64.size := seconds.toNat_lt
    have countable : seconds.toNat * factor .request ≤ maxSeconds := by
      have once : factor .request = 1 := rfl
      rw [once, maxSeconds]
      omega
    have within : (if seconds.toNat * factor .request ≤ maxSeconds then
        CallLimit.within (.ofSeconds (seconds.toNat * factor .request)) else .uncountable) =
          .within (.ofSeconds (seconds.toNat * factor .request)) := if_pos countable
    intro uncountable
    cases within.symm.trans uncountable

end Limits

namespace Script

variable {script : Script} {limits : Limits} {client next : Client} {words : List String}
  {method : String} {count ticket left : Nat} {call : Call} {event : SessionEvent} {time : Nat}
  {session : Session} {operation after : Operation}

/-! ## Calls of operations -/

/-- A call begins, unless its limit cannot be counted. -/
theorem Resting.beginCall (rests : script.Resting client.session words count)
    (given : client.limits = limits) (ordinary : CallClass.ofMethod method ≠ .ending)
    (params : Option Json) (proceed : Nat → Operation) :
    (limits.limitOf method = .uncountable ∧
      client.beginCall method params proceed = (client, .over .brokeDown)) ∨
    (limits.limitOf method ≠ .uncountable ∧ ∃ session call,
      client.beginCall method params proceed = ({ client with session }, proceed count) ∧
        script.Dealing limits session words method count call ∧ call.left = 6) := by
  rw [Client.beginCall, given]
  rcases limits.limitOf_cases ordinary with uncountable | ⟨unlimited, none⟩ |
    ⟨limit, within, some⟩
  · exact .inl ⟨uncountable, by rw [uncountable]⟩
  · obtain ⟨call, dealing, six⟩ := rests.begin method params
      Option.none none.symm
    refine .inr ⟨by simp [unlimited], _, call, ?_, dealing, six⟩
    simp only [unlimited, Session.begin, rests.asked]
  · obtain ⟨call, dealing, six⟩ := rests.begin method params
      (Option.some limit) some.symm
    refine .inr ⟨by simp [within], _, call, ?_, dealing, six⟩
    simp only [within, Session.begin, rests.asked]

/-- An operation that waits for a call goes on with its outcome, or the call goes on. -/
theorem Dealing.awaited {waiting : Operation} {goOn : Except Failure Json → Client × Operation}
    (dealing : script.Dealing limits client.session words method ticket call)
    (consistent : client.session.Consistent) (waits : script.MayWait client.session time)
    (moved : client.await ⟨time, none⟩ ticket waiting goOn = some (next, after)) :
    (∃ outcome, client.session.outcome? ticket = some outcome ∧ goOn outcome = (next, after)) ∨
    ∃ session later, next = { client with session } ∧ after = waiting ∧
      script.Dealing limits session words method ticket later ∧ later.left < call.left := by
  rcases Client.await_cases moved with ended | ⟨session, stepped, rfl, rfl⟩
  · exact .inl ended
  · obtain ⟨later, dealingNext, less⟩ := dealing.advance consistent waits stepped
    exact .inr ⟨session, later, rfl, rfl, dealingNext, less⟩

/-- Whether an operation can go on by itself, or something may happen in the background that
leaves it less to do. -/
def Onward (script : Script) (client : Client) (operation : Operation)
    (stands : Client → Nat → Prop) (left : Nat) : Prop :=
  (∃ time next, script.MayWait client.session time ∧
    client.step ⟨time, none⟩ operation = some next) ∨
  ∃ event session less, event.isBackground = true ∧
    (AnalysisEvent.background event).IsScripted script client.session ∧
    client.session.after? event = some session ∧ stands { client with session } less ∧
    less < left

/-- Between two calls, an operation that can go on may do so. -/
theorem Resting.onward {stands : Client → Nat → Prop}
    (rests : script.Resting client.session words count)
    (ready : (client.step ⟨0, none⟩ operation).isSome) :
    Onward script client operation stands left := by
  obtain ⟨next, moved⟩ := Option.isSome_iff_exists.mp ready
  exact .inl ⟨0, next, rests.mayWait 0, moved⟩

/-- When its only call is over, time may pass. -/
theorem Dealing.mayWait_of_over {outcome : Except Failure Json}
    (dealing : script.Dealing limits session words method ticket call)
    (ended : session.outcome? ticket = some outcome) (time : Nat) :
    script.MayWait session time := by
  have isOver := Option.isSome_iff_exists.mpr ⟨outcome, ended⟩
  have finished := (Session.isDecided_of_isSome dealing.found isOver).2
  refine dealing.mayWait fun deadline waits _ _ => ?_
  rw [waits] at finished
  cases finished

/-- An operation that waits for a call goes on when it is over, and as it goes on. -/
theorem Dealing.operationOnward {waiting : Operation} {stands : Client → Nat → Prop} {more : Nat}
    {goOn : Except Failure Json → Client × Operation}
    (dealing : script.Dealing limits client.session words method ticket call)
    (consistent : client.session.Consistent) (few : ticket < 3)
    (expectant : client.session.calls.length < 2 ^ 64 - 1 → client.session.Expectant)
    (limited : script.reply ticket = .silence → limits.baseSeconds.isSome = true)
    (awaits : ∀ surroundings,
      client.step surroundings waiting = client.await surroundings ticket waiting goOn)
    (stand : ∀ session later, script.Dealing limits session words method ticket later →
      stands { client with session } (more + later.left)) :
    Onward script client waiting stands (more + call.left) := by
  cases ended : client.session.outcome? ticket with
  | some outcome =>
    refine .inl ⟨0, goOn outcome, dealing.mayWait_of_over ended 0, ?_⟩
    simp only [awaits, Client.await, ended]
  | none =>
    have countable : client.session.calls.length < 2 ^ 64 - 1 := by
      rw [dealing.last]
      omega
    rcases dealing.onward consistent (expectant countable) ended limited with
      ⟨time, session, patient, moved⟩ | ⟨event, session, later, background, scripted, happens,
        dealingNext, less⟩
    · refine .inl ⟨time, ({ client with session }, waiting), patient, ?_⟩
      simp only [awaits, Client.await, ended, moved, Option.map_some]
    · exact .inr ⟨event, session, _, background, scripted, happens,
        stand session later dealingNext, Nat.add_lt_add_left less more⟩

/-! ## The greeting -/

/-- How far the greeting of a server is, and how many steps it has left. -/
def Greets (script : Script) (limits : Limits) (client : Client) (left : Nat) : Operation → Prop
  | .greet .begun =>
    client.state = .uninitialized ∧ script.Resting client.session [] 0 ∧ left = 9
  | .greet (.asked ticket) =>
    client.state = .initializing ∧ ticket = 0 ∧
      limits.limitOf Greeting.openingMethod ≠ .uncountable ∧
      ∃ call, script.Dealing limits client.session [] Greeting.openingMethod 0 call ∧
        left = 2 + call.left
  | .greet (.answered greeting) =>
    client.state = .initializing ∧ limits.limitOf Greeting.openingMethod ≠ .uncountable ∧
      script.greeting.Brings .greeting (.ok greeting) ∧
      script.Resting client.session (Analysis.words.take 1) 1 ∧ left = 2
  | .over (.returned (.greeting greeting)) =>
    client.state = .ready ∧ limits.limitOf Greeting.openingMethod ≠ .uncountable ∧
      script.greeting.Brings .greeting (.ok greeting) ∧
      script.Resting client.session (Analysis.words.take 2) 1 ∧ left = 1
  | .over (.failed failure) =>
    limits.limitOf Greeting.openingMethod ≠ .uncountable ∧
      ∃ call outcome, script.Dealing limits client.session [] Greeting.openingMethod 0 call ∧
        client.session.outcome? 0 = some outcome ∧
        outcome.bind Inquiry.greeting.read = .error failure ∧ left = 1
  | .over .brokeDown =>
    limits.limitOf Greeting.openingMethod = .uncountable ∧
      script.Resting client.session [] 0 ∧ left = 1
  | _ => False

/-- A greeting goes on. -/
theorem Greets.step (greets : script.Greets limits client left operation)
    (given : client.limits = limits) (consistent : client.session.Consistent)
    (waits : script.MayWait client.session time)
    (moved : client.step ⟨time, none⟩ operation = some (next, after)) :
    ∃ less, less < left ∧ script.Greets limits next less after := by
  cases operation with
  | greet stage =>
    cases stage with
    | begun =>
      obtain ⟨state, rests, rfl⟩ := greets
      simp only [Client.step, Client.stepGreeting, if_pos state] at moved
      have ordinary : CallClass.ofMethod Greeting.openingMethod ≠ .ending := by decide
      have restsToo : script.Resting (Client.session { client with state := .initializing }) [] 0 :=
        rests
      rcases restsToo.beginCall given ordinary (some client.greetingParams)
          fun ticket => .greet (.asked ticket) with
        ⟨uncountable, broke⟩ | ⟨countable, session, call, asked, dealing, six⟩
      · rw [broke] at moved
        cases moved
        exact ⟨1, by decide, uncountable, rests, rfl⟩
      · rw [asked] at moved
        cases moved
        exact ⟨2 + call.left, by omega, rfl, rfl, countable, call, dealing, rfl⟩
    | asked ticket =>
      obtain ⟨state, rfl, countable, call, dealing, rfl⟩ := greets
      have positive := call.left_pos
      rcases dealing.awaited consistent waits moved with
        ⟨outcome, ended, went⟩ | ⟨session, later, rfl, rfl, dealingNext, less⟩
      · cases outcome with
        | error failure =>
          cases went
          exact ⟨1, by omega, countable, call, _, dealing, ended, rfl, rfl⟩
        | ok value =>
          simp only [Inquiry.read_greeting] at went
          cases read : Inquiry.greeting.read value with
          | error failure =>
            simp only [read] at went
            cases went
            exact ⟨1, by omega, countable, call, _, dealing, ended, read, rfl⟩
          | ok greeting =>
            simp only [read] at went
            cases went
            have brings : script.greeting.Brings .greeting (.ok greeting) :=
              ⟨_, dealing.yields ended, read.symm⟩
            exact ⟨2, by omega, state, countable, brings, dealing.rests ended, rfl⟩
      · exact ⟨2 + later.left, by omega, state, rfl, countable, later, dealingNext, rfl⟩
    | answered greeting =>
      obtain ⟨state, countable, brings, rests, rfl⟩ := greets
      obtain ⟨session, wrote, restsNext⟩ := rests.notify Greeting.closingMethod (some (.object []))
      simp only [Client.step, Client.stepGreeting, wrote, if_pos state] at moved
      cases moved
      exact ⟨1, by decide, rfl, countable, brings, restsNext, rfl⟩
  | «over» ending => cases moved
  | _ => cases greets

/-- What happens in the background lets a greeting be as far as it is. -/
theorem Greets.background (greets : script.Greets limits client left operation)
    (consistent : client.session.Consistent) (background : event.isBackground = true)
    (scripted : (AnalysisEvent.background event).IsScripted script client.session)
    (happens : client.session.after? event = some session) :
    ∃ less, less ≤ left ∧ script.Greets limits { client with session } less operation := by
  cases operation with
  | greet stage =>
    cases stage with
    | begun =>
      obtain ⟨state, rests, rfl⟩ := greets
      exact ⟨9, Nat.le_refl 9, state, rests.background consistent background scripted happens, rfl⟩
    | asked ticket =>
      obtain ⟨state, rfl, countable, call, dealing, rfl⟩ := greets
      obtain ⟨later, dealingNext, less⟩ :=
        dealing.background consistent background scripted happens
      exact ⟨2 + later.left, by omega, state, rfl, countable, later, dealingNext, rfl⟩
    | answered greeting =>
      obtain ⟨state, countable, brings, rests, rfl⟩ := greets
      exact ⟨2, Nat.le_refl 2, state, countable, brings,
        rests.background consistent background scripted happens, rfl⟩
  | «over» ending =>
    cases ending with
    | returned result =>
      cases result with
      | greeting greeting =>
        obtain ⟨state, countable, brings, rests, rfl⟩ := greets
        exact ⟨1, Nat.le_refl 1, state, countable, brings,
          rests.background consistent background scripted happens, rfl⟩
      | _ => cases greets
    | failed failure =>
      obtain ⟨countable, call, outcome, dealing, ended, failed, rfl⟩ := greets
      obtain ⟨later, dealingNext, _⟩ :=
        dealing.background consistent background scripted happens
      have endedToo := (Session.Steps.single happens).outcome_persists consistent ended
      exact ⟨1, Nat.le_refl 1, countable, later, outcome, dealingNext, endedToo, failed, rfl⟩
    | brokeDown =>
      obtain ⟨uncountable, rests, rfl⟩ := greets
      exact ⟨1, Nat.le_refl 1, uncountable,
        rests.background consistent background scripted happens, rfl⟩
  | _ => cases greets

/-- A greeting that is not over can go on. -/
theorem Greets.onward (greets : script.Greets limits client left operation)
    (running : operation.ending? = none) (consistent : client.session.Consistent)
    (expectant : client.session.calls.length < 2 ^ 64 - 1 → client.session.Expectant)
    (limited : script.greeting = .silence → limits.baseSeconds.isSome = true) :
    Onward script client operation (fun client left => script.Greets limits client left operation)
      left := by
  cases operation with
  | greet stage =>
    cases stage with
    | begun =>
      obtain ⟨state, rests, rfl⟩ := greets
      exact rests.onward (by simp only [Client.step, Client.stepGreeting, if_pos state,
        Option.isSome_some])
    | asked ticket =>
      obtain ⟨state, rfl, countable, call, dealing, rfl⟩ := greets
      exact dealing.operationOnward consistent (by decide) expectant limited (fun _ => rfl)
        fun session later dealingNext => ⟨state, rfl, countable, later, dealingNext, rfl⟩
    | answered greeting =>
      obtain ⟨state, countable, brings, rests, rfl⟩ := greets
      obtain ⟨session, wrote, _⟩ := rests.notify Greeting.closingMethod (some (.object []))
      exact rests.onward (by simp only [Client.step, Client.stepGreeting, wrote, if_pos state,
        Option.isSome_some])
  | «over» ending => cases running
  | _ => cases greets

/-- What has been written during a greeting. -/
theorem Greets.told (greets : script.Greets limits client left operation) :
    client.session.transcript <+: Analysis.words.take 1 ∨
      (∃ greeting, script.greeting.Brings .greeting (.ok greeting)) ∧
        client.session.transcript = Analysis.words.take 2 := by
  cases operation with
  | greet stage =>
    cases stage with
    | begun =>
      obtain ⟨_, rests, _⟩ := greets
      exact .inl (rests.told ▸ List.nil_prefix)
    | asked ticket =>
      obtain ⟨_, _, _, call, dealing, _⟩ := greets
      exact .inl dealing.told_prefix
    | answered greeting =>
      obtain ⟨_, _, _, rests, _⟩ := greets
      exact .inl (rests.told ▸ List.prefix_refl _)
  | «over» ending =>
    cases ending with
    | returned result =>
      cases result with
      | greeting greeting =>
        obtain ⟨_, _, brings, rests, _⟩ := greets
        exact .inr ⟨⟨greeting, brings⟩, rests.told⟩
      | _ => cases greets
    | failed failure =>
      obtain ⟨_, call, outcome, dealing, _⟩ := greets
      exact .inl dealing.told_prefix
    | brokeDown =>
      obtain ⟨_, rests, _⟩ := greets
      exact .inl (rests.told ▸ List.nil_prefix)
  | _ => cases greets

/-- When a greeting is over, time may pass. -/
theorem Greets.mayWait {ending : Ending}
    (greets : script.Greets limits client left (.over ending)) (time : Nat) :
    script.MayWait client.session time := by
  cases ending with
  | returned result =>
    cases result with
    | greeting greeting =>
      obtain ⟨_, _, _, rests, _⟩ := greets
      exact rests.mayWait time
    | _ => cases greets
  | failed failure =>
    obtain ⟨_, call, outcome, dealing, ended, _⟩ := greets
    exact dealing.mayWait_of_over ended time
  | brokeDown =>
    obtain ⟨_, rests, _⟩ := greets
    exact rests.mayWait time

/-! ## The announcement of the document -/

/-- How far the announcement of the document is, and how many steps it has left. -/
def Opens (script : Script) (client : Client) (left : Nat) : Operation → Prop
  | .openDocument _ _ _ .begun =>
    client.state = .ready ∧ script.Resting client.session (Analysis.words.take 2) 1 ∧ left = 4
  | .openDocument _ _ _ .announcing =>
    client.state = .documentOpen ∧
      script.Resting client.session (Analysis.words.take 2) 1 ∧ left = 3
  | .openDocument _ _ _ .announced =>
    client.state = .documentOpen ∧
      script.Resting client.session (Analysis.words.take 3) 1 ∧ left = 2
  | .over (.returned _) =>
    client.state = .documentOpen ∧ client.document.isSome = true ∧
      script.Resting client.session (Analysis.words.take 3) 1 ∧ left = 1
  | _ => False

/-- An announcement goes on. -/
theorem Opens.step (opens : script.Opens client left operation)
    (moved : client.step ⟨time, none⟩ operation = some (next, after)) :
    ∃ less, less < left ∧ script.Opens next less after := by
  cases operation with
  | openDocument document languageId text stage =>
    cases stage with
    | begun =>
      obtain ⟨state, rests, rfl⟩ := opens
      simp only [Client.step, Client.stepOpening, if_pos state] at moved
      cases moved
      exact ⟨3, by decide, rfl, rests, rfl⟩
    | announcing =>
      obtain ⟨state, rests, rfl⟩ := opens
      obtain ⟨session, wrote, restsNext⟩ :=
        rests.notify Client.openingMethod (some (document.announcement languageId text))
      simp only [Client.step, Client.stepOpening, wrote] at moved
      cases moved
      exact ⟨2, by decide, state, restsNext, rfl⟩
    | announced =>
      obtain ⟨state, rests, rfl⟩ := opens
      cases moved
      exact ⟨1, by decide, state, rfl, rests, rfl⟩
  | «over» ending => cases moved
  | _ => cases opens

/-- What happens in the background lets an announcement be as far as it is. -/
theorem Opens.background (opens : script.Opens client left operation)
    (consistent : client.session.Consistent) (background : event.isBackground = true)
    (scripted : (AnalysisEvent.background event).IsScripted script client.session)
    (happens : client.session.after? event = some session) :
    script.Opens { client with session } left operation := by
  cases operation with
  | openDocument document languageId text stage =>
    cases stage with
    | begun | announcing | announced =>
      obtain ⟨state, rests, rfl⟩ := opens
      exact ⟨state, rests.background consistent background scripted happens, rfl⟩
  | «over» ending =>
    cases ending with
    | returned result =>
      obtain ⟨state, document, rests, rfl⟩ := opens
      exact ⟨state, document, rests.background consistent background scripted happens, rfl⟩
    | _ => cases opens
  | _ => cases opens

/-- An announcement that is not over can go on. -/
theorem Opens.onward (opens : script.Opens client left operation)
    (running : operation.ending? = none) :
    Onward script client operation (fun client left => script.Opens client left operation)
      left := by
  cases operation with
  | openDocument document languageId text stage =>
    cases stage with
    | begun =>
      obtain ⟨state, rests, rfl⟩ := opens
      exact rests.onward (by simp only [Client.step, Client.stepOpening, if_pos state,
        Option.isSome_some])
    | announcing =>
      obtain ⟨state, rests, rfl⟩ := opens
      obtain ⟨session, wrote, _⟩ :=
        rests.notify Client.openingMethod (some (document.announcement languageId text))
      exact rests.onward (by simp only [Client.step, Client.stepOpening, wrote,
        Option.isSome_some])
    | announced =>
      obtain ⟨state, rests, rfl⟩ := opens
      exact rests.onward rfl
  | «over» ending => cases running
  | _ => cases opens

/-- What has been written during an announcement. -/
theorem Opens.told (opens : script.Opens client left operation) :
    client.session.transcript <+: Analysis.words.take 3 := by
  have shorter : Analysis.words.take 2 <+: Analysis.words.take 3 :=
    List.take_prefix_take_left (by decide)
  cases operation with
  | openDocument document languageId text stage =>
    cases stage with
    | begun | announcing =>
      obtain ⟨_, rests, _⟩ := opens
      exact rests.told ▸ shorter
    | announced =>
      obtain ⟨_, rests, _⟩ := opens
      exact rests.told ▸ List.prefix_refl _
  | «over» ending =>
    cases ending with
    | returned result =>
      obtain ⟨_, _, rests, _⟩ := opens
      exact rests.told ▸ List.prefix_refl _
    | _ => cases opens
  | _ => cases opens

/-- When an announcement is over, time may pass. -/
theorem Opens.mayWait {ending : Ending} (opens : script.Opens client left (.over ending))
    (time : Nat) : script.MayWait client.session time := by
  cases ending with
  | returned result =>
    obtain ⟨_, _, rests, _⟩ := opens
    exact rests.mayWait time
  | _ => cases opens

/-! ## Queries -/

/-- How far a query is, which is the call with a ticket after some words, and how many steps
it has left. -/
def Asks (script : Script) (limits : Limits) (query : Query) (words : List String) (ticket : Nat)
    (client : Client) (left : Nat) : Operation → Prop
  | .ask asked .begun =>
    asked = query ∧ client.state = .documentOpen ∧ client.document.isSome = true ∧
      script.Resting client.session words ticket ∧ left = 9
  | .ask asked .admitted =>
    asked = query ∧ client.state = .documentOpen ∧ client.document.isSome = true ∧
      script.Resting client.session words ticket ∧ left = 8
  | .ask asked (.asked number) =>
    asked = query ∧ number = ticket ∧ client.state = .documentOpen ∧
      client.document.isSome = true ∧
      ∃ call, script.Dealing limits client.session words query.method ticket call ∧
        left = 1 + call.left
  | .over (.returned result) =>
    client.state = .documentOpen ∧ client.document.isSome = true ∧
      (∃ value, script.reply ticket = .result value ∧ query.decode value = .ok result) ∧
      script.Resting client.session (words ++ [query.method]) (ticket + 1) ∧ left = 1
  | .over (.failed failure) =>
    ∃ call outcome, script.Dealing limits client.session words query.method ticket call ∧
      client.session.outcome? ticket = some outcome ∧
      outcome.bind query.decode = .error failure ∧ left = 1
  | _ => False

variable {query : Query}

/-- A query goes on. -/
theorem Asks.step (asks : script.Asks limits query words ticket client left operation)
    (given : client.limits = limits) (consistent : client.session.Consistent)
    (waits : script.MayWait client.session time)
    (moved : client.step ⟨time, none⟩ operation = some (next, after)) :
    ∃ less, less < left ∧ script.Asks limits query words ticket next less after := by
  cases operation with
  | ask asked stage =>
    cases stage with
    | begun =>
      obtain ⟨rfl, state, document, rests, rfl⟩ := asks
      simp only [Client.step, Client.stepQuery, if_pos state] at moved
      cases moved
      exact ⟨8, by decide, rfl, state, document, rests, rfl⟩
    | admitted =>
      obtain ⟨rfl, state, document, rests, rfl⟩ := asks
      obtain ⟨known, present⟩ := Option.isSome_iff_exists.mp document
      simp only [Client.step, Client.stepQuery, present] at moved
      have ordinary : CallClass.ofMethod asked.method ≠ .ending := by cases asked <;> decide
      rcases rests.beginCall given ordinary (some known.reference)
          fun ticket => .ask asked (.asked ticket) with
        ⟨uncountable, _⟩ | ⟨_, session, call, begun, dealing, six⟩
      · exact absurd uncountable (limits.limitOf_query asked)
      · rw [begun] at moved
        cases moved
        exact ⟨1 + call.left, by omega, rfl, rfl, state, document, call, dealing, rfl⟩
    | asked number =>
      obtain ⟨rfl, rfl, state, document, call, dealing, rfl⟩ := asks
      have positive := call.left_pos
      rcases dealing.awaited consistent waits moved with
        ⟨outcome, ended, went⟩ | ⟨session, later, rfl, rfl, dealingNext, less⟩
      · cases outcome with
        | error failure =>
          cases went
          exact ⟨1, by omega, call, _, dealing, ended, rfl, rfl⟩
        | ok value =>
          cases read : asked.decode value with
          | error failure =>
            simp only [read] at went
            cases went
            exact ⟨1, by omega, call, _, dealing, ended, read, rfl⟩
          | ok result =>
            simp only [read] at went
            cases went
            exact ⟨1, by omega, state, document,
              ⟨value, (dealing.yields ended).eq_result, read⟩, dealing.rests ended, rfl⟩
      · exact ⟨1 + later.left, by omega, rfl, rfl, state, document, later, dealingNext, rfl⟩
  | «over» ending => cases moved
  | _ => cases asks

/-- What happens in the background lets a query be as far as it is. -/
theorem Asks.background (asks : script.Asks limits query words ticket client left operation)
    (consistent : client.session.Consistent) (background : event.isBackground = true)
    (scripted : (AnalysisEvent.background event).IsScripted script client.session)
    (happens : client.session.after? event = some session) :
    ∃ less, less ≤ left ∧
      script.Asks limits query words ticket { client with session } less operation := by
  cases operation with
  | ask asked stage =>
    cases stage with
    | begun | admitted =>
      obtain ⟨rfl, state, document, rests, rfl⟩ := asks
      exact ⟨_, Nat.le_refl _, rfl, state, document,
        rests.background consistent background scripted happens, rfl⟩
    | asked number =>
      obtain ⟨rfl, rfl, state, document, call, dealing, rfl⟩ := asks
      obtain ⟨later, dealingNext, less⟩ :=
        dealing.background consistent background scripted happens
      exact ⟨1 + later.left, by omega, rfl, rfl, state, document, later, dealingNext, rfl⟩
  | «over» ending =>
    cases ending with
    | returned result =>
      obtain ⟨state, document, brings, rests, rfl⟩ := asks
      exact ⟨1, Nat.le_refl 1, state, document, brings,
        rests.background consistent background scripted happens, rfl⟩
    | failed failure =>
      obtain ⟨call, outcome, dealing, ended, failed, rfl⟩ := asks
      obtain ⟨later, dealingNext, _⟩ :=
        dealing.background consistent background scripted happens
      have endedToo := (Session.Steps.single happens).outcome_persists consistent ended
      exact ⟨1, Nat.le_refl 1, later, outcome, dealingNext, endedToo, failed, rfl⟩
    | brokeDown => cases asks
  | _ => cases asks

/-- A query that is not over can go on. -/
theorem Asks.onward (asks : script.Asks limits query words ticket client left operation)
    (running : operation.ending? = none) (few : ticket < 3)
    (consistent : client.session.Consistent)
    (expectant : client.session.calls.length < 2 ^ 64 - 1 → client.session.Expectant)
    (limited : script.reply ticket = .silence → limits.baseSeconds.isSome = true) :
    Onward script client operation
      (fun client left => script.Asks limits query words ticket client left operation) left := by
  cases operation with
  | ask asked stage =>
    cases stage with
    | begun =>
      obtain ⟨rfl, state, document, rests, rfl⟩ := asks
      exact rests.onward (by simp only [Client.step, Client.stepQuery, if_pos state,
        Option.isSome_some])
    | admitted =>
      obtain ⟨rfl, state, document, rests, rfl⟩ := asks
      obtain ⟨known, present⟩ := Option.isSome_iff_exists.mp document
      exact rests.onward (by simp only [Client.step, Client.stepQuery, present,
        Option.isSome_some])
    | asked number =>
      obtain ⟨rfl, rfl, state, document, call, dealing, rfl⟩ := asks
      exact dealing.operationOnward consistent few expectant limited (fun _ => rfl)
        fun session later dealingNext => ⟨rfl, rfl, state, document, later, dealingNext, rfl⟩
  | «over» ending => cases running
  | _ => cases asks

/-- What has been written during a query. -/
theorem Asks.told (asks : script.Asks limits query words ticket client left operation) :
    client.session.transcript <+: words ++ [query.method] := by
  cases operation with
  | ask asked stage =>
    cases stage with
    | begun | admitted =>
      obtain ⟨_, _, _, rests, _⟩ := asks
      exact rests.told ▸ List.prefix_append words _
    | asked number =>
      obtain ⟨_, _, _, _, call, dealing, _⟩ := asks
      exact dealing.told_prefix
  | «over» ending =>
    cases ending with
    | returned result =>
      obtain ⟨_, _, _, rests, _⟩ := asks
      exact rests.told ▸ List.prefix_refl _
    | failed failure =>
      obtain ⟨call, outcome, dealing, _⟩ := asks
      exact dealing.told_prefix
    | brokeDown => cases asks
  | _ => cases asks

/-- When a query is over, time may pass. -/
theorem Asks.mayWait {ending : Ending}
    (asks : script.Asks limits query words ticket client left (.over ending)) (time : Nat) :
    script.MayWait client.session time := by
  cases ending with
  | returned result =>
    obtain ⟨_, _, _, rests, _⟩ := asks
    exact rests.mayWait time
  | failed failure =>
    obtain ⟨call, outcome, dealing, ended, _⟩ := asks
    exact dealing.mayWait_of_over ended time
  | brokeDown => cases asks

end Script

end FoldAtlas
