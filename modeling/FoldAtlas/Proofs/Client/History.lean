import FoldAtlas.Proofs.Client.Execution

/-!
# Histories of a client

A client that carries out one operation after the other lives through episodes: an errand is
an operation with everything that happens from its beginning until the next thing begins,
and a pause is something that happens in the background while there is nothing to do.
`Client.History` strings episodes together and keeps with what each operation has ended. The
executions that end between two operations are the histories, and no others
(`steps_iff_history`).
-/

namespace FoldAtlas

namespace ClientEvent

/-- Whether an event begins an operation. -/
def isBegin : ClientEvent → Bool
  | .begin _ => true
  | .advance _ | .background _ => false

/-- Whether an event is a stage of an operation. -/
def isAdvance : ClientEvent → Bool
  | .advance _ => true
  | .begin _ | .background _ => false

/-- What an event lets happen in the background. -/
def background? : ClientEvent → Option SessionEvent
  | .background event => some event
  | .begin _ | .advance _ => none

end ClientEvent

/-- What a client lives through at a time. -/
inductive Episode where
  /-- An operation, what happens from its beginning on, and how it ends. -/
  | errand (operation : Operation) (events : List ClientEvent) (ending : Ending)
  /-- Something happens in the background. -/
  | pause (event : SessionEvent)

namespace Episode

/-- The events of an episode. -/
def events : Episode → List ClientEvent
  | .errand operation events _ => .begin operation :: events
  | .pause event => [.background event]

/-- What happens in the background during an episode. -/
def background : Episode → List SessionEvent
  | .errand _ events _ => events.filterMap ClientEvent.background?
  | .pause event => [event]

end Episode

namespace Client

variable {first middle last : Client × Operation} {events more : List ClientEvent}

/-- Executions that meet compose. -/
theorem Steps.trans (front : Steps first events middle) (back : Steps middle more last) :
    Steps first (events ++ more) last := by
  induction back with
  | refl => simpa using front
  | step _ transition ih => simpa [List.append_assoc] using ih.step transition

/-- What holds when an operation begins, and is kept by its stages and by what happens in the
background, holds as long as nothing else begins. -/
theorem Steps.keeps {client : Client} {operation : Operation}
    (run : Steps (client, operation) events last)
    (Holds : List ClientEvent → Client → Operation → Prop)
    (unbegun : ∀ event ∈ events, event.isBegin = false)
    (begun : Holds [] client operation)
    (advance : ∀ events current goal surroundings next after,
      Steps (client, operation) events (current, goal) → Holds events current goal →
      current.step surroundings goal = some (next, after) →
      Holds (events ++ [.advance surroundings]) next after)
    (background : ∀ events current goal event session,
      Steps (client, operation) events (current, goal) → Holds events current goal →
      event.isBackground = true → current.session.after? event = some session →
      Holds (events ++ [.background event]) { current with session } goal) :
    Holds events last.1 last.2 := by
  induction run with
  | refl => exact begun
  | @step events current goal event next prior transition ih =>
    have holds := ih fun other among => unbegun other (List.mem_append_left _ among)
    cases event with
    | begin fresh => cases unbegun (.begin fresh) (by simp)
    | advance surroundings => exact advance _ _ _ _ _ _ prior holds transition
    | background event =>
      simp only [after?] at transition
      split at transition
      · next silent =>
        obtain ⟨session, happens, same⟩ := Option.map_eq_some_iff.mp transition
        cases same
        exact background _ _ _ _ _ prior holds silent happens
      · cases transition

/-- What an episode makes of a client. -/
inductive Undergoes (client : Client) : Episode → Client → Prop where
  | errand {operation : Operation} {events : List ClientEvent} {ending : Ending} {later : Client}
      (fresh : operation.isFresh = true) (unbegun : ∀ event ∈ events, event.isBegin = false)
      (run : Steps (client, operation) events (later, .over ending)) :
      Undergoes client (.errand operation events ending) later
  | pause {event : SessionEvent} {session : Session} (background : event.isBackground = true)
      (happens : client.session.after? event = some session) :
      Undergoes client (.pause event) { client with session }

/-- Episodes that lead, one after the other, from a client to another. -/
inductive History : Client → List Episode → Client → Prop where
  | nil {client : Client} : History client [] client
  | cons {client next last : Client} {episode : Episode} {episodes : List Episode}
      (undergoes : client.Undergoes episode next) (rest : History next episodes last) :
      History client (episode :: episodes) last

namespace History

variable {client later : Client} {episodes others : List Episode} {episode : Episode}

/-- A history of some episodes and then others passes through a client. -/
theorem append_iff :
    History client (episodes ++ others) later ↔
      ∃ middle, History client episodes middle ∧ History middle others later := by
  induction episodes generalizing client with
  | nil =>
    constructor
    · exact fun history => ⟨client, .nil, history⟩
    · rintro ⟨_, ⟨⟩, history⟩
      exact history
  | cons episode episodes ih =>
    constructor
    · rintro (_ | ⟨undergoes, rest⟩)
      obtain ⟨middle, front, back⟩ := ih.mp rest
      exact ⟨middle, .cons undergoes front, back⟩
    · rintro ⟨middle, _ | ⟨undergoes, front⟩, back⟩
      exact .cons undergoes (ih.mpr ⟨middle, front, back⟩)

/-- Histories that meet compose. -/
theorem append {middle : Client} (front : History client episodes middle)
    (back : History middle others later) : History client (episodes ++ others) later :=
  append_iff.mpr ⟨middle, front, back⟩

/-- One episode is a history. -/
theorem single (undergoes : client.Undergoes episode later) : History client [episode] later :=
  .cons undergoes .nil

/-- What happens in the background is a history by itself. -/
theorem pauses {events : List SessionEvent} {session : Session}
    (run : Session.Steps client.session events session)
    (background : ∀ event ∈ events, event.isBackground = true) :
    History client (events.map .pause) { client with session } := by
  induction run with
  | refl => exact .nil
  | @step events current next event _ transition ih =>
    have earlier := ih fun event among => background event (List.mem_append_left _ among)
    rw [List.map_append]
    refine earlier.append (.single ?_)
    have happens : { client with session := current }.session.after? event = some next := transition
    exact .pause (background event (by simp)) happens

/-- A history is an execution. -/
theorem steps (history : History client episodes later) (ending : Ending) :
    ∃ other, Steps (client, .over ending) (episodes.flatMap Episode.events) (later, .over other) := by
  induction history generalizing ending with
  | nil => exact ⟨ending, .refl⟩
  | @cons client next _ episode episodes undergoes _ ih =>
    obtain ⟨between, onward⟩ : ∃ between,
        Steps (client, .over ending) episode.events (next, .over between) := by
      cases undergoes with
      | @errand operation _ between _ fresh _ run =>
        have begins : client.after? (.over ending) (.begin operation) =
            some (client, operation) := by simp [after?, Operation.ending?, fresh]
        exact ⟨between, .trans (.step .refl begins) run⟩
      | @pause event session background happens =>
        have passes : client.after? (.over ending) (.background event) =
            some ({ client with session }, .over ending) := by simp [after?, background, happens]
        exact ⟨ending, .step .refl passes⟩
    obtain ⟨other, rest⟩ := ih between
    exact ⟨other, by simpa using onward.trans rest⟩

end History

/-- An execution that begins between two operations is a history up to the operation that the
client is at, if it is at one. -/
theorem Steps.history {client : Client} {ending : Ending}
    (run : Steps (client, .over ending) events last) :
    ∃ episodes middle, History client episodes middle ∧
      ((events = episodes.flatMap Episode.events ∧ last.1 = middle ∧ last.2.ending?.isSome) ∨
        ∃ operation more, events = episodes.flatMap Episode.events ++ .begin operation :: more ∧
          operation.isFresh = true ∧ (∀ event ∈ more, event.isBegin = false) ∧
          Steps (middle, operation) more last) := by
  induction run with
  | refl => exact ⟨[], client, .nil, .inl ⟨rfl, rfl, rfl⟩⟩
  | @step events current operation event next prior transition ih =>
    obtain ⟨episodes, middle, history, rest⟩ := ih
    cases event with
    | begin fresh =>
      simp only [after?] at transition
      split at transition
      · next allowed =>
        cases transition
        obtain ⟨isOver, isFresh⟩ := Bool.and_eq_true_iff.mp allowed
        -- the operation before, if there was one, is over and becomes an episode
        rcases rest with ⟨rfl, rfl, _⟩ | ⟨earlier, more, rfl, fresh, unbegun, run⟩
        · exact ⟨episodes, current, history, .inr ⟨_, [], by simp, isFresh, by simp, .refl⟩⟩
        · obtain ⟨ending, rfl⟩ : ∃ ending, operation = .over ending := by
            cases operation with
            | «over» ending => exact ⟨ending, rfl⟩
            | _ => cases isOver
          exact ⟨_, current, history.append (.single (.errand fresh unbegun run)),
            .inr ⟨_, [], by simp [Episode.events], isFresh, by simp, .refl⟩⟩
      · cases transition
    | advance surroundings =>
      rcases rest with ⟨_, _, isOver⟩ | ⟨earlier, more, rfl, fresh, unbegun, run⟩
      · cases operation with
        | «over» => cases transition
        | _ => cases isOver
      · refine ⟨episodes, middle, history, .inr ⟨earlier, more ++ [.advance surroundings], by simp,
          fresh, ?_, run.step transition⟩⟩
        simpa [or_imp, forall_and, ClientEvent.isBegin] using unbegun
    | background event =>
      rcases rest with ⟨rfl, rfl, isOver⟩ | ⟨earlier, more, rfl, fresh, unbegun, run⟩
      · simp only [after?] at transition
        split at transition
        · next background =>
          obtain ⟨session, happens, same⟩ := Option.map_eq_some_iff.mp transition
          cases same
          exact ⟨_, _, history.append (.single (.pause background happens)),
            .inl ⟨by simp [Episode.events], rfl, isOver⟩⟩
        · cases transition
      · refine ⟨episodes, middle, history, .inr ⟨earlier, more ++ [.background event], by simp,
          fresh, ?_, run.step transition⟩⟩
        simpa [or_imp, forall_and, ClientEvent.isBegin] using unbegun

/-- The executions that begin and end between two operations are the histories. -/
theorem steps_iff_history {client later : Client} {ending : Ending} :
    (∃ other, Steps (client, .over ending) events (later, .over other)) ↔
      ∃ episodes, History client episodes later ∧ events = episodes.flatMap Episode.events := by
  constructor
  · rintro ⟨other, run⟩
    obtain ⟨episodes, middle, history, ⟨rfl, rfl, _⟩ | ⟨operation, more, rfl, fresh, unbegun, run⟩⟩ :=
      run.history
    · exact ⟨episodes, history, rfl⟩
    · exact ⟨_, history.append (.single (.errand fresh unbegun run)), by simp [Episode.events]⟩
  · rintro ⟨episodes, history, rfl⟩
    exact history.steps ending

/-- A server answers the greeting, and says nothing about itself. -/
def plainGreeting : Episode :=
  .errand (.greet .begun)
    (List.replicate 3 (.advance ⟨0, none⟩) ++
      .background (.dispatch 1 (.response (.ok (.number 1) .null))) ::
        List.replicate 3 (.advance ⟨1, none⟩))
    (.returned (.greeting .silent))

end Client

end FoldAtlas
