import FoldAtlas.Client.Operation
import Mathlib.Computability.RegularExpressions

/-!
# Transcripts

The transcript of a session is the sequence of the methods of the requests and
notifications that this side has written; its responses to the other side are
left out. `Client.handshake` is the grammar that the transcript of a client
obeys, and `Client.Tells` reads a transcript as what the server has been told
so far.
-/

namespace FoldAtlas

/-- The method of a request or a notification. -/
def Message.method? : Message → Option String
  | .request query => some query.method
  | .notification notice => some notice.method
  | .response _ => none

/-- The methods of the requests and notifications that were written, in order. -/
def Session.transcript (session : Session) : List String := session.sent.filterMap Message.method?

namespace Client

/-- The methods that are written once at most, in their order. -/
def singularMethods : List String :=
  [Greeting.openingMethod, Greeting.closingMethod, openingMethod, endingMethod, leavingMethod]

/-! ## The grammar -/

section Grammar

open RegularExpression

/-- Some words or nothing. -/
def perhaps (words : RegularExpression String) : RegularExpression String := 1 + words

/-- A question about the document. -/
def questionWords : RegularExpression String :=
  char Query.folding.method + char Query.symbols.method

/-- The document, and any number of questions about it. -/
def documentWords : RegularExpression String := char openingMethod * questionWords.star

/-- The end of the greeting, and all that needs it. -/
def greetedWords : RegularExpression String :=
  char Greeting.closingMethod * perhaps documentWords * perhaps (char endingMethod)

/-- All that comes before the server is told to end. -/
def stayingWords : RegularExpression String :=
  perhaps (char Greeting.openingMethod * perhaps greetedWords)

/-- All that a client may write, in the only order in which it may. -/
def handshake : RegularExpression String := stayingWords * perhaps (char leavingMethod)

theorem nil_mem_perhaps (words : RegularExpression String) : [] ∈ (perhaps words).matches' :=
  .inl rfl

theorem mem_perhaps {words : RegularExpression String} {word : List String}
    (matched : word ∈ words.matches') : word ∈ (perhaps words).matches' :=
  .inr matched

/-- A question is one of the two. -/
theorem mem_questionWords (query : Query) : [query.method] ∈ questionWords.matches' := by
  cases query with
  | folding => exact .inl rfl
  | symbols => exact .inr rfl

/-- A document with any questions about it. -/
theorem mem_documentWords (queries : List Query) :
    openingMethod :: queries.map Query.method ∈ documentWords.matches' := by
  refine Language.mem_mul.mpr ⟨[openingMethod], rfl, queries.map Query.method, ?_, rfl⟩
  rw [RegularExpression.matches'_star, Language.mem_kstar]
  refine ⟨queries.map fun query => [query.method], ?_, ?_⟩
  · induction queries with
    | nil => rfl
    | cons query rest ih => rw [List.map_cons, List.map_cons, List.flatten_cons, ← ih]; rfl
  · intro word member
    obtain ⟨query, _, rfl⟩ := List.mem_map.mp member
    exact mem_questionWords query

/-- What is written after the greeting. -/
theorem mem_greetedWords {document ending : List String}
    (opened : document ∈ (perhaps documentWords).matches')
    (asked : ending ∈ (perhaps (char endingMethod)).matches') :
    Greeting.closingMethod :: (document ++ ending) ∈ greetedWords.matches' := by
  refine Language.mem_mul.mpr ⟨Greeting.closingMethod :: document, ?_, ending, asked, rfl⟩
  exact Language.mem_mul.mpr ⟨[Greeting.closingMethod], rfl, document, opened, rfl⟩

end Grammar

/-! ## What the server has been told -/

/-- What a server has been told so far. -/
inductive Told where
  /-- Nothing. -/
  | nothing
  /-- The client's side of the greeting. -/
  | greeting
  /-- That the greeting is over. -/
  | greeted
  /-- The document. -/
  | opened
  /-- That it is asked to end. -/
  | ending
  /-- That it has to end. -/
  | gone
deriving DecidableEq, Repr

namespace Told

/-- How many of the methods that are written once at most may have been written. -/
def rank : Told → Nat
  | .nothing => 0
  | .greeting => 1
  | .greeted => 2
  | .opened => 3
  | .ending => 4
  | .gone => 5

/-- Whether the greeting is over and nothing has been said about the end. -/
def IsAtWork (told : Told) : Prop := told = .greeted ∨ told = .opened

end Told

/-- What a transcript tells the server. The greeting is ended only if the client
has been `welcomed`, and the server is asked to end only by a `graceful` client. -/
inductive Tells (welcomed graceful : Prop) : List String → Told → Prop where
  | nothing : Tells welcomed graceful [] .nothing
  | greeting : Tells welcomed graceful [Greeting.openingMethod] .greeting
  | greeted (welcome : welcomed) :
      Tells welcomed graceful [Greeting.openingMethod, Greeting.closingMethod] .greeted
  | opened (welcome : welcomed) (queries : List Query) :
      Tells welcomed graceful
        ([Greeting.openingMethod, Greeting.closingMethod, openingMethod] ++
          queries.map Query.method) .opened
  | ending {words : List String} {told : Told} (isGraceful : graceful)
      (prior : Tells welcomed graceful words told) (atWork : told.IsAtWork) :
      Tells welcomed graceful (words ++ [endingMethod]) .ending
  | gone {words : List String} {told : Told} (prior : Tells welcomed graceful words told)
      (present : told ≠ .gone) : Tells welcomed graceful (words ++ [leavingMethod]) .gone

namespace Tells

variable {welcomed graceful : Prop} {words : List String} {told : Told}

/-- A question may follow the document and other questions. -/
theorem ask (tells : Tells welcomed graceful words .opened) (query : Query) :
    Tells welcomed graceful (words ++ [query.method]) .opened := by
  cases tells with
  | opened welcome queries =>
    have longer : Tells welcomed graceful _ .opened := .opened welcome (queries ++ [query])
    simpa using longer

/-- The document may follow the greeting. -/
theorem opens (tells : Tells welcomed graceful words .greeted) :
    Tells welcomed graceful (words ++ [openingMethod]) .opened := by
  cases tells with
  | greeted welcome => exact .opened welcome []

/-- The end of the greeting may follow the greeting of a welcomed client. -/
theorem greets (tells : Tells welcomed graceful words .greeting) (welcome : welcomed) :
    Tells welcomed graceful (words ++ [Greeting.closingMethod]) .greeted := by
  cases tells with
  | greeting => exact .greeted welcome

/-- A greeting may follow nothing. -/
theorem begins (tells : Tells welcomed graceful words .nothing) :
    Tells welcomed graceful (words ++ [Greeting.openingMethod]) .greeting := by
  cases tells with
  | nothing => exact .greeting

/-- A transcript that does not end yet. -/
theorem mem_stayingWords (tells : Tells welcomed graceful words told) (present : told ≠ .gone) :
    words ∈ stayingWords.matches' := by
  have opening {rest : List String} (matched : rest ∈ (perhaps greetedWords).matches') :
      Greeting.openingMethod :: rest ∈ stayingWords.matches' :=
    mem_perhaps (Language.mem_mul.mpr ⟨[Greeting.openingMethod], rfl, rest, matched, rfl⟩)
  have unopened := nil_mem_perhaps documentWords
  have unasked := nil_mem_perhaps (RegularExpression.char endingMethod)
  have asked : [endingMethod] ∈ (perhaps (.char endingMethod)).matches' := mem_perhaps rfl
  cases tells with
  | nothing => exact nil_mem_perhaps _
  | greeting => exact opening (nil_mem_perhaps _)
  | greeted _ => exact opening (mem_perhaps (mem_greetedWords unopened unasked))
  | opened _ queries =>
    have announced := mem_perhaps (mem_documentWords queries)
    simpa using opening (mem_perhaps (mem_greetedWords announced unasked))
  | ending _ prior atWork =>
    rcases atWork with rfl | rfl
    · cases prior with
      | greeted _ => exact opening (mem_perhaps (mem_greetedWords unopened asked))
    · cases prior with
      | opened _ queries =>
        have announced := mem_perhaps (mem_documentWords queries)
        simpa using opening (mem_perhaps (mem_greetedWords announced asked))
  | gone => exact absurd rfl present

/-- Every transcript is a word of the grammar. -/
theorem mem_handshake (tells : Tells welcomed graceful words told) :
    words ∈ handshake.matches' := by
  by_cases isGone : told = .gone
  · subst isGone
    cases tells with
    | gone prior present =>
      exact Language.mem_mul.mpr
        ⟨_, prior.mem_stayingWords present, [leavingMethod], mem_perhaps rfl, rfl⟩
  · exact Language.mem_mul.mpr
      ⟨words, tells.mem_stayingWords isGone, [], nil_mem_perhaps _, words.append_nil⟩

/-- Without the questions, a transcript is a part of the methods that are written
once at most, in their order. -/
theorem filter_sublist (tells : Tells welcomed graceful words told) :
    (words.filter (· ∈ singularMethods)).Sublist (singularMethods.take told.rank) := by
  induction tells with
  | nothing | greeting | greeted => decide
  | opened _ queries =>
    have unlisted : (queries.map Query.method).filter (· ∈ singularMethods) = [] := by
      rw [List.filter_eq_nil_iff]
      intro method member
      obtain ⟨query, _, rfl⟩ := List.mem_map.mp member
      cases query <;> decide
    rw [List.filter_append, unlisted, List.append_nil]
    decide
  | @ending words told _ _ atWork ih =>
    rw [List.filter_append]
    have bound : told.rank ≤ 3 := by rcases atWork with rfl | rfl <;> decide
    have shorter := ih.trans (List.take_sublist_take_left bound)
    exact shorter.append (List.Sublist.refl [endingMethod])
  | @gone words told _ present ih =>
    rw [List.filter_append]
    have bound : told.rank ≤ 4 := by cases told <;> first | decide | exact absurd rfl present
    have shorter := ih.trans (List.take_sublist_take_left bound)
    exact shorter.append (List.Sublist.refl [leavingMethod])

/-- A method that may be written once is not written twice. -/
theorem count_le_one (tells : Tells welcomed graceful words told) {method : String}
    (singular : method ∈ singularMethods) : words.count method ≤ 1 := by
  have part := tells.filter_sublist.trans (List.take_sublist told.rank singularMethods)
  have single : singularMethods.Nodup := by decide
  calc words.count method
      = (words.filter (· ∈ singularMethods)).count method := by
        rw [List.count_filter (by simpa using singular)]
    _ ≤ singularMethods.count method := part.count_le method
    _ ≤ 1 := List.nodup_iff_count_le_one.mp single method

/-- The end of the greeting is told only by a client that has been welcomed. -/
theorem welcome_of_mem (tells : Tells welcomed graceful words told)
    (written : Greeting.closingMethod ∈ words) : welcomed := by
  induction tells with
  | nothing | greeting => exact absurd written (by decide)
  | greeted welcome | opened welcome => exact welcome
  | ending _ _ _ ih | gone _ _ ih =>
    rcases List.mem_append.mp written with earlier | last
    · exact ih earlier
    · exact absurd last (by decide)

/-- The server is asked to end only by a graceful client. -/
theorem graceful_of_mem (tells : Tells welcomed graceful words told)
    (written : endingMethod ∈ words) : graceful := by
  induction tells with
  | nothing | greeting | greeted => exact absurd written (by decide)
  | opened _ queries =>
    rcases List.mem_append.mp written with early | asked
    · exact absurd early (by decide)
    · obtain ⟨query, _, same⟩ := List.mem_map.mp asked
      cases query <;> exact absurd same (by decide)
  | ending isGraceful => exact isGraceful
  | gone _ _ ih =>
    rcases List.mem_append.mp written with earlier | last
    · exact ih earlier
    · exact absurd last (by decide)

/-- Before the server is told to end, that word has not been written. -/
theorem leavingMethod_notMem (tells : Tells welcomed graceful words told)
    (present : told ≠ .gone) : leavingMethod ∉ words := by
  intro written
  have listed : leavingMethod ∈ words.filter (· ∈ singularMethods) :=
    List.mem_filter.mpr ⟨written, by decide⟩
  have within := tells.filter_sublist.subset listed
  cases told with
  | gone => exact present rfl
  | _ => exact absurd within (by decide)

/-- Nothing is written after the server has been told to end. -/
theorem nil_of_leaving (tells : Tells welcomed graceful words told) {front back : List String}
    (split : words = front ++ leavingMethod :: back) : back = [] := by
  have written : leavingMethod ∈ words := by simp [split]
  have isGone : told = .gone := by
    by_contra present
    exact tells.leavingMethod_notMem present written
  subst isGone
  cases tells with
  | @gone before _ prior present =>
    rcases List.eq_nil_or_concat back with rfl | ⟨middle, last, rfl⟩
    · rfl
    · have same : before ++ [leavingMethod] = (front ++ leavingMethod :: middle) ++ [last] := by
        simpa using split
      have shorter := (List.append_inj' same rfl).1
      exact absurd (by simp [shorter]) (prior.leavingMethod_notMem present)

end Tells

end Client

end FoldAtlas
