import FoldAtlas.Envelope
import FoldAtlas.Settings.Limits

/-!
# Calls

A call of a server's method, from the allocation of its identifier to its
outcome. A call moves from one phase to the next; between two phases anything
else may happen in its session, so whatever must not be torn apart is one step.
-/

namespace FoldAtlas

/-- How far a call is. -/
inductive CallPhase where
  /-- It has an identifier. -/
  | allocated
  /-- The session expects its response. -/
  | registered
  /-- Its request could not be written. -/
  | unsent (failure : Failure)
  /-- Its request is written. It waits, if need be only up to a point in time. -/
  | waiting (deadline : Option Nat)
  /-- It has waited long enough. -/
  | expired
  /-- It is over. -/
  | finished (outcome : Except Failure Json)
deriving Repr

instance : Inhabited CallPhase := ⟨.allocated⟩

namespace CallPhase

/-- The outcome of a call that is over. -/
def outcome? : CallPhase → Option (Except Failure Json)
  | .finished outcome => some outcome
  | _ => none

end CallPhase

/-- A call. -/
structure Call where
  /-- The identifier. -/
  id : UInt64
  method : String
  /-- The parameters, if there are any. -/
  params : Option Json
  /-- How long to wait, if not for ever. -/
  limit : Option Duration
  /-- How far it is. -/
  phase : CallPhase
  /-- The outcome that the session has handed over and the call not yet
  noticed. -/
  inbox : Option (Except Failure Json)
deriving Repr, Inhabited

namespace Call

/-- What a call that has waited long enough fails with. -/
def timeoutFailure (call : Call) : Failure :=
  .timeout ("'" ++ call.method ++ "' timed out after " ++ (call.limit.getD ⟨0⟩).text ++
    ". The language server may be busy or unresponsive")

/-- The request of a call. -/
def request (call : Call) : Message := .request (.make call.id call.method call.params)

/-- The last point in time at which a call that starts to wait now still waits. -/
def deadlineFrom (call : Call) (time : Nat) : Option Nat :=
  call.limit.map fun limit => time + limit.milliseconds

end Call

/-- Whether a point in time has come. -/
def isDue (deadline : Option Nat) (time : Nat) : Bool :=
  match deadline with
  | none => false
  | some deadline => deadline ≤ time

/-- The calls that wait for a response, by the identifiers of their requests. A
call is known by the number under which its session keeps it. -/
structure AwaitedCalls where
  /-- The identifiers with the calls. -/
  entries : List (RequestId × Nat)
deriving Repr, Inhabited

namespace AwaitedCalls

/-- No call waits. -/
def empty : AwaitedCalls := ⟨[]⟩

/-- How many calls wait. -/
def count (pending : AwaitedCalls) : Nat := pending.entries.length

/-- The call that waits for the response with an identifier. -/
def find? (pending : AwaitedCalls) (id : RequestId) : Option Nat :=
  List.lookup id pending.entries

/-- No longer expect the response with an identifier. -/
def erase (pending : AwaitedCalls) (id : RequestId) : AwaitedCalls :=
  ⟨Keyed.without id pending.entries⟩

/-- Expect the response with an identifier, for one call only. -/
def insert (pending : AwaitedCalls) (id : RequestId) (ticket : Nat) : AwaitedCalls :=
  ⟨Keyed.append id ticket pending.entries⟩

/-- The calls that wait. -/
def tickets (pending : AwaitedCalls) : List Nat := pending.entries.map (·.2)

/-- An erased identifier is not found. -/
@[simp]
theorem find?_erase_self (pending : AwaitedCalls) (id : RequestId) :
    (pending.erase id).find? id = none :=
  Keyed.lookup_without_self id pending.entries

/-- Erasing an identifier leaves every other one. -/
theorem find?_erase_of_ne {id other : RequestId} (different : other ≠ id)
    (pending : AwaitedCalls) : (pending.erase id).find? other = pending.find? other :=
  Keyed.lookup_without_of_ne different pending.entries

/-- An inserted identifier is found. -/
@[simp]
theorem find?_insert_self (pending : AwaitedCalls) (id : RequestId) (ticket : Nat) :
    (pending.insert id ticket).find? id = some ticket :=
  Keyed.lookup_append_self id ticket pending.entries

/-- Inserting an identifier leaves every other one. -/
theorem find?_insert_of_ne {id other : RequestId} (different : other ≠ id)
    (pending : AwaitedCalls) (ticket : Nat) :
    (pending.insert id ticket).find? other = pending.find? other :=
  Keyed.lookup_append_of_ne different ticket pending.entries

/-- The entries that are left when an identifier is erased. -/
@[simp]
theorem mem_erase {pending : AwaitedCalls} {id : RequestId} {entry : RequestId × Nat} :
    entry ∈ (pending.erase id).entries ↔ entry ∈ pending.entries ∧ entry.1 ≠ id :=
  Keyed.mem_without

/-- The entries after an insertion: the new one, and those with another
identifier. -/
@[simp]
theorem mem_insert {pending : AwaitedCalls} {id : RequestId} {ticket : Nat}
    {entry : RequestId × Nat} :
    entry ∈ (pending.insert id ticket).entries ↔
      (entry ∈ pending.entries ∧ entry.1 ≠ id) ∨ entry = (id, ticket) := by
  simp [insert, Keyed.append]

/-- Whether no identifier is expected for two calls. -/
def Distinct (pending : AwaitedCalls) : Prop := (pending.entries.map Prod.fst).Nodup

/-- What is found is an entry. -/
theorem mem_of_find? {pending : AwaitedCalls} {id : RequestId} {ticket : Nat}
    (found : pending.find? id = some ticket) : (id, ticket) ∈ pending.entries :=
  Keyed.mem_of_lookup found

/-- Every entry is found. -/
theorem Distinct.find?_eq_some_iff {pending : AwaitedCalls} (distinct : pending.Distinct)
    {id : RequestId} {ticket : Nat} :
    pending.find? id = some ticket ↔ (id, ticket) ∈ pending.entries :=
  Keyed.lookup_eq_some_iff distinct

/-- An identifier is not found exactly when it has no entry. -/
theorem find?_eq_none_iff {pending : AwaitedCalls} {id : RequestId} :
    pending.find? id = none ↔ ∀ ticket, (id, ticket) ∉ pending.entries := by
  rw [find?, Keyed.lookup_eq_none_iff]
  simp

/-- Erasing keeps identifiers distinct. -/
theorem Distinct.erase {pending : AwaitedCalls} (distinct : pending.Distinct)
    (id : RequestId) : (pending.erase id).Distinct :=
  Keyed.nodup_without distinct

/-- Inserting keeps identifiers distinct. -/
theorem Distinct.insert {pending : AwaitedCalls} (distinct : pending.Distinct)
    (id : RequestId) (ticket : Nat) : (pending.insert id ticket).Distinct :=
  Keyed.nodup_append distinct

/-- Erasing an identifier that is found takes out one entry. -/
theorem Distinct.exists_split {pending : AwaitedCalls} (distinct : pending.Distinct)
    {id : RequestId} {ticket : Nat} (found : pending.find? id = some ticket) :
    ∃ front back, pending.entries = front ++ (id, ticket) :: back ∧
      (pending.erase id).entries = front ++ back :=
  Keyed.exists_split_of_lookup distinct found

/-- Inserting an identifier that is not found puts one entry behind all others. -/
theorem entries_insert_of_absent {pending : AwaitedCalls} {id : RequestId} (ticket : Nat)
    (absent : pending.find? id = none) :
    (pending.insert id ticket).entries = pending.entries ++ [(id, ticket)] := by
  simp only [insert, Keyed.append, Keyed.without_eq_self absent]

end AwaitedCalls

end FoldAtlas
