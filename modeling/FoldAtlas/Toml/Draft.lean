import FoldAtlas.Toml.Number

/-!
# Tables under construction

A table of a settings document may be written in several places: by a header of
its own, by headers of tables inside it, and by dotted keys. What each place may
still add depends on how the table came about, so a draft remembers whether a
table was only implied and whether dotted keys made it. Nothing can be added to
an array of values or a table between braces.

A draft keeps the entries of a table in the order in which their keys came,
because the first key decides what the table is: under `dateTimeKey` it spells a
date or time, and nothing behind that key counts. `Draft.complete?` makes the
value of a draft, unless such a spelling is wrong.
-/

namespace FoldAtlas.Toml

/-- What stands under a key of a table under construction. -/
inductive Draft where
  /-- A value that is neither an array nor a table. -/
  | scalar (value : Toml)
  /-- An array of values. -/
  | array (items : List Draft)
  /-- A table between braces. -/
  | braced (entries : List (String × Draft))
  /-- A table. It is implied if only something inside it has been written, and
  dotted if dotted keys made it. -/
  | table (isImplied isDotted : Bool) (entries : List (String × Draft))
  /-- The tables of an array that headers write one by one. -/
  | tables (elements : List (List (String × Draft)))
deriving Repr, Inhabited

/-- A table under construction. -/
structure TableDraft where
  /-- Whether only something inside the table has been written. -/
  isImplied : Bool
  /-- Whether dotted keys made the table. -/
  isDotted : Bool
  /-- What stands in the table. -/
  entries : List (String × Draft)
deriving Repr, Inhabited

namespace TableDraft

/-- An empty table with a header of its own. -/
def empty : TableDraft := ⟨false, false, []⟩

/-- The draft that a table is under a key. -/
def toDraft (draft : TableDraft) : Draft :=
  .table draft.isImplied draft.isDotted draft.entries

/-- Put something under a key. A key that is there keeps its place. -/
def put (draft : TableDraft) (key : String) (inner : Draft) : TableDraft :=
  { draft with entries := Keyed.put key inner draft.entries }

/-- Change the table that a path of keys leads to. Tables on the way that are
not there are implied. A path of an array of tables goes on in its last one. A
dotted path may only pass through tables that were implied. -/
def within (dotted : Bool) (change : TableDraft → Option TableDraft) :
    (path : List String) → TableDraft → Option TableDraft
  | [], draft => change draft
  | key :: path, draft =>
    match List.lookup key draft.entries with
    | none =>
      (within dotted change path ⟨true, dotted, []⟩).map fun inner =>
        draft.put key inner.toDraft
    | some (.scalar _) | some (.array _) | some (.braced _) => none
    | some (.table isImplied isDotted entries) =>
      if dotted && !isImplied then none
      else (within dotted change path ⟨isImplied, isDotted, entries⟩).map fun inner =>
        draft.put key inner.toDraft
    | some (.tables elements) =>
      match elements.getLast? with
      | none => none
      | some last =>
        (within dotted change path ⟨false, false, last⟩).map fun inner =>
          draft.put key (.tables (elements.dropLast ++ [inner.entries]))

/-- Add an entry to a table. Dotted keys add to the tables that dotted keys
made, and a bare key to any other. -/
def addEntry (isDottedPath : Bool) (key : String) (value : Draft) (draft : TableDraft) :
    Option TableDraft :=
  if draft.isDotted != isDottedPath then none
  else match List.lookup key draft.entries with
    | some _ => none
    | none => some (draft.put key value)

/-- Add the entry with a path of keys to a table. -/
def addPath (path : List String) (value : Draft) (draft : TableDraft) : Option TableDraft :=
  match path.getLast? with
  | none => none
  | some key =>
    let around := path.dropLast
    within (around != []) (addEntry (around != []) key value) around draft

/-- Begin the table under a key with a header of its own. The key must be free or
stand for a table that headers implied; it comes behind all others then. -/
def beginTable (key : String) (draft : TableDraft) : Option TableDraft :=
  match List.lookup key draft.entries with
  | none => some (draft.put key empty.toDraft)
  | some (.table true false entries) =>
    some { draft with entries := Keyed.append key (.table false false entries) draft.entries }
  | some _ => none

/-- Begin one more table of the array under a key. The key must be free or stand
for such an array. -/
def beginElement (key : String) (draft : TableDraft) : Option TableDraft :=
  match List.lookup key draft.entries with
  | none => some (draft.put key (.tables [[]]))
  | some (.tables elements) => some (draft.put key (.tables (elements ++ [[]])))
  | some _ => none

/-- Carry out a change under the last key of a path. -/
def atPath (change : String → TableDraft → Option TableDraft) (path : List String)
    (draft : TableDraft) : Option TableDraft :=
  match path.getLast? with
  | none => none
  | some key => within false (change key) path.dropLast draft

end TableDraft

/-- The key under which a table spells a date or time. -/
def dateTimeKey : String := "$__toml_private_datetime"

/-- The date or time that a draft spells. -/
def Draft.dateTime? : Draft → Option DateTime
  | .scalar (.string text) =>
    match dateOrTime text.toList with
    | some (found, []) => some found
    | _ => none
  | _ => none

mutual

/-- The value of a draft. -/
def Draft.complete? : Draft → Option Toml
  | .scalar value => some value
  | .array items => (completeItems? items).map .array
  | .braced entries => completeTable? entries
  | .table _ _ entries => completeTable? entries
  | .tables elements => (completeTables? elements).map .array

/-- The value of a table with some entries. -/
def completeTable? : List (String × Draft) → Option Toml
  | [] => some (.table [])
  | (key, draft) :: rest =>
    if key = dateTimeKey then draft.dateTime?.map .dateTime
    else match draft.complete?, completeEntries? rest with
      | some value, some others => some (.table (Keyed.sort ((key, value) :: others)))
      | _, _ => none

/-- The entries of a table, each with its value. -/
def completeEntries? : List (String × Draft) → Option (List (String × Toml))
  | [] => some []
  | (key, draft) :: rest =>
    match draft.complete?, completeEntries? rest with
    | some value, some others => some ((key, value) :: others)
    | _, _ => none

/-- The items of an array of values. -/
def completeItems? : List Draft → Option (List Toml)
  | [] => some []
  | draft :: rest =>
    match draft.complete?, completeItems? rest with
    | some value, some others => some (value :: others)
    | _, _ => none

/-- The tables of an array under construction. -/
def completeTables? : List (List (String × Draft)) → Option (List Toml)
  | [] => some []
  | entries :: rest =>
    match completeTable? entries, completeTables? rest with
    | some value, some others => some (value :: others)
    | _, _ => none

end

end FoldAtlas.Toml
