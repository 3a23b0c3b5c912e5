import FoldAtlas.Proofs.Json.Arrangement
import FoldAtlas.Toml.Document

/-!
# Documents in order

Every table of a settings document that was read has its keys in increasing order, at any
depth (`Toml.ordered_of_read?`).

What a draft is made of has only to be plain: a table or an array in it stands for itself and
never hides in a scalar (`Draft.Plain`). Scanning makes plain drafts, every statement keeps
a document plain, and a plain draft is completed to a value in order, because the entries of
a table are put into order last.
-/

namespace FoldAtlas

namespace Keyed

/-- An entry that is put in place is the new one or an old one. -/
theorem mem_of_mem_put {κ α : Type} [DecidableEq κ] {key : κ} {value : α}
    {entries : List (κ × α)} {entry : κ × α} (member : entry ∈ put key value entries) :
    entry = (key, value) ∨ entry ∈ entries := by
  induction entries with
  | nil => exact .inl (List.mem_singleton.mp member)
  | cons first entries ih =>
    obtain ⟨other, old⟩ := first
    rw [put] at member
    split at member
    · exact (List.mem_cons.mp member).imp_right (List.mem_cons_of_mem _)
    · rcases List.mem_cons.mp member with rfl | later
      · exact .inr List.mem_cons_self
      · exact (ih later).imp_right (List.mem_cons_of_mem _)

end Keyed

namespace Toml

/-- Whether a value holds no other. -/
def isAtomic : Toml → Bool
  | .string _ | .integer _ | .real _ | .boolean _ | .dateTime _ => true
  | .array _ | .table _ => false

/-- Whether the keys of every table in a value increase. -/
inductive Ordered : Toml → Prop where
  | atom {value : Toml} (atomic : value.isAtomic = true) : Ordered value
  | array {items : List Toml} (items_ordered : ∀ item ∈ items, Ordered item) :
      Ordered (.array items)
  | table {entries : Entries} (increasing : Keyed.Increasing entries)
      (values : ∀ entry ∈ entries, Ordered entry.2) : Ordered (.table entries)

/-- Whether no scalar in a draft holds other values. -/
inductive Draft.Plain : Draft → Prop where
  | scalar {value : Toml} (atomic : value.isAtomic = true) : Plain (.scalar value)
  | array {items : List Draft} (plain : ∀ item ∈ items, Plain item) : Plain (.array items)
  | braced {entries : List (String × Draft)} (plain : ∀ entry ∈ entries, Plain entry.2) :
      Plain (.braced entries)
  | table {isImplied isDotted : Bool} {entries : List (String × Draft)}
      (plain : ∀ entry ∈ entries, Plain entry.2) : Plain (.table isImplied isDotted entries)
  | tables {elements : List (List (String × Draft))}
      (plain : ∀ element ∈ elements, ∀ entry ∈ element, Plain entry.2) :
      Plain (.tables elements)

/-! ## Drafts that are completed -/

/-- A date or time is in order. -/
theorem Ordered.dateTime (value : DateTime) : Ordered (.dateTime value) := .atom rfl

/-- The items of an array are completed one by one. -/
theorem exists_of_completeItems? {items : List Draft} {values : List Toml}
    (complete : completeItems? items = some values) :
    ∀ value ∈ values, ∃ item ∈ items, item.complete? = some value := by
  induction items generalizing values with
  | nil =>
    cases complete
    intro value member
    cases member
  | cons draft items ih =>
    rw [completeItems?] at complete
    split at complete
    · next first others completeFirst completeRest =>
      cases complete
      intro value member
      rcases List.mem_cons.mp member with rfl | later
      · exact ⟨draft, List.mem_cons_self, completeFirst⟩
      · obtain ⟨item, among, completeItem⟩ := ih completeRest value later
        exact ⟨item, List.mem_cons_of_mem _ among, completeItem⟩
    · cases complete

/-- The entries of a table are completed one by one. -/
theorem exists_of_completeEntries? {entries : List (String × Draft)} {found : Entries}
    (complete : completeEntries? entries = some found) :
    ∀ entry ∈ found, ∃ draft ∈ entries, draft.2.complete? = some entry.2 := by
  induction entries generalizing found with
  | nil =>
    cases complete
    intro entry member
    cases member
  | cons first entries ih =>
    obtain ⟨key, draft⟩ := first
    rw [completeEntries?] at complete
    split at complete
    · next value others completeFirst completeRest =>
      cases complete
      intro entry member
      rcases List.mem_cons.mp member with rfl | later
      · exact ⟨(key, draft), List.mem_cons_self, completeFirst⟩
      · obtain ⟨item, among, completeItem⟩ := ih completeRest entry later
        exact ⟨item, List.mem_cons_of_mem _ among, completeItem⟩
    · cases complete

/-- Entries that are put into order make a table in order. -/
theorem Ordered.sort {entries : Entries} (values : ∀ entry ∈ entries, Ordered entry.2) :
    Ordered (.table (Keyed.sort entries)) :=
  .table (Keyed.increasing_sort entries) fun entry member =>
    values entry (Keyed.mem_of_mem_sort member)

/-- A table is in order when the values of all its entries are, and a date or time that
it spells is in order anyway. -/
theorem Ordered.of_completeTable? {entries : List (String × Draft)} {value : Toml}
    (values : ∀ entry ∈ entries, ∀ value, entry.2.complete? = some value → Ordered value)
    (complete : completeTable? entries = some value) : Ordered value := by
  cases entries with
  | nil =>
    cases complete
    exact .table .nil fun entry member => absurd member List.not_mem_nil
  | cons first entries =>
    obtain ⟨key, draft⟩ := first
    rw [completeTable?] at complete
    split at complete
    · obtain ⟨spelled, -, rfl⟩ := Option.map_eq_some_iff.mp complete
      exact .dateTime spelled
    · split at complete
      · next value others completeFirst completeRest =>
        cases complete
        have completeAll : completeEntries? ((key, draft) :: entries) =
            some ((key, value) :: others) := by
          rw [completeEntries?, completeFirst, completeRest]
        refine .sort fun entry member => ?_
        obtain ⟨item, among, completeItem⟩ := exists_of_completeEntries? completeAll entry member
        exact values item among entry.2 completeItem
      · cases complete

/-- The tables of an array are in order when all their entries are. -/
theorem Ordered.of_completeTables? {elements : List (List (String × Draft))}
    {values : List Toml}
    (ordered : ∀ element ∈ elements, ∀ entry ∈ element, ∀ value,
      entry.2.complete? = some value → Ordered value)
    (complete : completeTables? elements = some values) : ∀ value ∈ values, Ordered value := by
  induction elements generalizing values with
  | nil =>
    cases complete
    intro value member
    cases member
  | cons element elements ih =>
    rw [completeTables?] at complete
    split at complete
    · next first others completeFirst completeRest =>
      cases complete
      intro value member
      rcases List.mem_cons.mp member with rfl | later
      · exact .of_completeTable? (ordered element List.mem_cons_self) completeFirst
      · exact ih (fun other among => ordered other (List.mem_cons_of_mem _ among)) completeRest
          value later
    · cases complete

/-- A plain draft is completed to a value in order. -/
theorem Ordered.of_complete? {draft : Draft} {value : Toml} (plain : draft.Plain)
    (complete : draft.complete? = some value) : Ordered value := by
  induction plain generalizing value with
  | scalar atomic =>
    rw [Draft.complete?] at complete
    cases complete
    exact .atom atomic
  | array _ ih =>
    rw [Draft.complete?] at complete
    obtain ⟨values, completeAll, rfl⟩ := Option.map_eq_some_iff.mp complete
    refine .array fun item member => ?_
    obtain ⟨draft, among, completeItem⟩ := exists_of_completeItems? completeAll item member
    exact ih draft among completeItem
  | braced _ ih | table _ ih =>
    rw [Draft.complete?] at complete
    exact .of_completeTable? (fun entry among _ => ih entry among) complete
  | tables _ ih =>
    rw [Draft.complete?] at complete
    obtain ⟨values, completeAll, rfl⟩ := Option.map_eq_some_iff.mp complete
    exact .array (.of_completeTables? (fun element among entry inside _ =>
      ih element among entry inside) completeAll)

/-! ## Drafts that are scanned -/

/-- Whether everything that a scan finds has a property. -/
def Yields {α : Type} (scan : Scan α) (property : α → Prop) : Prop :=
  ∀ text found rest, scan text = some (found, rest) → property found

section Scans

variable {α : Type} {scan : Scan α} {property : α → Prop} {value : Scan Draft}

/-- Everything that a repeated scan finds has the property of what it finds once. -/
theorem Yields.many (yields : Yields scan property) (text : List Char) :
    ∀ found ∈ (many scan text).1, property found := by
  have upTo (bound text : List Char) : ∀ found ∈ (manyUpTo scan bound text).1, property found := by
    induction bound generalizing text with
    | nil =>
      intro found member
      cases member
    | cons char bound ih =>
      rw [manyUpTo]
      split
      · intro found member
        cases member
      · next first rest scanned =>
        intro found member
        rcases List.mem_cons.mp member with rfl | later
        · exact yields text found rest scanned
        · exact ih rest found later
  exact upTo text text

/-- A truth value holds no other value. -/
theorem yields_truthValue : Yields truthValue fun value => value.isAtomic = true := by
  intro text found rest scanned
  rw [truthValue.eq_def] at scanned
  split at scanned
  · cases scanned
    rfl
  · cases scanned
    rfl
  · cases scanned

/-- A number, a date or a time holds no other value. -/
theorem yields_numberOrTime : Yields numberOrTime fun value => value.isAtomic = true := by
  intro text found rest scanned
  rw [numberOrTime] at scanned
  split at scanned
  · cases scanned
    rfl
  · split at scanned
    · cases scanned
      rfl
    · split at scanned
      · cases scanned
        rfl
      · obtain ⟨_, -, same⟩ := Option.map_eq_some_iff.mp scanned
        cases same
        rfl

/-- A scalar holds no other value. -/
theorem yields_scalar : Yields scalar fun value => value.isAtomic = true := by
  intro text found rest scanned
  rw [scalar] at scanned
  split at scanned
  · cases scanned
    rfl
  · split at scanned
    · next truth =>
      cases scanned
      exact yields_truthValue text found rest truth
    · exact yields_numberOrTime text found rest scanned

/-- The items of an array are plain when every value is. -/
theorem Yields.arrayBody (yields : Yields value Draft.Plain) :
    Yields (Toml.arrayBody value) fun items => ∀ item ∈ items, item.Plain := by
  have next : Yields (nextItem value) Draft.Plain := by
    intro text found rest scanned
    rw [nextItem] at scanned
    split at scanned
    · exact yields _ found rest scanned
    · cases scanned
  intro text items rest scanned
  rw [Toml.arrayBody] at scanned
  split at scanned
  · cases scanned
    intro item member
    cases member
  · split at scanned
    · cases scanned
    · next first behind scannedFirst =>
      dsimp only at scanned
      split at scanned
      · cases scanned
        intro item member
        rcases List.mem_cons.mp member with rfl | later
        · exact yields _ item behind scannedFirst
        · exact next.many behind item later
      · cases scanned

/-- The value of an entry between braces is plain when every value is. -/
theorem Yields.inlineEntry (yields : Yields value Draft.Plain) :
    Yields (Toml.inlineEntry value) fun entry => entry.2.Plain := by
  intro text entry rest scanned
  rw [Toml.inlineEntry] at scanned
  split at scanned
  · obtain ⟨⟨found, behind⟩, scannedValue, same⟩ := Option.map_eq_some_iff.mp scanned
    cases same
    exact yields _ found behind scannedValue
  · cases scanned

end Scans

/-! ## Tables that are written piece by piece -/

/-- Whether everything that stands in a table is plain. -/
def TableDraft.Plain (draft : TableDraft) : Prop :=
  ∀ entry ∈ draft.entries, entry.2.Plain

/-- Whether a change of tables keeps them plain. -/
def KeepsPlain (change : TableDraft → Option TableDraft) : Prop :=
  ∀ before after, change before = some after → before.Plain → after.Plain

/-- What holds of the first state holds of the last one when every step keeps it. -/
theorem foldlM_keeps {σ ι : Type} (property : σ → Prop) {step : σ → ι → Option σ}
    {items : List ι} {first last : σ}
    (keeps : ∀ item ∈ items, ∀ before after, step before item = some after →
      property before → property after)
    (run : items.foldlM step first = some last) (holds : property first) : property last := by
  induction items generalizing first with
  | nil =>
    cases run
    exact holds
  | cons item items ih =>
    rw [List.foldlM_cons] at run
    obtain ⟨between, stepped, rest⟩ := Option.bind_eq_some_iff.mp run
    refine ih (fun other member => keeps other (List.mem_cons_of_mem _ member)) rest ?_
    exact keeps item List.mem_cons_self first between stepped holds

namespace TableDraft

variable {draft : TableDraft} {key : String} {inner value : Draft} {path : List String}

/-- An empty table is plain. -/
theorem Plain.nil {isImplied isDotted : Bool} : Plain ⟨isImplied, isDotted, []⟩ :=
  fun _ member => absurd member List.not_mem_nil

/-- A plain table is plain under a key. -/
theorem Plain.toDraft (plain : draft.Plain) : draft.toDraft.Plain := .table plain

/-- Putting something plain into a plain table keeps it plain. -/
theorem Plain.put (plain : draft.Plain) (innerPlain : inner.Plain) :
    (draft.put key inner).Plain := by
  intro entry member
  rcases Keyed.mem_of_mem_put member with rfl | before
  · exact innerPlain
  · exact plain entry before

/-- A change deep inside a table keeps it plain when the change keeps tables plain. -/
theorem KeepsPlain.within {change : TableDraft → Option TableDraft} {dotted : Bool}
    (keeps : KeepsPlain change) : KeepsPlain (TableDraft.within dotted change path) := by
  induction path with
  | nil => exact keeps
  | cons key path ih =>
    intro before after changed plain
    rw [TableDraft.within] at changed
    split at changed
    · obtain ⟨inner, made, rfl⟩ := Option.map_eq_some_iff.mp changed
      exact plain.put (ih _ inner made .nil).toDraft
    · cases changed
    · cases changed
    · cases changed
    · next isImplied isDotted entries found =>
      split at changed
      · cases changed
      · obtain ⟨inner, made, rfl⟩ := Option.map_eq_some_iff.mp changed
        cases plain _ (Keyed.mem_of_lookup found) with
        | table entriesPlain => exact plain.put (ih _ inner made entriesPlain).toDraft
    · next elements found =>
      split at changed
      · cases changed
      · next last isLast =>
        obtain ⟨inner, made, rfl⟩ := Option.map_eq_some_iff.mp changed
        cases plain _ (Keyed.mem_of_lookup found) with
        | tables elementsPlain =>
          have lastPlain : Plain ⟨false, false, last⟩ :=
            elementsPlain last (List.mem_of_getLast? isLast)
          refine plain.put (.tables fun element member => ?_)
          rcases List.mem_append.mp member with earlier | atEnd
          · exact elementsPlain element (List.dropLast_subset _ earlier)
          · obtain rfl := List.mem_singleton.mp atEnd
            exact ih _ inner made lastPlain

/-- Adding a plain entry keeps tables plain. -/
theorem keepsPlain_addEntry {isDottedPath : Bool} (plain : value.Plain) :
    KeepsPlain (addEntry isDottedPath key value) := by
  intro before after added beforePlain
  rw [addEntry] at added
  split at added
  · cases added
  · split at added
    · cases added
    · cases added
      exact beforePlain.put plain

/-- Adding a plain entry under a path keeps tables plain. -/
theorem keepsPlain_addPath (plain : value.Plain) : KeepsPlain (addPath path value) := by
  intro before after added
  rw [addPath] at added
  split at added
  · cases added
  · exact KeepsPlain.within (keepsPlain_addEntry plain) before after added

/-- Beginning a table keeps tables plain. -/
theorem keepsPlain_beginTable : KeepsPlain (beginTable key) := by
  intro before after begun plain
  rw [beginTable] at begun
  split at begun
  · cases begun
    exact plain.put (Plain.toDraft .nil)
  · next entries found =>
    cases begun
    intro entry member
    cases plain _ (Keyed.mem_of_lookup found) with
    | table entriesPlain =>
      rcases List.mem_append.mp member with kept | moved
      · exact plain entry (Keyed.mem_without.mp kept).1
      · obtain rfl := List.mem_singleton.mp moved
        exact .table entriesPlain
  · cases begun

/-- Beginning one more table of an array keeps tables plain. -/
theorem keepsPlain_beginElement : KeepsPlain (beginElement key) := by
  have emptyPlain (element : List (String × Draft)) (member : element ∈ [[]]) :
      ∀ entry ∈ element, entry.2.Plain := by
    obtain rfl := List.mem_singleton.mp member
    exact fun entry among => absurd among List.not_mem_nil
  intro before after begun plain
  rw [beginElement] at begun
  split at begun
  · cases begun
    exact plain.put (.tables emptyPlain)
  · next elements found =>
    cases begun
    cases plain _ (Keyed.mem_of_lookup found) with
    | tables elementsPlain =>
      refine plain.put (.tables fun element member => ?_)
      rcases List.mem_append.mp member with earlier | new
      · exact elementsPlain element earlier
      · exact emptyPlain element new
  · cases begun

/-- A change under the last key of a path keeps tables plain when each change does. -/
theorem KeepsPlain.atPath {change : String → TableDraft → Option TableDraft}
    (keeps : ∀ key, KeepsPlain (change key)) : KeepsPlain (TableDraft.atPath change path) := by
  intro before after changed
  rw [TableDraft.atPath] at changed
  split at changed
  · cases changed
  · next key _ => exact KeepsPlain.within (keeps key) before after changed

end TableDraft

/-! ## Values and statements -/

/-- A table between braces is plain when all its values are. -/
theorem Yields.tableBody {value : Scan Draft} (yields : Yields value Draft.Plain) :
    Yields (Toml.tableBody value) Draft.Plain := by
  have next : Yields (nextEntry value) fun entry => entry.2.Plain := by
    intro text entry rest scanned
    rw [nextEntry.eq_def] at scanned
    split at scanned
    · exact yields.inlineEntry _ entry rest scanned
    · cases scanned
  intro text draft rest scanned
  rw [Toml.tableBody] at scanned
  split at scanned
  · cases scanned
    exact .braced fun entry member => absurd member List.not_mem_nil
  · split at scanned
    · cases scanned
    · next first behind scannedFirst =>
      split at scanned
      · next others behindAll scannedOthers =>
        obtain ⟨_, made, same⟩ := Option.map_eq_some_iff.mp scanned
        cases same
        obtain ⟨table, added, rfl⟩ := Option.map_eq_some_iff.mp made
        have plain : ∀ entry ∈ first :: others, entry.2.Plain := by
          intro entry member
          rcases List.mem_cons.mp member with rfl | later
          · exact yields.inlineEntry _ entry behind scannedFirst
          · exact next.many behind entry (scannedOthers ▸ later)
        have tablePlain : table.Plain := foldlM_keeps TableDraft.Plain
          (fun entry member => TableDraft.keepsPlain_addPath (plain entry member)) added
          TableDraft.Plain.nil
        exact .braced tablePlain
      · cases scanned

/-- Every value that is scanned is plain. -/
theorem yields_valueWithin (depth : Nat) : Yields (valueWithin depth) Draft.Plain := by
  have scalars : Yields (valueWithin 0) Draft.Plain := by
    intro text draft rest scanned
    obtain ⟨⟨found, _⟩, scannedScalar, same⟩ := Option.map_eq_some_iff.mp scanned
    cases same
    exact .scalar (yields_scalar text found _ scannedScalar)
  induction depth with
  | zero => exact scalars
  | succ depth ih =>
    intro text draft rest scanned
    rw [valueWithin.eq_def] at scanned
    dsimp only at scanned
    split at scanned
    · obtain ⟨⟨items, _⟩, scannedItems, same⟩ := Option.map_eq_some_iff.mp scanned
      cases same
      exact .array (ih.arrayBody _ items _ scannedItems)
    · exact ih.tableBody _ draft rest scanned
    · exact scalars text draft rest scanned

/-- Whether the value that a statement gives is plain. -/
def Statement.Plain : Statement → Prop
  | .entry _ value => value.Plain
  | .header _ | .element _ => True

/-- A header gives no value. -/
theorem yields_headerLine : Yields headerLine Statement.Plain := by
  intro text statement rest scanned
  rw [headerLine.eq_def] at scanned
  dsimp only at scanned
  split at scanned
  · obtain ⟨_, -, same⟩ := Option.map_eq_some_iff.mp scanned
    cases same
    trivial
  · obtain ⟨_, -, same⟩ := Option.map_eq_some_iff.mp scanned
    cases same
    trivial

/-- An entry gives a plain value. -/
theorem yields_entryLine : Yields entryLine Statement.Plain := by
  intro text statement rest scanned
  rw [entryLine] at scanned
  split at scanned
  · obtain ⟨⟨value, _⟩, scannedValue, same⟩ := Option.map_eq_some_iff.mp scanned
    cases same
    exact yields_valueWithin maxDepth _ value _ scannedValue
  · cases scanned

/-- Every statement that is scanned is plain. -/
theorem yields_statementLine :
    Yields statementLine fun found => ∀ statement, found = some statement → statement.Plain := by
  intro text found rest scanned statement given
  subst given
  rw [statementLine] at scanned
  split at scanned
  · split at scanned <;> cases scanned
  · obtain ⟨_, -, same⟩ := Option.map_eq_some_iff.mp scanned
    cases same
  · cases scanned
  · obtain ⟨_, -, same⟩ := Option.map_eq_some_iff.mp scanned
    cases same
  · obtain ⟨⟨header, behind⟩, scannedHeader, ended⟩ := Option.bind_eq_some_iff.mp scanned
    obtain ⟨_, -, same⟩ := Option.bind_eq_some_iff.mp ended
    cases same
    exact yields_headerLine _ statement behind scannedHeader
  · obtain ⟨⟨entry, behind⟩, scannedEntry, ended⟩ := Option.bind_eq_some_iff.mp scanned
    obtain ⟨_, -, same⟩ := Option.bind_eq_some_iff.mp ended
    cases same
    exact yields_entryLine _ statement behind scannedEntry

/-- Every statement of a text is plain. -/
theorem plain_of_statements? {text : List Char} {found : List Statement}
    (read : statements? text = some found) : ∀ statement ∈ found, statement.Plain := by
  rw [statements?] at read
  split at read
  · next lines scanned =>
    cases read
    intro statement member
    obtain ⟨line, among, given⟩ := List.mem_filterMap.mp member
    exact yields_statementLine.many text line (scanned ▸ among) statement given
  · cases read

/-- Carrying out a plain statement keeps the document plain. -/
theorem Composition.plain_of_add {before after : Composition} {statement : Statement}
    (plain : statement.Plain) (added : before.add statement = some after)
    (beforePlain : before.root.Plain) : after.root.Plain := by
  cases statement with
  | entry path value =>
    obtain ⟨root, changed, rfl⟩ := Option.map_eq_some_iff.mp added
    exact TableDraft.KeepsPlain.within (TableDraft.keepsPlain_addPath plain) _ root changed
      beforePlain
  | header path =>
    obtain ⟨root, changed, rfl⟩ := Option.map_eq_some_iff.mp added
    exact TableDraft.KeepsPlain.atPath (fun _ => TableDraft.keepsPlain_beginTable) _ root changed
      beforePlain
  | element path =>
    obtain ⟨root, changed, rfl⟩ := Option.map_eq_some_iff.mp added
    exact TableDraft.KeepsPlain.atPath (fun _ => TableDraft.keepsPlain_beginElement) _ root changed
      beforePlain

/-- A text is read in three steps: its statements are scanned and carried out one after the
other, and the draft of the document is completed. -/
theorem read?_of_steps {text : String} {found : List Statement} {document : Composition}
    {values entries : Entries} (scanned : statements? (withoutMark text.toList) = some found)
    (carried : found.foldlM Composition.add .empty = some document)
    (complete : completeEntries? document.root.entries = some values)
    (sorted : Keyed.sort values = entries) : read? text = some entries := by
  rw [read?, scanned, Option.bind_eq_bind, Option.bind_some, carried, Option.bind_eq_bind,
    Option.bind_some, complete, ← sorted]
  rfl

/-- A document that was read is in order. -/
theorem ordered_of_read? {text : String} {entries : Entries} (read : read? text = some entries) :
    Ordered (.table entries) := by
  obtain ⟨found, scanned, readFound⟩ := Option.bind_eq_some_iff.mp read
  obtain ⟨document, carried, readDocument⟩ := Option.bind_eq_some_iff.mp readFound
  obtain ⟨values, complete, same⟩ := Option.bind_eq_some_iff.mp readDocument
  cases same
  have plain : document.root.Plain := foldlM_keeps
    (fun document : Composition => document.root.Plain)
    (fun statement member before after =>
      Composition.plain_of_add (plain_of_statements? scanned statement member))
    carried TableDraft.Plain.nil
  refine .sort fun entry member => ?_
  obtain ⟨draft, among, completeEntry⟩ := exists_of_completeEntries? complete entry member
  exact .of_complete? (plain draft among) completeEntry

end Toml

end FoldAtlas
