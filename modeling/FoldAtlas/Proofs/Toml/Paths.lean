import FoldAtlas.Proofs.Toml.Overlay

/-!
# Paths through documents over documents

Where a path of keys leads in a document that is laid over another one, told from where it leads
in the two (`mergesAt_overlayEntries`). What the upper document has there wins, and only a table
over a table takes in the keys of the lower one. Where the upper document has nothing, the lower
one is seen through, unless the path runs into a value of the upper one that is no table: such a
value hides everything below it.

A path is followed key by key, and `resolve?_overlayValue_cons` tells what the first key does:
behind it the value of the upper document is again laid over what the lower one has there. So
each of the three ways that a path can go is an induction on its keys.
-/

namespace FoldAtlas

namespace Toml

variable {base overlay entries : Entries} {key : String} {path : List String}
  {value upper : Toml} {below : Option Toml}

/-- Whether a value is a table. -/
def IsTable (value : Toml) : Prop := ∃ entries, value = .table entries

/-- Whether a path runs into a value that is no table before it ends. -/
def IsBarred (path : List String) (document : Toml) : Prop :=
  ∃ front back barrier, path = front ++ back ∧ back ≠ [] ∧
    resolve? front document = some barrier ∧ ¬ barrier.IsTable

/-! ## One key -/

/-- A table is a table. -/
theorem isTable_table : (Toml.table entries).IsTable := ⟨entries, rfl⟩

/-- Through a table a path goes on from what its first key finds. -/
theorem resolve?_cons_table :
    resolve? (key :: path) (.table entries) = (List.lookup key entries).bind (resolve? path) := by
  rw [resolve?]
  cases List.lookup key entries <;> rfl

/-- Through any other value no path goes on. -/
theorem resolve?_cons_of_not_isTable (other : ¬ value.IsTable) :
    resolve? (key :: path) value = none := by
  cases value with
  | table entries => exact absurd isTable_table other
  | string | integer | real | boolean | dateTime | array => rfl

/-- A path goes on from what its first key leads to. -/
theorem resolve?_cons (key : String) (path : List String) (value : Toml) :
    resolve? (key :: path) value = (resolve? [key] value).bind (resolve? path) := by
  by_cases isTable : value.IsTable
  · obtain ⟨entries, rfl⟩ := isTable
    rw [resolve?_cons_table, resolve?_cons_table]
    cases List.lookup key entries <;> rfl
  · rw [resolve?_cons_of_not_isTable isTable, resolve?_cons_of_not_isTable isTable,
      Option.bind_none]

/-- The same from what may be there at all. -/
theorem bind_resolve?_cons (key : String) (path : List String) (below : Option Toml) :
    (below.bind (resolve? [key])).bind (resolve? path) = below.bind (resolve? (key :: path)) := by
  cases below with
  | none => rfl
  | some lower => exact (resolve?_cons key path lower).symm

/-- A path that leads somewhere begins at a table or ends at once. -/
theorem exists_of_resolve?_cons (found : resolve? (key :: path) value = some upper) :
    ∃ entries next, value = .table entries ∧ List.lookup key entries = some next ∧
      resolve? path next = some upper := by
  by_cases isTable : value.IsTable
  · obtain ⟨entries, rfl⟩ := isTable
    rw [resolve?_cons_table] at found
    obtain ⟨next, first, rest⟩ := Option.bind_eq_some_iff.mp found
    exact ⟨entries, next, rfl, first, rest⟩
  · rw [resolve?_cons_of_not_isTable isTable] at found
    cases found

/-- What a path leads to in a document in order is in order. -/
theorem Ordered.of_resolve? (ordered : value.Ordered) (found : resolve? path value = some upper) :
    upper.Ordered := by
  induction path generalizing value with
  | nil =>
    obtain rfl := Option.some.inj found
    exact ordered
  | cons key path ih =>
    obtain ⟨entries, next, rfl, present, further⟩ := exists_of_resolve?_cons found
    exact ih (ordered.of_lookup present) further

/-- The empty path runs into nothing. -/
theorem not_isBarred_nil : ¬ IsBarred [] value := by
  rintro ⟨front, back, barrier, split, something, -, -⟩
  exact something (List.append_eq_nil_iff.mp split.symm).2

/-- A value that is no table bars every path that is to go on. -/
theorem isBarred_of_not_isTable (other : ¬ value.IsTable) : IsBarred (key :: path) value :=
  ⟨[], key :: path, value, rfl, List.cons_ne_nil key path, rfl, other⟩

/-- Through a table a path runs into what it runs into behind its first key. -/
theorem isBarred_cons_table :
    IsBarred (key :: path) (.table entries) ↔
      ∃ next, List.lookup key entries = some next ∧ IsBarred path next := by
  constructor
  · rintro ⟨front, back, barrier, split, something, found, other⟩
    cases front with
    | nil =>
      obtain rfl := Option.some.inj found
      exact absurd isTable_table other
    | cons first front =>
      obtain ⟨rfl, rest⟩ := List.cons.inj split
      rw [resolve?_cons_table] at found
      obtain ⟨next, present, further⟩ := Option.bind_eq_some_iff.mp found
      exact ⟨next, present, front, back, barrier, rest, something, further, other⟩
  · rintro ⟨next, present, front, back, barrier, rfl, something, found, other⟩
    refine ⟨key :: front, back, barrier, rfl, something, ?_, other⟩
    rw [resolve?_cons_table, present, Option.bind_some, found]

/-! ## One key through a document over another -/

/-- A value over nothing is itself. -/
theorem overlayValue_none (value : Toml) : overlayValue none value = value := by
  rcases overlayValue_cases none value with same | ⟨_, _, absent, -⟩
  · exact same
  · cases absent

/-- A value that is no table is itself, whatever it is laid over. -/
theorem overlayValue_of_not_isTable (other : ¬ value.IsTable) :
    overlayValue below value = value := by
  rcases overlayValue_cases below value with same | ⟨_, entries, -, rfl⟩
  · exact same
  · exact absurd isTable_table other

/-- What a path leads to in a table over something: behind the first key, what the table has
there over what is below there, and what is below where the table has nothing. -/
theorem resolve?_overlayValue_cons (ordered : Ordered (.table overlay)) (below : Option Toml)
    (key : String) (path : List String) :
    resolve? (key :: path) (overlayValue below (.table overlay)) =
      match List.lookup key overlay with
      | some value => resolve? path (overlayValue (below.bind (resolve? [key])) value)
      | none => below.bind (resolve? (key :: path)) := by
  by_cases mixed : ∃ base, below = some (.table base)
  · obtain ⟨base, rfl⟩ := mixed
    rw [overlayValue_tables, resolve?_cons_table, Option.bind_some, Option.bind_some,
      lookup_overlayEntries base ordered.increasing.nodup, resolve?_cons_table,
      resolve?_cons_table]
    cases List.lookup key overlay with
    | none => rfl
    | some value => cases List.lookup key base <;> rfl
  · have nothing (path : List String) : below.bind (resolve? (key :: path)) = none := by
      cases below with
      | none => rfl
      | some lower =>
        exact resolve?_cons_of_not_isTable fun ⟨base, same⟩ => mixed ⟨base, congrArg some same⟩
    have kept : overlayValue below (.table overlay) = .table overlay := by
      rcases overlayValue_cases below (.table overlay) with same | ⟨base, _, same, -⟩
      · exact same
      · exact absurd ⟨base, same⟩ mixed
    rw [kept, resolve?_cons_table, nothing, nothing]
    cases List.lookup key overlay with
    | none => rfl
    | some value =>
      simp only [overlayValue_none]
      rfl

/-! ## The three ways of a path -/

/-- Where the upper document has a value, that value is laid over what is below. -/
theorem resolve?_overlayValue_of_some (ordered : value.Ordered)
    (found : resolve? path value = some upper) :
    resolve? path (overlayValue below value) =
      some (overlayValue (below.bind (resolve? path)) upper) := by
  induction path generalizing value below with
  | nil =>
    obtain rfl := Option.some.inj found
    cases below <;> rfl
  | cons key path ih =>
    obtain ⟨overlay, next, rfl, present, further⟩ := exists_of_resolve?_cons found
    rw [resolve?_overlayValue_cons ordered, present, ← bind_resolve?_cons key path below]
    exact ih (ordered.of_lookup present) further

/-- Where the upper document has nothing and nothing bars the path in it, what is below is
seen. -/
theorem resolve?_overlayValue_of_none (ordered : value.Ordered)
    (missing : resolve? path value = none) (clear : ¬ IsBarred path value) :
    resolve? path (overlayValue below value) = below.bind (resolve? path) := by
  induction path generalizing value below with
  | nil => cases missing
  | cons key path ih =>
    by_cases isTable : value.IsTable
    · obtain ⟨overlay, rfl⟩ := isTable
      rw [resolve?_overlayValue_cons ordered]
      cases present : List.lookup key overlay with
      | none => rfl
      | some next =>
        rw [resolve?_cons_table, present, Option.bind_some] at missing
        have clearToo : ¬ IsBarred path next := by
          intro barred
          exact clear (isBarred_cons_table.mpr ⟨next, present, barred⟩)
        rw [← bind_resolve?_cons key path below]
        exact ih (ordered.of_lookup present) missing clearToo
    · exact absurd (isBarred_of_not_isTable isTable) clear

/-- Where a value of the upper document bars the path, it leads nowhere. -/
theorem resolve?_overlayValue_of_isBarred (ordered : value.Ordered)
    (barred : IsBarred path value) : resolve? path (overlayValue below value) = none := by
  induction path generalizing value below with
  | nil => exact absurd barred not_isBarred_nil
  | cons key path ih =>
    by_cases isTable : value.IsTable
    · obtain ⟨overlay, rfl⟩ := isTable
      obtain ⟨next, present, further⟩ := isBarred_cons_table.mp barred
      rw [resolve?_overlayValue_cons ordered, present]
      exact ih (ordered.of_lookup present) further
    · rw [overlayValue_of_not_isTable isTable, resolve?_cons_of_not_isTable isTable]

/-! ## Whole documents -/

/-- The keys of a table over another are those of both. -/
theorem mem_keys_overlayEntries (distinct : (overlay.map Prod.fst).Nodup) :
    key ∈ (overlayEntries base overlay).map Prod.fst ↔
      key ∈ base.map Prod.fst ∨ key ∈ overlay.map Prod.fst := by
  rw [Keyed.mem_keys_iff, Keyed.mem_keys_iff, Keyed.mem_keys_iff,
    lookup_overlayEntries base distinct]
  cases List.lookup key overlay <;> simp

/-- Whether a path leads in a merged document where it has to, given where it leads in the two
that were merged. -/
structure MergesAt (path : List String) (base overlay merged : Toml) : Prop where
  /-- A value of the upper document that is no table stands as it is. -/
  value : ∀ value, resolve? path overlay = some value → ¬ value.IsTable →
    resolve? path merged = some value
  /-- A table over a table has the keys of both. -/
  tables : ∀ upper lower, resolve? path overlay = some (.table upper) →
    resolve? path base = some (.table lower) →
      ∃ mixed, resolve? path merged = some (.table mixed) ∧
        ∀ key, key ∈ mixed.map Prod.fst ↔ key ∈ lower.map Prod.fst ∨ key ∈ upper.map Prod.fst
  /-- A table over anything else, or over nothing, stands as it is. -/
  table : ∀ upper, resolve? path overlay = some (.table upper) →
    (∀ lower, resolve? path base ≠ some (.table lower)) →
      resolve? path merged = some (.table upper)
  /-- What the upper document does not reach is that of the lower one. -/
  below : resolve? path overlay = none → ¬ IsBarred path overlay →
    resolve? path merged = resolve? path base
  /-- What lies behind a value of the upper document that is no table is gone. -/
  hidden : resolve? path overlay = none → IsBarred path overlay → resolve? path merged = none

/-- A document that is laid over another one gives the merged document at every path. -/
theorem mergesAt_overlayEntries (base : Entries) (ordered : Ordered (.table overlay))
    (path : List String) :
    MergesAt path (.table base) (.table overlay) (.table (overlayEntries base overlay)) := by
  rw [← overlayValue_tables]
  constructor
  case value =>
    intro value found other
    rw [resolve?_overlayValue_of_some ordered found, overlayValue_of_not_isTable other]
  case tables =>
    intro upper lower found foundBelow
    refine ⟨overlayEntries lower upper, ?_, fun key => mem_keys_overlayEntries ?_⟩
    · rw [resolve?_overlayValue_of_some ordered found, Option.bind_some, foundBelow,
        overlayValue_tables]
    · exact (ordered.of_resolve? found).increasing.nodup
  case table =>
    intro upper found noTable
    rw [resolve?_overlayValue_of_some ordered found, Option.bind_some]
    rcases overlayValue_cases (resolve? path (.table base)) (.table upper) with
      same | ⟨lower, _, foundBelow, -⟩
    · rw [same]
    · exact absurd foundBelow (noTable lower)
  case below =>
    intro missing clear
    exact resolve?_overlayValue_of_none ordered missing clear
  case hidden =>
    intro _ barred
    exact resolve?_overlayValue_of_isBarred ordered barred

/-- A document with two tables. -/
def lowerDocument : Entries :=
  [("limits", .table [("call", .integer 10), ("end", .integer 9)]),
    ("server", .table [("args", .array [.string "-v"])])]

/-- A document with one of these tables, and a value in the place of the other. -/
def upperDocument : Entries :=
  [("limits", .table [("call", .integer 20), ("start", .integer 1)]), ("server", .string "off")]

/-- Of one table the documents share the keys, and the other is hidden. -/
theorem mergesAt_of_upperDocument :
    Ordered (.table upperDocument) ∧
      MergesAt ["limits"] (.table lowerDocument) (.table upperDocument)
        (.table (overlayEntries lowerDocument upperDocument)) ∧
      resolve? ["server", "args"] (.table lowerDocument) = some (.array [.string "-v"]) ∧
      MergesAt ["server", "args"] (.table lowerDocument) (.table upperDocument)
        (.table (overlayEntries lowerDocument upperDocument)) := by
  have limits : Ordered (.table [("call", .integer 20), ("start", .integer 1)]) := by
    refine .table (List.pairwise_pair.mpr (by decide)) fun entry member => ?_
    simp only [List.mem_cons, List.not_mem_nil, or_false] at member
    rcases member with rfl | rfl <;> exact .atom rfl
  have ordered : Ordered (.table upperDocument) := by
    refine .table (List.pairwise_pair.mpr (by decide)) fun entry member => ?_
    simp only [upperDocument, List.mem_cons, List.not_mem_nil, or_false] at member
    rcases member with rfl | rfl
    · exact limits
    · exact .atom rfl
  exact ⟨ordered, mergesAt_overlayEntries lowerDocument ordered ["limits"], rfl,
    mergesAt_overlayEntries lowerDocument ordered ["server", "args"]⟩

end Toml

end FoldAtlas
