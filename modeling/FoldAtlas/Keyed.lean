/-!
# Keyed lists

Lists of keys with values, in which `List.lookup` finds a key from the front. They
stand for objects, tables, and every other small association of the library.
`Keyed.insert` keeps a list in increasing order of its keys without repeating
one; `Keyed.without`, `Keyed.append` and `Keyed.put` keep the order in which
keys came.
-/

namespace FoldAtlas

namespace Keyed

variable {κ α : Type} [DecidableEq κ]

/-- The entries with another key. -/
def without (key : κ) (entries : List (κ × α)) : List (κ × α) :=
  entries.filter fun entry => entry.1 != key

/-- Put an entry behind all others, in place of one with the same key. -/
def append (key : κ) (value : α) (entries : List (κ × α)) : List (κ × α) :=
  without key entries ++ [(key, value)]

/-- Put an entry in place of the one with the same key, or behind all others if
there is none. -/
def put (key : κ) (value : α) : List (κ × α) → List (κ × α)
  | [] => [(key, value)]
  | (other, old) :: rest =>
    if other = key then (key, value) :: rest else (other, old) :: put key value rest

/-- Put an entry into a list in increasing order of keys. An entry with the same
key is replaced. -/
def insert (key : String) (value : α) : List (String × α) → List (String × α)
  | [] => [(key, value)]
  | (other, old) :: rest =>
    if key < other then (key, value) :: (other, old) :: rest
    else if key = other then (key, value) :: rest
    else (other, old) :: insert key value rest

/-- The entries of a list put into order one after the other; of two with the
same key the later stays. -/
def sort (entries : List (String × α)) : List (String × α) :=
  entries.foldl (fun sorted entry => insert entry.1 entry.2 sorted) []

/-- What is found in a list by its first entry and the rest. -/
theorem lookup_cons (key other : κ) (value : α) (rest : List (κ × α)) :
    List.lookup key ((other, value) :: rest) =
      if other = key then some value else List.lookup key rest := by
  by_cases same : other = key
  · rw [if_pos same, same, List.lookup_cons_self]
  · rw [if_neg same, List.lookup_cons, beq_false_of_ne (Ne.symm same)]

/-- What is found is an entry. -/
theorem mem_of_lookup {key : κ} {value : α} {entries : List (κ × α)}
    (found : List.lookup key entries = some value) : (key, value) ∈ entries := by
  obtain ⟨front, back, rfl, _⟩ := List.lookup_eq_some_iff.mp found
  exact List.mem_append_right front List.mem_cons_self

/-- A key is not found exactly when it has no entry. -/
theorem lookup_eq_none_iff {key : κ} {entries : List (κ × α)} :
    List.lookup key entries = none ↔ key ∉ entries.map Prod.fst := by
  simp only [List.lookup_eq_none_iff, bne_iff_ne, List.mem_map, not_exists, not_and]
  exact ⟨fun apart entry member same => apart entry member same.symm,
    fun apart entry member same => apart entry member same.symm⟩

/-- A key has an entry just if it is found. -/
theorem mem_keys_iff {key : κ} {entries : List (κ × α)} :
    key ∈ entries.map Prod.fst ↔ List.lookup key entries ≠ none := by
  rw [ne_eq, lookup_eq_none_iff, Decidable.not_not]

/-- Where no key is repeated, every entry is found. -/
theorem lookup_eq_some_iff {key : κ} {value : α} {entries : List (κ × α)}
    (distinct : (entries.map Prod.fst).Nodup) :
    List.lookup key entries = some value ↔ (key, value) ∈ entries := by
  refine ⟨mem_of_lookup, fun member => ?_⟩
  obtain ⟨front, back, rfl⟩ := List.append_of_mem member
  have absent : List.lookup key front = none := by
    rw [lookup_eq_none_iff]
    rw [List.map_append, List.map_cons] at distinct
    exact fun again => (List.nodup_append.mp distinct).2.2 key again key List.mem_cons_self rfl
  rw [List.lookup_append, absent, Option.none_or, List.lookup_cons_self]

/-- The entries that are left when a key is taken out. -/
@[simp]
theorem mem_without {key : κ} {entry : κ × α} {entries : List (κ × α)} :
    entry ∈ without key entries ↔ entry ∈ entries ∧ entry.1 ≠ key := by
  simp [without]

/-- Taking out a key that has no entry changes nothing. -/
theorem without_eq_self {key : κ} {entries : List (κ × α)}
    (absent : List.lookup key entries = none) : without key entries = entries := by
  rw [lookup_eq_none_iff] at absent
  simp only [without, List.filter_eq_self, bne_iff_ne, ne_eq]
  rintro entry member rfl
  exact absent (List.mem_map_of_mem member)

/-- Where no key is repeated, taking out a key that is found takes out one entry. -/
theorem exists_split_of_lookup {key : κ} {value : α} {entries : List (κ × α)}
    (distinct : (entries.map Prod.fst).Nodup) (found : List.lookup key entries = some value) :
    ∃ front back, entries = front ++ (key, value) :: back ∧
      without key entries = front ++ back := by
  obtain ⟨front, back, rfl, _⟩ := List.lookup_eq_some_iff.mp found
  rw [List.map_append, List.map_cons, List.nodup_append, List.nodup_cons] at distinct
  obtain ⟨_, ⟨notBehind, _⟩, apart⟩ := distinct
  have notBefore : key ∉ front.map Prod.fst :=
    fun again => apart key again key List.mem_cons_self rfl
  refine ⟨front, back, rfl, ?_⟩
  have kept (others : List (κ × α)) (absent : key ∉ others.map Prod.fst) :
      others.filter (fun entry => entry.1 != key) = others :=
    without_eq_self (lookup_eq_none_iff.mpr absent)
  rw [without, List.filter_append, List.filter_cons_of_neg (by simp), kept _ notBefore,
    kept _ notBehind]

/-- Taking out a key repeats none. -/
theorem nodup_without {key : κ} {entries : List (κ × α)}
    (distinct : (entries.map Prod.fst).Nodup) :
    ((without key entries).map Prod.fst).Nodup :=
  distinct.sublist (List.filter_sublist.map Prod.fst)

/-- Appending a key repeats none. -/
theorem nodup_append {key : κ} {value : α} {entries : List (κ × α)}
    (distinct : (entries.map Prod.fst).Nodup) :
    ((append key value entries).map Prod.fst).Nodup := by
  simp only [append, List.map_append, List.map_cons, List.map_nil, List.nodup_append,
    nodup_without distinct, List.nodup_cons, List.not_mem_nil, not_false_eq_true,
    List.nodup_nil, and_self, true_and, List.mem_map, List.mem_singleton]
  rintro _ ⟨entry, member, rfl⟩ _ rfl
  exact (mem_without.mp member).2

/-- A key that was taken out is not found. -/
@[simp]
theorem lookup_without_self (key : κ) (entries : List (κ × α)) :
    List.lookup key (without key entries) = none := by
  rw [lookup_eq_none_iff]
  simp

/-- Taking out a key leaves what any other key finds. -/
theorem lookup_without_of_ne {key other : κ} (different : other ≠ key)
    (entries : List (κ × α)) :
    List.lookup other (without key entries) = List.lookup other entries := by
  induction entries with
  | nil => rfl
  | cons entry rest ih =>
    obtain ⟨present, value⟩ := entry
    simp only [without] at ih
    by_cases same : present = key
    · simp [without, lookup_cons, same, Ne.symm different, ih]
    · by_cases wanted : present = other
      · simp [without, wanted, different]
      · simp [without, lookup_cons, same, wanted, ih]

/-- An appended key is found. -/
@[simp]
theorem lookup_append_self (key : κ) (value : α) (entries : List (κ × α)) :
    List.lookup key (append key value entries) = some value := by
  rw [append, List.lookup_append, lookup_without_self, Option.none_or, List.lookup_cons_self]

/-- Appending a key leaves what any other key finds. -/
theorem lookup_append_of_ne {key other : κ} (different : other ≠ key) (value : α)
    (entries : List (κ × α)) :
    List.lookup other (append key value entries) = List.lookup other entries := by
  rw [append, List.lookup_append, lookup_without_of_ne different, lookup_cons,
    if_neg (Ne.symm different), List.lookup_nil, Option.or_none]

/-- The last put under a key is what the key finds. -/
@[simp]
theorem lookup_insert_self (key : String) (value : α) (entries : List (String × α)) :
    List.lookup key (insert key value entries) = some value := by
  induction entries with
  | nil => simp [insert]
  | cons entry rest ih =>
    obtain ⟨other, old⟩ := entry
    simp only [insert]
    split
    · simp
    · split
      · simp
      · next different => simp [lookup_cons, Ne.symm different, ih]

/-- Putting an entry leaves what any other key finds. -/
theorem lookup_insert_of_ne {key other : String} (different : other ≠ key) (value : α)
    (entries : List (String × α)) :
    List.lookup other (insert key value entries) = List.lookup other entries := by
  induction entries with
  | nil => simp [insert, lookup_cons, Ne.symm different]
  | cons entry rest ih =>
    obtain ⟨present, old⟩ := entry
    simp only [insert]
    split
    · simp [lookup_cons, Ne.symm different]
    · split
      · next same => subst same; simp [lookup_cons, Ne.symm different]
      · simp [lookup_cons, ih]

end Keyed

end FoldAtlas
