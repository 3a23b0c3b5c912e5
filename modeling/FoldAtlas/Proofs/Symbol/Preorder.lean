import FoldAtlas.Symbol.Outline
import Mathlib.Data.List.Forall2
import Mathlib.Data.List.Lex

/-!
# Symbols in the order of their index paths

A symbol of a forest is known by its index path: the index of a root, then the index of a
symbol directly inside it, and so on. The entries of a forest are those of its symbols, one
for each, in the lexicographic order of their index paths (`entries_follow_index_paths`).

The proof goes through a list in which every entry stands behind its index path
(`DocumentSymbol.listing`, `forestListing`). The list is made as the entries are, so its
second parts are the entries; its first parts increase, and it holds the entry of every
symbol and no other.
-/

namespace FoldAtlas

namespace DocumentSymbol

/-- What holds of every symbol if it holds of one as soon as it holds of the symbols
directly inside it. -/
theorem induct {motive : DocumentSymbol → Prop}
    (outward : ∀ symbol, (∀ child ∈ symbol.inner, motive child) → motive symbol) :
    ∀ symbol, motive symbol
  | .node name detail kind range selectionRange children =>
    outward _ fun child inside =>
      have smaller : sizeOf child <
          sizeOf (node name detail kind range selectionRange children) := by
        cases children with
        | none => cases inside
        | some children =>
          have within := List.sizeOf_lt_of_mem (show child ∈ children from inside)
          simp only [node.sizeOf_spec, Option.some.sizeOf_spec]
          omega
      induct outward child
termination_by symbol => sizeOf symbol
decreasing_by exact smaller

/-! ## Index paths -/

/-- The symbol that an index path leads to from a symbol. -/
def descend? (symbol : DocumentSymbol) : List Nat → Option DocumentSymbol
  | [] => some symbol
  | index :: path => symbol.inner[index]?.bind fun child => child.descend? path

/-- The symbol of a forest that an index path leads to. -/
def at? (forest : List DocumentSymbol) : List Nat → Option DocumentSymbol
  | [] => none
  | index :: path => forest[index]?.bind fun symbol => symbol.descend? path

/-- What an entry is to the index path of its symbol. -/
structure IsEntryAt (forest : List DocumentSymbol) (path : List Nat) (entry : OutlineEntry) :
    Prop where
  symbol : ∃ symbol, at? forest path = some symbol ∧ entry.name = symbol.name ∧
    entry.kind = .ofCode symbol.kind ∧ entry.range = symbol.range
  /-- A root is in no container. -/
  root : path.length = 1 → entry.container = none
  /-- Any other symbol is in the one that its index path leads to without its last index. -/
  inner : 1 < path.length →
    ∃ parent, at? forest path.dropLast = some parent ∧ entry.container = some parent.name

/-! ## Entries behind their index paths -/

mutual

/-- The entries of a symbol and of everything inside it, behind their index paths. -/
def listing (container : Option String) : DocumentSymbol → List (List Nat × OutlineEntry)
  | .node name detail kind range selectionRange children =>
    ([], entry container (.node name detail kind range selectionRange children)) ::
      (match children with
        | none => []
        | some children => forestListing (some name) 0 children)

/-- The entries of a forest whose roots are counted from an index, behind their index
paths. -/
def forestListing (container : Option String) (start : Nat) :
    List DocumentSymbol → List (List Nat × OutlineEntry)
  | [] => []
  | symbol :: rest =>
    (listing container symbol).map (fun (path, entry) => (start :: path, entry)) ++
      forestListing container (start + 1) rest

end

variable {symbol : DocumentSymbol} {forest : List DocumentSymbol} {container : Option String}
  {path : List Nat} {item : OutlineEntry}

theorem listing_eq (container : Option String) (symbol : DocumentSymbol) :
    symbol.listing container =
      ([], symbol.entry container) :: forestListing (some symbol.name) 0 symbol.inner := by
  obtain ⟨name, detail, kind, range, selectionRange, children⟩ := symbol
  cases children <;> rfl

theorem entries_eq (container : Option String) (symbol : DocumentSymbol) :
    symbol.entries container =
      symbol.entry container :: forestEntries (some symbol.name) symbol.inner := by
  obtain ⟨name, detail, kind, range, selectionRange, children⟩ := symbol
  cases children <;> rfl

/-- A forest is listed as its entries are made if its roots are. -/
theorem forestListing_entries_of (start : Nat)
    (inside : ∀ symbol ∈ forest, (symbol.listing container).map Prod.snd = symbol.entries container) :
    (forestListing container start forest).map Prod.snd = forestEntries container forest := by
  induction forest generalizing start with
  | nil => rfl
  | cons symbol rest ih =>
    have first := inside symbol List.mem_cons_self
    have others := ih (start + 1) fun symbol later => inside symbol (List.mem_cons_of_mem _ later)
    rw [forestListing, forestEntries, List.map_append, List.map_map, others, ← first]
    rfl

/-- What is listed are the entries. -/
theorem listing_entries (container : Option String) (symbol : DocumentSymbol) :
    (symbol.listing container).map Prod.snd = symbol.entries container := by
  induction symbol using induct generalizing container with
  | outward symbol ih =>
    have inside := forestListing_entries_of 0 fun child inside => ih child inside (some symbol.name)
    rw [listing_eq, entries_eq, List.map_cons, inside]

/-! ## The order of the index paths -/

/-- Listed items in the order of their index paths. -/
def InOrder (items : List (List Nat × OutlineEntry)) : Prop :=
  items.Pairwise fun earlier later => earlier.1 < later.1

/-- What is listed of a forest stands under one of its roots. -/
theorem exists_of_mem_forestListing {start : Nat}
    (listed : (path, item) ∈ forestListing container start forest) :
    ∃ index rest, path = (start + index) :: rest ∧
      ∃ symbol, forest[index]? = some symbol ∧ (rest, item) ∈ symbol.listing container := by
  induction forest generalizing start with
  | nil => cases listed
  | cons symbol others ih =>
    rcases List.mem_append.mp listed with first | later
    · obtain ⟨⟨rest, entry⟩, inside, same⟩ := List.mem_map.mp first
      cases same
      exact ⟨0, rest, rfl, symbol, rfl, inside⟩
    · obtain ⟨index, rest, rfl, below⟩ := ih later
      exact ⟨index + 1, rest, by rw [Nat.add_right_comm, Nat.add_assoc], below⟩

/-- What stands under a root is listed of its forest. -/
theorem mem_forestListing_of (start : Nat) {index : Nat} (found : forest[index]? = some symbol)
    (inside : (path, item) ∈ symbol.listing container) :
    ((start + index) :: path, item) ∈ forestListing container start forest := by
  induction forest generalizing start index with
  | nil => cases found
  | cons first others ih =>
    rw [forestListing, List.mem_append]
    cases index with
    | zero =>
      cases found
      exact .inl (List.mem_map.mpr ⟨_, inside, rfl⟩)
    | succ index =>
      have later := ih (start + 1) found
      rw [Nat.add_right_comm] at later
      exact .inr later

/-- A forest is listed in order if its roots are. -/
theorem forestListing_inOrder_of (start : Nat)
    (inside : ∀ symbol ∈ forest, InOrder (symbol.listing container)) :
    InOrder (forestListing container start forest) := by
  induction forest generalizing start with
  | nil => exact .nil
  | cons symbol others ih =>
    refine List.pairwise_append.mpr ⟨?_, ?_, ?_⟩
    · refine List.pairwise_map.mpr ((inside symbol List.mem_cons_self).imp fun before => ?_)
      exact List.cons_lt_cons_iff.mpr (.inr ⟨rfl, before⟩)
    · exact ih (start + 1) fun symbol later => inside symbol (List.mem_cons_of_mem _ later)
    · -- whatever stands under a later root has a greater first index
      rintro ⟨path, entry⟩ first ⟨other, entryToo⟩ later
      obtain ⟨⟨rest, _⟩, _, same⟩ := List.mem_map.mp first
      cases same
      obtain ⟨index, rest, rfl, _⟩ := exists_of_mem_forestListing later
      exact List.cons_lt_cons_iff.mpr (.inl (by omega))

/-- A symbol and everything inside it is listed in order. -/
theorem listing_inOrder (container : Option String) (symbol : DocumentSymbol) :
    InOrder (symbol.listing container) := by
  induction symbol using induct generalizing container with
  | outward symbol ih =>
    rw [listing_eq]
    refine .cons ?_ (forestListing_inOrder_of 0 fun child inside => ih child inside _)
    rintro ⟨path, entry⟩ below
    obtain ⟨index, rest, rfl, _⟩ := exists_of_mem_forestListing below
    exact List.nil_lt_cons _ _

/-! ## What is listed -/

/-- The name of what contains the symbol that an index path leads to from a symbol in some
container. -/
def holder? (container : Option String) (symbol : DocumentSymbol) : List Nat → Option String
  | [] => container
  | index :: path => symbol.inner[index]?.bind fun child => child.holder? (some symbol.name) path

/-- Listed are the symbols that index paths lead to, each with the name of what contains
it. -/
theorem mem_listing_iff :
    (path, item) ∈ symbol.listing container ↔
      ∃ found, symbol.descend? path = some found ∧
        item = found.entry (symbol.holder? container path) := by
  induction path generalizing symbol container item with
  | nil =>
    rw [listing_eq, List.mem_cons]
    constructor
    · rintro (same | below)
      · exact ⟨symbol, rfl, (Prod.mk.inj same).2⟩
      · obtain ⟨_, _, wrong, _⟩ := exists_of_mem_forestListing below
        cases wrong
    · rintro ⟨found, same, rfl⟩
      cases same
      exact .inl rfl
  | cons index path ih =>
    rw [listing_eq, List.mem_cons]
    constructor
    · rintro (wrong | below)
      · cases wrong
      · obtain ⟨place, rest, same, child, present, inside⟩ := exists_of_mem_forestListing below
        rw [Nat.zero_add] at same
        cases same
        obtain ⟨found, leads, rfl⟩ := ih.mp inside
        exact ⟨found, by simp [descend?, present, leads], by simp [holder?, present]⟩
    · rintro ⟨found, leads, rfl⟩
      obtain ⟨child, present, leads⟩ := Option.bind_eq_some_iff.mp leads
      have inside : (path, found.entry (child.holder? (some symbol.name) path)) ∈
          child.listing (some symbol.name) := ih.mpr ⟨found, leads, rfl⟩
      have below := mem_forestListing_of 0 present inside
      rw [Nat.zero_add] at below
      rw [holder?, present]
      exact .inr below

/-- What contains a symbol that is not the first is the symbol that the index path leads to
without its last index. -/
theorem holder?_of_descend? (container : Option String) {index : Nat} {found : DocumentSymbol}
    (leads : symbol.descend? (index :: path) = some found) :
    ∃ parent, symbol.descend? (index :: path).dropLast = some parent ∧
      symbol.holder? container (index :: path) = some parent.name := by
  induction path generalizing symbol container index with
  | nil =>
    obtain ⟨child, present, _⟩ := Option.bind_eq_some_iff.mp leads
    exact ⟨symbol, rfl, by simp [holder?, present]⟩
  | cons next path ih =>
    obtain ⟨child, present, leads⟩ := Option.bind_eq_some_iff.mp leads
    obtain ⟨parent, above, named⟩ := ih (some symbol.name) leads
    refine ⟨parent, ?_, by rw [holder?, present, Option.bind_some, named]⟩
    rw [List.dropLast_cons_cons, descend?, present, Option.bind_some, above]

/-- What is listed of a whole forest: the entry of every symbol behind its index path, and
nothing else. -/
theorem isEntryAt_of_mem (listed : (path, item) ∈ forestListing none 0 forest) :
    IsEntryAt forest path item := by
  obtain ⟨index, rest, rfl, symbol, present, inside⟩ := exists_of_mem_forestListing listed
  obtain ⟨found, leads, rfl⟩ := mem_listing_iff.mp inside
  rw [Nat.zero_add]
  refine ⟨⟨found, by rw [at?, present, Option.bind_some, leads], rfl, rfl, rfl⟩, ?_, ?_⟩
  · intro single
    obtain rfl : rest = [] := by simpa using single
    rfl
  · intro longer
    cases rest with
    | nil => simp at longer
    | cons next rest =>
      obtain ⟨parent, above, named⟩ := holder?_of_descend? none leads
      refine ⟨parent, ?_, named⟩
      rw [List.dropLast_cons_cons, at?, present, Option.bind_some, above]

/-- The index paths of a whole forest are those that lead to a symbol. -/
theorem mem_forestListing_iff :
    path ∈ (forestListing none 0 forest).map Prod.fst ↔ (at? forest path).isSome := by
  constructor
  · intro listed
    obtain ⟨⟨_, item⟩, member, rfl⟩ := List.mem_map.mp listed
    obtain ⟨symbol, leads, _⟩ := (isEntryAt_of_mem member).symbol
    exact Option.isSome_of_eq_some leads
  · intro leads
    obtain ⟨found, leads⟩ := Option.isSome_iff_exists.mp leads
    cases path with
    | nil => cases leads
    | cons index rest =>
      obtain ⟨symbol, present, leads⟩ := Option.bind_eq_some_iff.mp leads
      have inside : (rest, found.entry (symbol.holder? none rest)) ∈ symbol.listing none :=
        mem_listing_iff.mpr ⟨found, leads, rfl⟩
      have member := mem_forestListing_of 0 present inside
      rw [Nat.zero_add] at member
      exact List.mem_map.mpr ⟨_, member, rfl⟩

end DocumentSymbol

/-- The entries of a forest are those of its symbols, one for each, in the lexicographic
order of their index paths: some index paths that increase, among them that of every symbol
and no other, are side by side with the entries of their symbols. -/
theorem Outline.entries_follow_index_paths (forest : List DocumentSymbol) :
    ∃ paths : List (List Nat), paths.Pairwise (· < ·) ∧
      (∀ path, path ∈ paths ↔ (DocumentSymbol.at? forest path).isSome) ∧
      List.Forall₂ (DocumentSymbol.IsEntryAt forest) paths (Outline.nested forest).entries := by
  have inOrder : DocumentSymbol.InOrder (DocumentSymbol.forestListing none 0 forest) :=
    DocumentSymbol.forestListing_inOrder_of 0 fun symbol _ => symbol.listing_inOrder none
  have entries : (DocumentSymbol.forestListing none 0 forest).map Prod.snd =
      (Outline.nested forest).entries :=
    DocumentSymbol.forestListing_entries_of 0 fun symbol _ => symbol.listing_entries none
  refine ⟨(DocumentSymbol.forestListing none 0 forest).map Prod.fst, ?_, fun path => ?_, ?_⟩
  · exact List.pairwise_map.mpr inOrder
  · exact DocumentSymbol.mem_forestListing_iff
  · rw [← entries, List.forall₂_map_left_iff, List.forall₂_map_right_iff, List.forall₂_same]
    exact fun _ member => DocumentSymbol.isEntryAt_of_mem member

end FoldAtlas
