import FoldAtlas.Proofs.Toml.Order

/-!
# Documents over documents

What is found in a document that is laid over another one: under every key what the upper
document has there, laid over what the lower one has, and what the lower one has under a key
that the upper one lacks (`Toml.lookup_overlayEntries`). Only tables are mixed, every other
value stands as it is (`Toml.overlayValue_cases`).
-/

namespace FoldAtlas.Toml

variable {base overlay entries : Entries} {key : String} {value : Toml}

/-! ## Laying one over the other -/

/-- A value stands as it is, whatever it is laid over, unless both are tables. -/
theorem overlayValue_cases (existing : Option Toml) (value : Toml) :
    overlayValue existing value = value ∨
      ∃ base overlay, existing = some (.table base) ∧ value = .table overlay := by
  cases value with
  | table overlay =>
    by_cases below : ∃ base, existing = some (.table base)
    · obtain ⟨base, same⟩ := below
      exact .inr ⟨base, overlay, same, rfl⟩
    · refine .inl ?_
      rw [overlayValue]
      exact fun base same => below ⟨base, same⟩
  | string | integer | real | boolean | dateTime | array =>
    refine .inl ?_
    simp only [overlayValue]

/-- A table over a table is laid entry by entry. -/
theorem overlayValue_tables :
    overlayValue (some (.table base)) (.table overlay) = .table (overlayEntries base overlay) := by
  rw [overlayValue]

/-- Keys still increase when entries are laid over them. -/
theorem increasing_overlayEntries (increasing : Keyed.Increasing base) :
    Keyed.Increasing (overlayEntries base overlay) := by
  induction overlay generalizing base with
  | nil =>
    rw [overlayEntries]
    exact increasing
  | cons entry overlay ih =>
    obtain ⟨key, value⟩ := entry
    rw [overlayEntries]
    exact ih (increasing.insert key _)

/-- What is found in a table that is laid over another one: what the upper one has under
the key over what the lower one has, and what the lower one has where the upper one has
nothing. -/
theorem lookup_overlayEntries (base : Entries) (distinct : (overlay.map Prod.fst).Nodup)
    (key : String) :
    List.lookup key (overlayEntries base overlay) =
      ((List.lookup key overlay).map (overlayValue (List.lookup key base))).or
        (List.lookup key base) := by
  induction overlay generalizing base with
  | nil => rw [overlayEntries, List.lookup_nil, Option.map_none, Option.none_or]
  | cons entry overlay ih =>
    obtain ⟨first, value⟩ := entry
    obtain ⟨apart, distinctRest⟩ := List.nodup_cons.mp distinct
    rw [overlayEntries, ih _ distinctRest, Keyed.lookup_cons]
    by_cases same : first = key
    · subst same
      have absent : List.lookup first overlay = none := Keyed.lookup_eq_none_iff.mpr apart
      rw [if_pos rfl, absent, Keyed.lookup_insert_self]
      rfl
    · rw [if_neg same, Keyed.lookup_insert_of_ne (Ne.symm same)]

example : overlayEntries [("a", .table [("x", .integer 1)]), ("b", .integer 2)]
    [("a", .table [("y", .integer 3)]), ("b", .integer 4)] =
      [("a", .table [("x", .integer 1), ("y", .integer 3)]), ("b", .integer 4)] := by rfl

/-- Where no entry results, the upper table has none. -/
theorem eq_nil_of_overlayEntries_eq_nil (distinct : (overlay.map Prod.fst).Nodup)
    (result : overlayEntries base overlay = []) : overlay = [] := by
  cases overlay with
  | nil => rfl
  | cons entry overlay =>
    obtain ⟨key, value⟩ := entry
    have found := lookup_overlayEntries base distinct key
    rw [result, List.lookup_nil, List.lookup_cons_self] at found
    cases found

/-- Where one entry alone results, the upper table has one entry alone, under the same key. -/
theorem exists_of_overlayEntries_eq_singleton {single : String} {whole : Toml}
    (distinct : (overlay.map Prod.fst).Nodup) (something : overlay ≠ [])
    (result : overlayEntries base overlay = [(single, whole)]) :
    ∃ value, overlay = [(single, value)] ∧
      whole = overlayValue (List.lookup single base) value := by
  have each : ∀ entry ∈ overlay,
      entry.1 = single ∧ whole = overlayValue (List.lookup entry.1 base) entry.2 := by
    intro entry member
    have found := lookup_overlayEntries base distinct entry.1
    rw [(Keyed.lookup_eq_some_iff distinct).mpr member, result, Keyed.lookup_cons] at found
    split at found
    · next same => exact ⟨same.symm, Option.some.inj found⟩
    · cases found
  cases overlay with
  | nil => exact absurd rfl something
  | cons entry others =>
    obtain ⟨rfl, laid⟩ := each entry List.mem_cons_self
    cases others with
    | nil => exact ⟨entry.2, rfl, laid⟩
    | cons other _ =>
      obtain ⟨apart, -⟩ := List.nodup_cons.mp distinct
      have same := (each other (List.mem_cons_of_mem _ List.mem_cons_self)).1
      exact absurd (same ▸ List.mem_cons_self) apart

/-! ## Values as they are decoded -/

/-- The entries of a table are decoded one by one. -/
theorem entriesToJson_eq_map (entries : Entries) :
    entriesToJson entries = entries.map fun entry => (entry.1, entry.2.toJson) := by
  induction entries with
  | nil => rfl
  | cons entry entries ih =>
    obtain ⟨key, value⟩ := entry
    rw [entriesToJson, ih, List.map_cons]

/-- The items of an array are decoded one by one. -/
theorem itemsToJson_eq_map (items : List Toml) : itemsToJson items = items.map toJson := by
  induction items with
  | nil => rfl
  | cons item items ih => rw [itemsToJson, ih, List.map_cons]

/-- What is found among the entries of a table as they are decoded. -/
theorem lookup_entriesToJson (key : String) (entries : Entries) :
    List.lookup key (entriesToJson entries) = (List.lookup key entries).map toJson := by
  rw [entriesToJson_eq_map, Keyed.lookup_mapValues]

/-- The keys of a table as it is decoded are distinct when they increase. -/
theorem nodup_entriesToJson (increasing : Keyed.Increasing entries) :
    ((entriesToJson entries).map Prod.fst).Nodup := by
  rw [entriesToJson_eq_map, List.map_map]
  exact increasing.nodup

/-! ## Values in order -/

/-- The keys of a table in order increase. -/
theorem Ordered.increasing (ordered : Ordered (.table entries)) : Keyed.Increasing entries := by
  cases ordered with
  | atom atomic => cases atomic
  | table increasing _ => exact increasing

/-- What is found in a table in order is in order. -/
theorem Ordered.of_lookup (ordered : Ordered (.table entries))
    (found : List.lookup key entries = some value) : Ordered value := by
  cases ordered with
  | atom atomic => cases atomic
  | table _ values => exact values _ (Keyed.mem_of_lookup found)

/-- What stands in an array in order is in order. -/
theorem Ordered.of_mem {items : List Toml} (ordered : Ordered (.array items))
    (member : value ∈ items) : Ordered value := by
  cases ordered with
  | atom atomic => cases atomic
  | array items_ordered => exact items_ordered value member

/-- A value in order over one in order is in order. -/
theorem Ordered.overlayValue {existing : Option Toml} (ordered : value.Ordered)
    (below : ∀ lower ∈ existing, lower.Ordered) : (Toml.overlayValue existing value).Ordered := by
  induction ordered generalizing existing with
  | @atom value atomic =>
    rcases overlayValue_cases existing value with same | ⟨_, _, -, rfl⟩
    · exact same.symm ▸ .atom atomic
    · cases atomic
  | @array items items_ordered =>
    rcases overlayValue_cases existing (.array items) with same | ⟨_, _, -, same⟩
    · exact same.symm ▸ .array items_ordered
    · cases same
  | @table overlay increasing values ih =>
    rcases overlayValue_cases existing (.table overlay) with same | ⟨base, _, rfl, -⟩
    · exact same.symm ▸ .table increasing values
    · have lower := below _ rfl
      have together : Keyed.Increasing (Toml.overlayEntries base overlay) :=
        increasing_overlayEntries lower.increasing
      rw [overlayValue_tables]
      refine .table together fun entry member => ?_
      have found := (Keyed.lookup_eq_some_iff together.nodup).mpr member
      rw [lookup_overlayEntries base increasing.nodup] at found
      cases above : List.lookup entry.1 overlay with
      | none =>
        rw [above, Option.map_none, Option.none_or] at found
        exact lower.of_lookup found
      | some upper =>
        rw [above, Option.map_some, Option.some_or] at found
        rw [← Option.some.inj found]
        exact ih _ (Keyed.mem_of_lookup above) fun _ present => lower.of_lookup present

/-- A document in order over one in order is in order. -/
theorem Ordered.overlayEntries (baseOrdered : Ordered (.table base))
    (overlayOrdered : Ordered (.table overlay)) :
    Ordered (.table (Toml.overlayEntries base overlay)) := by
  rw [← overlayValue_tables]
  refine overlayOrdered.overlayValue fun lower present => ?_
  obtain rfl := Option.some.inj present
  exact baseOrdered

end FoldAtlas.Toml
