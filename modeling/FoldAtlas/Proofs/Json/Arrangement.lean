import FoldAtlas.Proofs.Json.Order

/-!
# Arrangements

The members of an object may stand in any order. A value is arranged when its members
are brought into some order at every depth and nothing else happens to it
(`Json.Arranges`). Two arrangements matter: a value as it is written, and one whose
members are in increasing order, as those of every value that was read
(`Json.arranges_sorted`).
-/

namespace FoldAtlas

namespace Keyed

variable {κ α : Type} [DecidableEq κ]

omit [DecidableEq κ] in
/-- Entries with distinct keys are distinct. -/
theorem nodup_of_keys {entries : List (κ × α)} (distinct : (entries.map Prod.fst).Nodup) :
    entries.Nodup :=
  List.Pairwise.of_map Prod.fst (fun _ _ different same => different (congrArg Prod.fst same))
    distinct

/-- The order of entries with distinct keys does not matter to what is found. -/
theorem lookup_perm {entries others : List (κ × α)} (same : entries.Perm others)
    (distinct : (others.map Prod.fst).Nodup) (key : κ) :
    List.lookup key entries = List.lookup key others := by
  have distinctToo : (entries.map Prod.fst).Nodup := (same.map Prod.fst).nodup_iff.mpr distinct
  refine Option.ext fun value => ?_
  rw [lookup_eq_some_iff distinctToo, lookup_eq_some_iff distinct, same.mem_iff]

variable {entries others : List (String × α)}

/-- Lists with increasing keys under which the same is found are the same. -/
theorem Increasing.ext (first : Increasing entries) (second : Increasing others)
    (same : ∀ key, List.lookup key entries = List.lookup key others) : entries = others := by
  have members : entries.Perm others := by
    refine (List.perm_ext_iff_of_nodup (nodup_of_keys first.nodup)
      (nodup_of_keys second.nodup)).mpr fun entry => ?_
    rw [← lookup_eq_some_iff first.nodup, ← lookup_eq_some_iff second.nodup, same]
  refine members.eq_of_pairwise (fun left right _ _ before behind => ?_) first second
  exact absurd (String.lt_trans before behind) (String.lt_irrefl _)

/-- Entries with increasing keys are in order already. -/
theorem sort_of_increasing (increasing : Increasing entries) : sort entries = entries :=
  (increasing_sort entries).ext increasing (lookup_sort increasing.nodup)

/-- Putting entries with distinct keys into order only moves them. -/
theorem sort_perm (distinct : (entries.map Prod.fst).Nodup) : (sort entries).Perm entries := by
  have ordered := (increasing_sort entries).nodup
  refine (List.perm_ext_iff_of_nodup (nodup_of_keys ordered) (nodup_of_keys distinct)).mpr
    fun entry => ?_
  rw [← lookup_eq_some_iff ordered, ← lookup_eq_some_iff distinct, lookup_sort distinct]

/-- An entry that is put into order was there before. -/
theorem mem_of_mem_sort {entry : String × α} (member : entry ∈ sort entries) :
    entry ∈ entries := by
  have kept (entries done : List (String × α))
      (member : entry ∈ entries.foldl (fun sorted entry => insert entry.1 entry.2 sorted) done) :
      entry ∈ entries ∨ entry ∈ done := by
    induction entries generalizing done with
    | nil => exact .inr member
    | cons first entries ih =>
      rcases ih _ member with later | inserted
      · exact .inl (List.mem_cons_of_mem _ later)
      · rcases mem_of_mem_insert inserted with rfl | earlier
        · exact .inl List.mem_cons_self
        · exact .inr earlier
  exact (kept entries [] member).resolve_right List.not_mem_nil

end Keyed

namespace Json

/-! ## Values in order -/

/-- Members whose values are in order stay the same when these are put into order. -/
theorem sortedMembers_eq_self {members : List (String × Json)}
    (ordered : ∀ member ∈ members, member.2.sorted = member.2) : sortedMembers members = members := by
  rw [sortedMembers_eq_map]
  refine (List.map_congr_left fun member among => ?_).trans (List.map_id members)
  rw [ordered member among]
  rfl

/-- A member that was put into order has its value from one that was there before. -/
theorem exists_of_mem_sort {members : List (String × Json)} {member : String × Json}
    (among : member ∈ Keyed.sort (sortedMembers members)) :
    ∃ before ∈ members, member.2 = before.2.sorted := by
  have there := Keyed.mem_of_mem_sort among
  rw [sortedMembers_eq_map] at there
  obtain ⟨before, present, rfl⟩ := List.mem_map.mp there
  exact ⟨before, present, rfl⟩

mutual

/-- A value that was put into order is in order. -/
theorem sorted_sorted : ∀ value : Json, value.sorted.sorted = value.sorted
  | .null | .bool _ | .number _ | .string _ => rfl
  | .array items => by rw [sorted, sorted, sortedItems_sorted items]
  | .object members => by
    have ordered : ∀ member ∈ Keyed.sort (sortedMembers members), member.2.sorted = member.2 := by
      intro member among
      obtain ⟨before, present, same⟩ := exists_of_mem_sort among
      rw [same, sorted_of_member members before present]
    rw [sorted, sorted, sortedMembers_eq_self ordered,
      Keyed.sort_of_increasing (Keyed.increasing_sort _)]

/-- Items that were put into order are in order. -/
theorem sortedItems_sorted : ∀ items : List Json,
    sortedItems (sortedItems items) = sortedItems items
  | [] => rfl
  | item :: items => by
    rw [sortedItems, sortedItems, sorted_sorted item, sortedItems_sorted items]

/-- The values of members that were put into order are in order. -/
theorem sorted_of_member : ∀ members : List (String × Json), ∀ member ∈ members,
    member.2.sorted.sorted = member.2.sorted
  | [], _, among => absurd among List.not_mem_nil
  | (name, value) :: members, member, among => by
    rcases List.mem_cons.mp among with rfl | later
    · exact sorted_sorted value
    · exact sorted_of_member members member later

end

/-- Items are put into order one by one. -/
theorem sortedItems_eq_map (items : List Json) : sortedItems items = items.map sorted := by
  induction items with
  | nil => rfl
  | cons item items ih => rw [sortedItems, ih, List.map_cons]

/-! ## Arrangements -/

/-- Whether a change does nothing to a value but to move the members of its objects, and
leaves alone what stands in a value that it leaves alone. -/
structure Arranges (change : Json → Json) : Prop where
  null : change .null = .null
  bool : ∀ value, change (.bool value) = .bool value
  number : ∀ value, change (.number value) = .number value
  string : ∀ value, change (.string value) = .string value
  array : ∀ items, change (.array items) = .array (items.map change)
  object : ∀ members : List (String × Json), (members.map Prod.fst).Nodup →
    ∃ arranged : List (String × Json), change (.object members) = .object arranged ∧
      arranged.Perm (members.map fun member => (member.1, change member.2))
  inner : ∀ members, change (.object members) = .object members →
    ∀ member ∈ members, change member.2 = member.2

/-- A value may stand as it is. -/
theorem arranges_id : Arranges id where
  null := rfl
  bool _ := rfl
  number _ := rfl
  string _ := rfl
  array items := by rw [List.map_id, id]
  object members _ := ⟨members, rfl, by simp⟩
  inner _ _ _ _ := rfl

/-- A value may stand with its members in increasing order. -/
theorem arranges_sorted : Arranges sorted where
  null := rfl
  bool _ := rfl
  number _ := rfl
  string _ := rfl
  array items := by rw [sorted, sortedItems_eq_map]
  object members distinct := by
    refine ⟨Keyed.sort (sortedMembers members), rfl, ?_⟩
    rw [← sortedMembers_eq_map]
    exact Keyed.sort_perm (by rwa [names_sortedMembers])
  inner members fixed member among := by
    rw [sorted, Json.object.injEq] at fixed
    rw [← fixed] at among
    obtain ⟨before, present, same⟩ := exists_of_mem_sort among
    rw [same, sorted_sorted]

namespace Arranges

variable {change : Json → Json}

/-- The only member of an object stays where it is. -/
theorem single (arranges : Arranges change) (name : String) (value : Json) :
    change (.object [(name, value)]) = .object [(name, change value)] := by
  obtain ⟨arranged, changed, same⟩ := arranges.object [(name, value)] (by simp)
  rw [changed, List.perm_singleton.mp same]

/-- What stands under a name in an object that is arranged. -/
theorem lookup {members arranged : List (String × Json)}
    (same : arranged.Perm (members.map fun member => (member.1, change member.2)))
    (distinct : (members.map Prod.fst).Nodup) (name : String) :
    List.lookup name arranged = (List.lookup name members).map change := by
  have names : ((members.map fun member => (member.1, change member.2)).map Prod.fst).Nodup := by
    rwa [List.map_map]
  rw [Keyed.lookup_perm same names, Keyed.lookup_mapValues]

/-- An object that is arranged repeats no name. -/
theorem nodup {members arranged : List (String × Json)}
    (same : arranged.Perm (members.map fun member => (member.1, change member.2)))
    (distinct : (members.map Prod.fst).Nodup) : (arranged.map Prod.fst).Nodup := by
  refine (same.map Prod.fst).nodup_iff.mpr ?_
  rwa [List.map_map]

end Arranges

end Json

end FoldAtlas
