import FoldAtlas.Json.Basic

/-!
# Members in order

What it means for entries to be put into order: keys increase (`Keyed.increasing_sort`),
and nothing else is found under any of them (`Keyed.lookup_sort`). So an object that is put
into order has the same members (`Json.member?_sorted`).
-/

namespace FoldAtlas

namespace Keyed

variable {α : Type} {entries : List (String × α)} {key : String} {value : α}

/-- Whether the keys of a list increase. -/
def Increasing (entries : List (String × α)) : Prop :=
  entries.Pairwise fun earlier later => earlier.1 < later.1

/-- Keys that increase are distinct. -/
theorem Increasing.nodup (increasing : Increasing entries) : (entries.map Prod.fst).Nodup := by
  refine List.pairwise_map.mpr (increasing.imp ?_)
  intro earlier later before same
  exact String.lt_irrefl _ (same ▸ before)

/-- Of two keys neither of which is before the other, both are the same. -/
theorem lt_of_ne {first second : String} (different : first ≠ second)
    (behind : ¬ first < second) : second < first := by
  refine Decidable.byContradiction fun notBefore => ?_
  exact different (String.le_antisymm (String.not_lt.mp notBefore) (String.not_lt.mp behind))

/-- An entry put into order is the new one or an old one. -/
theorem mem_of_mem_insert {entry : String × α} (member : entry ∈ insert key value entries) :
    entry = (key, value) ∨ entry ∈ entries := by
  induction entries with
  | nil => exact .inl (List.mem_singleton.mp member)
  | cons first entries ih =>
    obtain ⟨other, old⟩ := first
    simp only [insert] at member
    split at member
    · exact (List.mem_cons.mp member).imp_right id
    · split at member
      · exact (List.mem_cons.mp member).imp_right (List.mem_cons_of_mem _)
      · rcases List.mem_cons.mp member with rfl | later
        · exact .inr List.mem_cons_self
        · exact (ih later).imp_right (List.mem_cons_of_mem _)

/-- Keys still increase when an entry is put into order. -/
theorem Increasing.insert (increasing : Increasing entries) (key : String) (value : α) :
    Increasing (Keyed.insert key value entries) := by
  induction entries with
  | nil => exact List.pairwise_singleton _ _
  | cons first entries ih =>
    obtain ⟨other, old⟩ := first
    obtain ⟨least, later⟩ := List.pairwise_cons.mp increasing
    simp only [Keyed.insert]
    split
    · next before =>
      refine List.pairwise_cons.mpr ⟨?_, increasing⟩
      intro entry member
      rcases List.mem_cons.mp member with rfl | behind
      · exact before
      · exact String.lt_trans before (least entry behind)
    · next notBefore =>
      split
      · next same =>
        subst same
        exact List.pairwise_cons.mpr ⟨least, later⟩
      · next different =>
        refine List.pairwise_cons.mpr ⟨?_, ih later⟩
        intro entry member
        rcases mem_of_mem_insert member with rfl | behind
        · exact lt_of_ne different notBefore
        · exact least entry behind

/-- The keys of entries put into order increase. -/
theorem increasing_sort (entries : List (String × α)) : Increasing (sort entries) := by
  have kept (entries done : List (String × α)) (increasing : Increasing done) :
      Increasing (entries.foldl (fun sorted entry => insert entry.1 entry.2 sorted) done) := by
    induction entries generalizing done with
    | nil => exact increasing
    | cons entry entries ih => exact ih _ (increasing.insert entry.1 entry.2)
  exact kept entries [] .nil

/-- What entries put into order hold under a key is what the last of them does. -/
theorem lookup_foldl_insert (entries done : List (String × α)) (key : String) :
    List.lookup key (entries.foldl (fun sorted entry => insert entry.1 entry.2 sorted) done) =
      (List.lookup key entries.reverse).or (List.lookup key done) := by
  induction entries generalizing done with
  | nil => rfl
  | cons entry entries ih =>
    obtain ⟨other, value⟩ := entry
    rw [List.foldl_cons, ih, List.reverse_cons, List.lookup_append, Option.or_assoc]
    congr 1
    by_cases same : other = key
    · subst same
      rw [lookup_insert_self]
      simp
    · rw [lookup_insert_of_ne (Ne.symm same)]
      simp [lookup_cons, same]

/-- Entries put into order hold the same under every key. -/
theorem lookup_sort (distinct : (entries.map Prod.fst).Nodup) (key : String) :
    List.lookup key (sort entries) = List.lookup key entries := by
  have distinctToo : (entries.reverse.map Prod.fst).Nodup := by
    rw [List.map_reverse, List.Nodup, List.pairwise_reverse]
    exact distinct.imp Ne.symm
  have turned : List.lookup key entries.reverse = List.lookup key entries := by
    refine Option.ext fun value => ?_
    rw [lookup_eq_some_iff distinctToo, lookup_eq_some_iff distinct, List.mem_reverse]
  rw [sort, lookup_foldl_insert, turned]
  exact Option.or_none

/-- Taking out a key leaves lists alike in which the same is found under every key. -/
theorem lookup_without_congr {entries others : List (String × α)} (key : String)
    (same : ∀ other, List.lookup other entries = List.lookup other others) (other : String) :
    List.lookup other (without key entries) = List.lookup other (without key others) := by
  by_cases taken : other = key
  · rw [taken, lookup_without_self, lookup_without_self]
  · rw [lookup_without_of_ne taken, lookup_without_of_ne taken, same]

/-- What is found among entries whose values were all changed. -/
theorem lookup_mapValues {β : Type} (change : α → β) (key : String)
    (entries : List (String × α)) :
    List.lookup key (entries.map fun entry => (entry.1, change entry.2)) =
      (List.lookup key entries).map change := by
  induction entries with
  | nil => rfl
  | cons entry entries ih =>
    rw [List.map_cons, lookup_cons, lookup_cons]
    split
    · rfl
    · exact ih

end Keyed

namespace Json

/-- The members of an object in order, one by one. -/
theorem sortedMembers_eq_map (members : List (String × Json)) :
    sortedMembers members = members.map fun member => (member.1, member.2.sorted) := by
  induction members with
  | nil => rfl
  | cons member members ih => rw [sortedMembers, ih, List.map_cons]

/-- What is found among the members of an object in order. -/
theorem lookup_sortedMembers (name : String) (members : List (String × Json)) :
    List.lookup name (sortedMembers members) = (List.lookup name members).map sorted := by
  rw [sortedMembers_eq_map, Keyed.lookup_mapValues]

/-- The names of the members of an object in order. -/
theorem names_sortedMembers (members : List (String × Json)) :
    (sortedMembers members).map Prod.fst = members.map Prod.fst := by
  rw [sortedMembers_eq_map, List.map_map]
  rfl

/-- The member of an object in order with a given name. -/
theorem member?_sorted {members : List (String × Json)}
    (distinct : (members.map Prod.fst).Nodup) (name : String) :
    (Json.object members).sorted.member? name = (List.lookup name members).map sorted := by
  rw [sorted, member?, Keyed.lookup_sort (by rwa [names_sortedMembers]), lookup_sortedMembers]

end Json

end FoldAtlas
