import FoldAtlas.Proofs.Json.Documents

/-!
# Documents that are too deep

A value that is nested too deeply is refused, wherever the depth is in it
(`AllNumbers.read_compact_of_deep`). What stands before the array or object that is too
deep is read, and that one cannot be opened.
-/

namespace FoldAtlas.Json

variable {value : Json} {around : List Enclosure} {rest : Bytes}

/-- Whether a value is refused where it is too deep. -/
def IsRefused (value : Json) : Prop :=
  ∀ (around : List Enclosure) (rest : Bytes), around.length ≤ maxNesting →
    maxNesting < around.length + value.nesting →
      readFrom ⟨.value, around⟩ (Bytes.ofText value.compact ++ rest) = .error .malformed

/-- A byte with which no text goes on. -/
theorem readFrom_refused {state : ReaderState} {byte : UInt8}
    (refuses : stepReader state byte = none) (rest : Bytes) : readFrom state (byte :: rest) = .error .malformed := by
  rw [readFrom, refuses]

/-- Items are refused if one of them is too deep. -/
theorem readFrom_items_of_deep (item : Json) (items done : List Json)
    (readBack : ∀ other ∈ item :: items, other.IsReadBack)
    (refused : ∀ other ∈ item :: items, other.IsRefused) (room : around.length < maxNesting)
    (deep : maxNesting < around.length + 1 + nestingOfItems (item :: items)) (rest : Bytes) :
    readFrom ⟨.value, .array done :: around⟩ (Bytes.ofText (compactItems (item :: items)) ++ rest) =
      .error .malformed := by
  have here := refused item List.mem_cons_self (.array done :: around)
  rw [List.length_cons] at here
  induction items generalizing item done with
  | nil =>
    simp only [nestingOfItems] at deep
    exact here rest room (by omega)
  | cons other items ih =>
    rw [ofText_compactItems, List.append_assoc, List.cons_append]
    by_cases deepHere : maxNesting < around.length + 1 + item.nesting
    · exact here _ room deepHere
    · have shallow : (Enclosure.array done :: around).length + item.nesting ≤ maxNesting :=
        Nat.le_of_not_lt deepHere
      have deepLater : maxNesting < around.length + 1 + nestingOfItems (other :: items) := by
        simp only [nestingOfItems] at deep ⊢
        omega
      have separated : stepReader (complete item.sorted (.array done :: around)) 0x2C =
          some ⟨.value, .array (item.sorted :: done) :: around⟩ := rfl
      have refusedLater := refused other (List.mem_cons_of_mem _ List.mem_cons_self)
      rw [readBack item List.mem_cons_self _ _ shallow (ends_cons (by simp) _),
        readFrom_cons separated]
      exact ih other (item.sorted :: done)
        (fun another member => readBack another (List.mem_cons_of_mem _ member))
        (fun another member => refused another (List.mem_cons_of_mem _ member)) deepLater
        (refusedLater (.array (item.sorted :: done) :: around))

/-- Members are refused if the value of one of them is too deep. -/
theorem readFrom_members_of_deep (member : String × Json) (members done : List (String × Json))
    (readBack : ∀ other ∈ member :: members, other.2.IsReadBack)
    (refused : ∀ other ∈ member :: members, other.2.IsRefused) (room : around.length < maxNesting)
    (deep : maxNesting < around.length + 1 + nestingOfMembers (member :: members))
    (rest : Bytes) :
    readFrom ⟨.nextName done, around⟩ (Bytes.ofText (compactMembers (member :: members)) ++ rest) =
      .error .malformed := by
  induction members generalizing member done with
  | nil =>
    obtain ⟨name, value⟩ := member
    simp only [nestingOfMembers, Nat.max_zero] at deep
    rw [compactMembers, Bytes.ofText_append, List.append_assoc, readFrom_named]
    have deepHere : maxNesting < (Enclosure.object done name :: around).length + value.nesting := by
      rw [List.length_cons]
      omega
    exact refused _ List.mem_cons_self _ rest room deepHere
  | cons other members ih =>
    obtain ⟨name, value⟩ := member
    rw [ofText_compactMembers, List.append_assoc, readFrom_named, List.append_assoc,
      List.cons_append]
    by_cases deepHere : maxNesting < (Enclosure.object done name :: around).length + value.nesting
    · exact refused _ List.mem_cons_self (.object done name :: around) _ room deepHere
    · have deepLater : maxNesting < around.length + 1 + nestingOfMembers (other :: members) := by
        simp only [nestingOfMembers, List.length_cons] at deep deepHere ⊢
        omega
      have separated : stepReader (complete value.sorted (.object done name :: around)) 0x2C =
          some ⟨.nextName (Keyed.insert name value.sorted done), around⟩ := rfl
      have here := readBack _ List.mem_cons_self (.object done name :: around)
      rw [here _ (Nat.le_of_not_lt deepHere) (ends_cons (by simp) _), readFrom_cons separated]
      exact ih other (Keyed.insert name value.sorted done)
        (fun another member => readBack another (List.mem_cons_of_mem _ member))
        (fun another member => refused another (List.mem_cons_of_mem _ member)) deepLater

/-- An array is refused where it is too deep, if its items are. -/
theorem isRefused_array {items : List Json} (readBack : ∀ item ∈ items, item.IsReadBack)
    (refused : ∀ item ∈ items, item.IsRefused) : IsRefused (.array items) := by
  intro around rest bounded deep
  rw [ofText_compact_array, List.cons_append, List.append_assoc]
  by_cases room : around.length < maxNesting
  · have opened : stepReader ⟨.value, around⟩ 0x5B = some ⟨.firstItem, .array [] :: around⟩ := by
      rw [stepReader_openArray, openEnclosure, if_pos room]
    cases items with
    | nil =>
      simp only [nesting, nestingOfItems] at deep
      omega
    | cons item items =>
      have deepToo : maxNesting < around.length + 1 + nestingOfItems (item :: items) := by
        simp only [nesting] at deep
        omega
      rw [readFrom_cons opened, readFrom_firstItems]
      exact readFrom_items_of_deep item items [] readBack refused room deepToo _
  · have full : stepReader ⟨.value, around⟩ 0x5B = none := by
      rw [stepReader_openArray, openEnclosure, if_neg room]
    exact readFrom_refused full _

/-- An object is refused where it is too deep, if the values of its members are. -/
theorem isRefused_object {members : List (String × Json)}
    (readBack : ∀ member ∈ members, member.2.IsReadBack)
    (refused : ∀ member ∈ members, member.2.IsRefused) : IsRefused (.object members) := by
  intro around rest bounded deep
  rw [ofText_compact_object, List.cons_append, List.append_assoc]
  by_cases room : around.length < maxNesting
  · have opened : stepReader ⟨.value, around⟩ 0x7B = some ⟨.firstName, around⟩ := by
      rw [stepReader_openObject, openEnclosure, if_pos room]
    cases members with
    | nil =>
      simp only [nesting, nestingOfMembers] at deep
      omega
    | cons member members =>
      have deepToo : maxNesting < around.length + 1 + nestingOfMembers (member :: members) := by
        simp only [nesting] at deep
        omega
      rw [readFrom_cons opened, readFrom_firstMembers]
      exact readFrom_members_of_deep member members [] readBack refused room deepToo _
  · have full : stepReader ⟨.value, around⟩ 0x7B = none := by
      rw [stepReader_openObject, openEnclosure, if_neg room]
    exact readFrom_refused full _

/-- A value that is neither array nor object is never too deep. -/
theorem isRefused_of_flat (flat : value.nesting = 0) : IsRefused value := by
  intro around rest bounded deep
  omega

/-- A value whose numbers come back is refused where it is too deep. -/
theorem AllNumbers.isRefused (returns : value.AllNumbers Number.Returns) : value.IsRefused := by
  induction returns with
  | null | bool | string | number => exact isRefused_of_flat rfl
  | array each ih => exact isRefused_array (fun item member => (each item member).isReadBack) ih
  | object each ih =>
    exact isRefused_object (fun item member => (each item member).isReadBack) ih

/-- A document that is nested too deeply is refused. -/
theorem AllNumbers.read_compact_of_deep (returns : value.AllNumbers Number.Returns)
    (deep : maxNesting < value.nesting) :
    read (Bytes.ofText value.compact) = .error .malformed := by
  have whole := returns.isRefused [] [] (Nat.zero_le _) (by simpa using deep)
  rw [List.append_nil] at whole
  exact whole

end FoldAtlas.Json
