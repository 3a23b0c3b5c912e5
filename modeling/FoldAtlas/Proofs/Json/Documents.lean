import FoldAtlas.Proofs.Json.Numbers

/-!
# Documents that are read back

A value whose numbers come back is read as it was written, its members brought into order
(`AllNumbers.read_compact`), if it is not nested too deeply. Integers of 64 bits come back
(`read_compact`). The induction is on the value; arrays and objects hand it on from one item
or member to the next, and the reader remembers what is around.
-/

namespace FoldAtlas.Json

/-- Whether all numbers of a value are integers that fit in 64 bits, with or without a
sign. -/
inductive IsIntegral : Json → Prop where
  | null : IsIntegral .null
  | bool (value : Bool) : IsIntegral (.bool value)
  | string (value : String) : IsIntegral (.string value)
  | number {value : Int} (least : -2 ^ 63 ≤ value) (greatest : value < 2 ^ 64) :
      IsIntegral (.integer value)
  | array {items : List Json} (each : ∀ item ∈ items, IsIntegral item) :
      IsIntegral (.array items)
  | object {members : List (String × Json)} (each : ∀ member ∈ members, IsIntegral member.2) :
      IsIntegral (.object members)

/-- Whether all numbers of a value have a property. -/
inductive AllNumbers (property : Number → Prop) : Json → Prop where
  | null : AllNumbers property .null
  | bool (value : Bool) : AllNumbers property (.bool value)
  | string (value : String) : AllNumbers property (.string value)
  | number {value : Number} (holds : property value) : AllNumbers property (.number value)
  | array {items : List Json} (each : ∀ item ∈ items, AllNumbers property item) :
      AllNumbers property (.array items)
  | object {members : List (String × Json)}
      (each : ∀ member ∈ members, AllNumbers property member.2) :
      AllNumbers property (.object members)

variable {value : Json} {around : List Enclosure} {rest : Bytes}

/-- Whether a value is read as it was written, wherever it may stand. -/
def IsReadBack (value : Json) : Prop :=
  ∀ (around : List Enclosure) (rest : Bytes), around.length + value.nesting ≤ maxNesting →
    Ends rest → readFrom ⟨.value, around⟩ (Bytes.ofText value.compact ++ rest) =
      readFrom (complete value.sorted around) rest

/-! ## Where a value begins -/

/-- Whether a byte may be the first of a value, and nothing else. -/
def Begins (byte : UInt8) : Prop := isSpace byte = false ∧ byte ≠ 0x5D

/-- The bytes of an array. -/
theorem ofText_compact_array (items : List Json) :
    Bytes.ofText (compact (.array items)) =
      0x5B :: (Bytes.ofText (compactItems items) ++ [0x5D]) := by
  rw [compact, Bytes.ofText_append, Bytes.ofText_append]
  rfl

/-- The bytes of an object. -/
theorem ofText_compact_object (members : List (String × Json)) :
    Bytes.ofText (compact (.object members)) =
      0x7B :: (Bytes.ofText (compactMembers members) ++ [0x7D]) := by
  rw [compact, Bytes.ofText_append, Bytes.ofText_append]
  rfl

/-- The first byte of a value. -/
theorem begins (value : Json) :
    ∃ byte bytes, Bytes.ofText value.compact = byte :: bytes ∧ Begins byte := by
  cases value with
  | null => exact ⟨_, _, rfl, by decide, by decide⟩
  | bool value => cases value <;> exact ⟨_, _, rfl, by decide, by decide⟩
  | string value => exact ⟨_, _, ofText_stringText value, by decide, by decide⟩
  | number value =>
    have checked : ∀ digit < 10, isSpace (digitByte digit) = false ∧ digitByte digit ≠ 0x5D := by
      decide
    obtain ⟨byte, bytes, written, leads⟩ := exists_of_led value.led_text
    refine ⟨byte, bytes, written, ?_⟩
    rcases leads with rfl | ⟨digit, small, rfl⟩
    · exact ⟨rfl, by decide⟩
    · exact checked digit small
  | array items => exact ⟨_, _, ofText_compact_array items, by decide, by decide⟩
  | object members => exact ⟨_, _, ofText_compact_object members, by decide, by decide⟩

/-- Where an array may end, the first byte of an item is what it is elsewhere. -/
theorem readFrom_firstItem {byte : UInt8} (begins : Begins byte) (bytes : Bytes) :
    readFrom ⟨.firstItem, around⟩ (byte :: bytes) = readFrom ⟨.value, around⟩ (byte :: bytes) := by
  obtain ⟨noSpace, noEnd⟩ := begins
  simp only [readFrom, stepReader, stepToken, noSpace, Bool.false_eq_true, ↓reduceIte, if_neg noEnd]

/-! ## Items and members -/

/-- Something separates what follows. -/
theorem ends_cons {byte : UInt8} (separates : byte = 0x2C ∨ byte = 0x5D ∨ byte = 0x7D)
    (rest : Bytes) : Ends (byte :: rest) := by
  intro other same
  obtain rfl := Option.some.inj same
  exact separates

/-- Between two items there is a comma. -/
theorem ofText_compactItems (item other : Json) (items : List Json) :
    Bytes.ofText (compactItems (item :: other :: items)) =
      Bytes.ofText item.compact ++ 0x2C :: Bytes.ofText (compactItems (other :: items)) := by
  rw [compactItems, Bytes.ofText_append, Bytes.ofText_append, List.append_assoc]
  · rfl
  · simp

/-- Between two members there is a comma. -/
theorem ofText_compactMembers (name : String) (value : Json) (other : String × Json)
    (members : List (String × Json)) :
    Bytes.ofText (compactMembers ((name, value) :: other :: members)) =
      Bytes.ofText (stringText name ++ ":") ++ (Bytes.ofText value.compact ++
        0x2C :: Bytes.ofText (compactMembers (other :: members))) := by
  have comma : Bytes.ofText "," = [0x2C] := rfl
  rw [compactMembers, Bytes.ofText_append, Bytes.ofText_append, Bytes.ofText_append, comma]
  · simp only [List.append_assoc, List.singleton_append]
  · simp

/-- Items are read one after the other, up to the end of their array. -/
theorem readFrom_items (item : Json) (items : List Json) (done : List Json)
    (readBack : ∀ other ∈ item :: items, other.IsReadBack)
    (deep : around.length + 1 + nestingOfItems (item :: items) ≤ maxNesting) (rest : Bytes) :
    readFrom ⟨.value, .array done :: around⟩
        (Bytes.ofText (compactItems (item :: items)) ++ 0x5D :: rest) =
      readFrom (complete (.array (done.reverse ++ sortedItems (item :: items))) around) rest := by
  have here := readBack item List.mem_cons_self
  induction items generalizing item done with
  | nil =>
    have shallow : (Enclosure.array done :: around).length + item.nesting ≤ maxNesting := by
      simp only [nestingOfItems, List.length_cons] at deep ⊢
      omega
    have closed : stepReader (complete item.sorted (.array done :: around)) 0x5D =
        some (complete (.array (item.sorted :: done).reverse) around) := rfl
    rw [compactItems, here _ _ shallow (ends_cons (by simp) rest), readFrom_cons closed,
      List.reverse_cons]
    rfl
  | cons other items ih =>
    have shallow : (Enclosure.array done :: around).length + item.nesting ≤ maxNesting := by
      simp only [nestingOfItems, List.length_cons] at deep ⊢
      omega
    have deepToo : around.length + 1 + nestingOfItems (other :: items) ≤ maxNesting := by
      simp only [nestingOfItems] at deep ⊢
      omega
    have separated : stepReader (complete item.sorted (.array done :: around)) 0x2C =
        some ⟨.value, .array (item.sorted :: done) :: around⟩ := rfl
    have onward := ih other (item.sorted :: done)
      (fun another member => readBack another (List.mem_cons_of_mem item member)) deepToo
      (readBack other (List.mem_cons_of_mem item List.mem_cons_self))
    rw [ofText_compactItems, List.append_assoc, List.cons_append,
      here _ _ shallow (ends_cons (by simp) _), readFrom_cons separated, onward, List.reverse_cons,
      List.append_assoc]
    rfl

/-- The name of a member and the colon behind it. -/
theorem readFrom_named (done : List (String × Json)) (name : String) (bytes : Bytes) :
    readFrom ⟨.nextName done, around⟩ (Bytes.ofText (stringText name ++ ":") ++ bytes) =
      readFrom ⟨.value, .object done name :: around⟩ bytes := by
  have pointed : stepReader ⟨.colon done name, around⟩ 0x3A =
      some ⟨.value, .object done name :: around⟩ := rfl
  have mark : Bytes.ofText ":" = [0x3A] := rfl
  rw [Bytes.ofText_append, List.append_assoc, readFrom_name, mark, List.singleton_append,
    readFrom_cons pointed]

/-- Members are read one after the other, up to the end of their object. -/
theorem readFrom_members (member : String × Json) (members : List (String × Json))
    (done : List (String × Json)) (readBack : ∀ other ∈ member :: members, other.2.IsReadBack)
    (deep : around.length + 1 + nestingOfMembers (member :: members) ≤ maxNesting)
    (rest : Bytes) :
    readFrom ⟨.nextName done, around⟩
        (Bytes.ofText (compactMembers (member :: members)) ++ 0x7D :: rest) =
      readFrom (complete (.object ((sortedMembers (member :: members)).foldl
        (fun sorted entry => Keyed.insert entry.1 entry.2 sorted) done)) around) rest := by
  have here := readBack member List.mem_cons_self
  induction members generalizing member done with
  | nil =>
    obtain ⟨name, value⟩ := member
    have shallow : (Enclosure.object done name :: around).length + value.nesting ≤ maxNesting := by
      simp only [nestingOfMembers, List.length_cons] at deep ⊢
      omega
    have closed : stepReader (complete value.sorted (.object done name :: around)) 0x7D =
        some (complete (.object (Keyed.insert name value.sorted done)) around) := rfl
    rw [compactMembers, Bytes.ofText_append, List.append_assoc, readFrom_named,
      here _ _ shallow (ends_cons (by simp) rest), readFrom_cons closed]
    rfl
  | cons other members ih =>
    obtain ⟨name, value⟩ := member
    have shallow : (Enclosure.object done name :: around).length + value.nesting ≤ maxNesting := by
      simp only [nestingOfMembers, List.length_cons] at deep ⊢
      omega
    have deepToo : around.length + 1 + nestingOfMembers (other :: members) ≤ maxNesting := by
      simp only [nestingOfMembers] at deep ⊢
      omega
    have separated : stepReader (complete value.sorted (.object done name :: around)) 0x2C =
        some ⟨.nextName (Keyed.insert name value.sorted done), around⟩ := rfl
    have onward := ih other (Keyed.insert name value.sorted done)
      (fun another member => readBack another (List.mem_cons_of_mem _ member)) deepToo
      (readBack other (List.mem_cons_of_mem _ List.mem_cons_self))
    rw [ofText_compactMembers, List.append_assoc, readFrom_named, List.append_assoc,
      List.cons_append,
      here _ _ shallow (ends_cons (by simp) _), readFrom_cons separated, onward]
    rfl

/-! ## Whole values -/

/-- Where an array begins, it is opened if it is not too deep. -/
theorem stepReader_openArray (around : List Enclosure) :
    stepReader ⟨.value, around⟩ 0x5B =
      openEnclosure .firstItem around (.array [] :: around) := rfl

/-- Where an object begins, it is opened if it is not too deep. -/
theorem stepReader_openObject (around : List Enclosure) :
    stepReader ⟨.value, around⟩ 0x7B = openEnclosure .firstName around around := rfl

/-- The items of an array begin as the first of them. -/
theorem readFrom_firstItems (item : Json) (items : List Json) (rest : Bytes) :
    readFrom ⟨.firstItem, around⟩ (Bytes.ofText (compactItems (item :: items)) ++ rest) =
      readFrom ⟨.value, around⟩ (Bytes.ofText (compactItems (item :: items)) ++ rest) := by
  obtain ⟨byte, bytes, first, begins⟩ := item.begins
  have front : ∃ more, Bytes.ofText (compactItems (item :: items)) = byte :: more := by
    cases items with
    | nil => exact ⟨bytes, by rw [compactItems, first]⟩
    | cons other items => exact ⟨_, by rw [ofText_compactItems, first, List.cons_append]⟩
  obtain ⟨more, same⟩ := front
  rw [same, List.cons_append, readFrom_firstItem begins]

/-- The members of an object begin as those behind a comma. -/
theorem readFrom_firstMembers (member : String × Json) (members : List (String × Json))
    (rest : Bytes) :
    readFrom ⟨.firstName, around⟩ (Bytes.ofText (compactMembers (member :: members)) ++ rest) =
      readFrom ⟨.nextName [], around⟩
        (Bytes.ofText (compactMembers (member :: members)) ++ rest) := by
  have front : ∃ more, Bytes.ofText (compactMembers (member :: members)) = 0x22 :: more := by
    obtain ⟨name, value⟩ := member
    cases members with
    | nil =>
      rw [compactMembers, Bytes.ofText_append, Bytes.ofText_append, ofText_stringText]
      exact ⟨_, rfl⟩
    | cons other members =>
      rw [ofText_compactMembers, Bytes.ofText_append, ofText_stringText]
      exact ⟨_, rfl⟩
  obtain ⟨more, same⟩ := front
  rw [same]
  rfl

/-- An array is read as it was written, if its items are. -/
theorem isReadBack_array {items : List Json} (readBack : ∀ item ∈ items, item.IsReadBack) :
    IsReadBack (.array items) := by
  intro around rest deep ends
  have room : around.length < maxNesting := by
    simp only [nesting] at deep
    omega
  have opened : stepReader ⟨.value, around⟩ 0x5B = some ⟨.firstItem, .array [] :: around⟩ := by
    rw [stepReader_openArray, openEnclosure, if_pos room]
  rw [ofText_compact_array, List.cons_append, List.append_assoc, List.singleton_append,
    readFrom_cons opened]
  cases items with
  | nil => rfl
  | cons item items =>
    have deepToo : around.length + 1 + nestingOfItems (item :: items) ≤ maxNesting := by
      simp only [nesting] at deep
      omega
    rw [readFrom_firstItems, readFrom_items item items [] readBack deepToo rest]
    rfl

/-- An object is read as it was written, its members in order, if their values are. -/
theorem isReadBack_object {members : List (String × Json)}
    (readBack : ∀ member ∈ members, member.2.IsReadBack) : IsReadBack (.object members) := by
  intro around rest deep ends
  have room : around.length < maxNesting := by
    simp only [nesting] at deep
    omega
  have opened : stepReader ⟨.value, around⟩ 0x7B = some ⟨.firstName, around⟩ := by
    rw [stepReader_openObject, openEnclosure, if_pos room]
  rw [ofText_compact_object, List.cons_append, List.append_assoc, List.singleton_append,
    readFrom_cons opened]
  cases members with
  | nil => rfl
  | cons member members =>
    have deepToo : around.length + 1 + nestingOfMembers (member :: members) ≤ maxNesting := by
      simp only [nesting] at deep
      omega
    rw [readFrom_firstMembers, readFrom_members member members [] readBack deepToo rest]
    rfl

/-- A word is read as it was written. -/
theorem isReadBack_word {first : UInt8} {others : Bytes}
    (written : Bytes.ofText value.compact = first :: others)
    (same : value.sorted = value)
    (reads : ∀ around rest, readFrom ⟨.value, around⟩ (first :: others ++ rest) =
      readFrom (complete value around) rest) : IsReadBack value := by
  intro around rest _ _
  rw [written, same]
  exact reads around rest

/-- Every value whose numbers come back is read as it was written, wherever it may stand. -/
theorem AllNumbers.isReadBack (returns : value.AllNumbers Number.Returns) : value.IsReadBack := by
  induction returns with
  | null => exact isReadBack_word rfl rfl fun _ _ => rfl
  | bool value =>
    cases value
    · exact isReadBack_word rfl rfl fun _ _ => rfl
    · exact isReadBack_word rfl rfl fun _ _ => rfl
  | string value =>
    intro around rest _ _
    exact readFrom_stringText value rest
  | number returns =>
    intro around rest _ ends
    exact returns.readFrom ends
  | array _ ih => exact isReadBack_array ih
  | object _ ih => exact isReadBack_object ih

/-- A document whose numbers come back, not nested too deeply, is read as it was written, its
members in order. -/
theorem AllNumbers.read_compact (returns : value.AllNumbers Number.Returns)
    (shallow : value.nesting ≤ maxNesting) :
    read (Bytes.ofText value.compact) = .ok value.sorted := by
  have none : Ends [] := by
    intro byte same
    cases same
  have whole := returns.isReadBack [] [] (by simpa using shallow) none
  rw [List.append_nil] at whole
  exact whole

/-- Integers that fit in 64 bits come back. -/
theorem IsIntegral.returns (integral : value.IsIntegral) : value.AllNumbers Number.Returns := by
  induction integral with
  | null => exact .null
  | bool value => exact .bool value
  | string value => exact .string value
  | number least greatest => exact .number (returns_integer least greatest)
  | array _ ih => exact .array ih
  | object _ ih => exact .object ih

/-- A document whose numbers are integers, not nested too deeply, is read as it was
written, its members in order. -/
theorem read_compact (integral : value.IsIntegral) (shallow : value.nesting ≤ maxNesting) :
    read (Bytes.ofText value.compact) = .ok value.sorted :=
  integral.returns.read_compact shallow

end FoldAtlas.Json
