import FoldAtlas.Json.Record
import FoldAtlas.Proofs.Json.Arrangement

/-!
# Reading members

What a record is read as depends on which members an object has, not on their order
(`Fields.decode_object_iff`): every field is read from the member of its name, or is what
it is when it is absent. So a record that is written and arranged is read as its fields
are, each on its own (`Fields.decode_arranged`).
-/

namespace FoldAtlas

namespace Codec

/-- An integer between the bounds is read as it is. -/
theorem decodeInteger_of_bounds {least greatest value : Int} (wanted : String)
    (above : least ≤ value) (below : value ≤ greatest) :
    decodeInteger least greatest wanted (.integer value) = .ok value := by
  rw [Json.integer, decodeInteger, if_pos ⟨above, below⟩]

/-- An unsigned integer of 64 bits is read as it was written. -/
theorem unsigned64_decode_encode (value : UInt64) :
    unsigned64.decode (unsigned64.encode value) = .ok value := by
  have below : (value.toNat : Int) ≤ UInt64.size - 1 := by
    have bound : value.toNat < UInt64.size := value.toNat_lt
    omega
  have read := decodeInteger_of_bounds "u64" (Int.natCast_nonneg value.toNat) below
  simp only [unsigned64, Json.natural]
  rw [← Json.integer, read, Except.map, Int.toNat_natCast, UInt64.ofNat_toNat]

/-- A signed integer of 32 bits is read as it was written. -/
theorem signed32_decode_encode (value : Int32) :
    signed32.decode (signed32.encode value) = .ok value := by
  have above : Int32.minValue.toInt ≤ value.toInt := value.minValue_le_toInt
  have below : value.toInt ≤ Int32.maxValue.toInt := value.toInt_le
  have read := decodeInteger_of_bounds "i32" above below
  simp only [signed32]
  rw [read, Except.map, Int32.ofInt_toInt]

/-- An integer between bounds is read from itself alone. -/
theorem decodeInteger_eq_ok_iff {least greatest value : Int} {wanted : String} {source : Json} :
    decodeInteger least greatest wanted source = .ok value ↔
      source = .integer value ∧ least ≤ value ∧ value ≤ greatest := by
  constructor
  · intro decoded
    unfold decodeInteger at decoded
    split at decoded
    · split at decoded
      · next bounds =>
        obtain rfl := Except.ok.inj decoded
        exact ⟨rfl, bounds⟩
      · cases decoded
    · cases decoded
  · rintro ⟨rfl, above, below⟩
    exact decodeInteger_of_bounds wanted above below

/-- An unsigned integer of 64 bits is read from itself alone. -/
theorem unsigned64_decode_eq_ok_iff {source : Json} {value : UInt64} :
    unsigned64.decode source = .ok value ↔ source = .natural value.toNat := by
  constructor
  · intro decoded
    simp only [unsigned64] at decoded
    cases read : decodeInteger 0 (UInt64.size - 1) "u64" source with
    | error _ =>
      rw [read] at decoded
      cases decoded
    | ok integer =>
      rw [read] at decoded
      obtain rfl := Except.ok.inj decoded
      obtain ⟨rfl, above, below⟩ := decodeInteger_eq_ok_iff.mp read
      have small : integer.toNat < UInt64.size := by omega
      have kept : (UInt64.ofNat integer.toNat).toNat = integer.toNat :=
        UInt64.toNat_ofNat_of_lt small
      rw [Json.natural, kept, Json.integer, Int.toNat_of_nonneg above]
  · rintro rfl
    exact unsigned64_decode_encode value

/-- A signed integer of 32 bits is read from itself alone. -/
theorem signed32_decode_eq_ok_iff {source : Json} {value : Int32} :
    signed32.decode source = .ok value ↔ source = .integer value.toInt := by
  constructor
  · intro decoded
    simp only [signed32] at decoded
    cases read : decodeInteger Int32.minValue.toInt Int32.maxValue.toInt "i32" source with
    | error _ =>
      rw [read] at decoded
      cases decoded
    | ok integer =>
      rw [read] at decoded
      obtain rfl := Except.ok.inj decoded
      obtain ⟨rfl, above, below⟩ := decodeInteger_eq_ok_iff.mp read
      rw [Int32.toInt_ofInt_of_le above (Int.lt_of_le_of_lt below (by decide))]
  · rintro rfl
    exact signed32_decode_encode value

end Codec

/-- Whether a field is read as a value, from a member or for want of one. -/
def Field.Reads {α : Type} (field : Field α) : Option Json → α → Prop
  | some source, value => field.codec.decode source = .ok value
  | none, value => field.absent = .otherwise value ∨ field.absent = .inObject value

/-- What becomes of the slot of a field, with a member or without. -/
def Field.Fills {α : Type} (field : Field α) : Option Json → Option α → Option α → Prop
  | some source, _, filled => ∃ value, field.codec.decode source = .ok value ∧ filled = some value
  | none, slot, filled => filled = slot

namespace Fields

/-- The names of some fields. -/
def names : {ρ σ : Type} → Fields ρ σ → List String
  | _, _, .nil => []
  | _, _, .cons field rest => field.name :: rest.names

/-- Whether all fields are read as some values, from what stands under their names. -/
def Reads (look : String → Option Json) : {ρ σ : Type} → Fields ρ σ → ρ → Prop
  | _, _, .nil, _ => True
  | _, _, .cons field rest, (value, values) =>
    field.Reads (look field.name) value ∧ rest.Reads look values

/-- What becomes of the slots of all fields. -/
def Fills (look : String → Option Json) : {ρ σ : Type} → Fields ρ σ → σ → σ → Prop
  | _, _, .nil, _, _ => True
  | _, _, .cons field rest, (slot, slots), (filled, others) =>
    field.Fills (look field.name) slot filled ∧ rest.Fills look slots others

variable {ρ σ : Type} {fields : Fields ρ σ} {look later : String → Option Json} {name : String}
  {source : Json} {members : List (String × Json)}

/-! ## Filling slots -/

/-- Nothing becomes of slots whose names stand for nothing. -/
theorem fills_of_absent {slots filled : σ} (absent : ∀ name ∈ fields.names, look name = none) :
    fields.Fills look slots filled ↔ filled = slots := by
  induction fields with
  | nil => exact ⟨fun _ => rfl, fun _ => trivial⟩
  | cons field rest ih =>
    obtain ⟨slot, slots⟩ := slots
    obtain ⟨first, others⟩ := filled
    have restAbsent : ∀ name ∈ rest.names, look name = none := fun name member =>
      absent name (List.mem_cons_of_mem _ member)
    rw [Fills, absent field.name List.mem_cons_self, Field.Fills, ih restAbsent, Prod.mk.injEq]

/-- Slots are filled once, from two sources that never stand under the same name. -/
theorem fills_or {slots filled : σ} (apart : ∀ name, look name = none ∨ later name = none) :
    fields.Fills (fun name => (look name).or (later name)) slots filled ↔
      ∃ between, fields.Fills look slots between ∧ fields.Fills later between filled := by
  induction fields with
  | nil => exact ⟨fun _ => ⟨(), trivial, trivial⟩, fun _ => trivial⟩
  | cons field rest ih =>
    obtain ⟨slot, slots⟩ := slots
    obtain ⟨first, others⟩ := filled
    simp only [Fills, ih]
    constructor
    · rintro ⟨here, between, front, back⟩
      rcases apart field.name with none | none
      · rw [none, Option.none_or] at here
        exact ⟨(slot, between), ⟨none ▸ rfl, front⟩, here, back⟩
      · rw [none, Option.or_none] at here
        exact ⟨(first, between), ⟨here, front⟩, none ▸ rfl, back⟩
    · rintro ⟨⟨half, between⟩, ⟨before, front⟩, behind, back⟩
      refine ⟨?_, between, front, back⟩
      rcases apart field.name with none | none
      · rw [none] at before
        rw [none, Option.none_or]
        exact before ▸ behind
      · rw [none] at behind
        rw [none, Option.or_none]
        exact behind ▸ before

/-- What stands under one name alone. -/
def only (name : String) (source : Json) (other : String) : Option Json :=
  if other = name then some source else none

/-- One member fills the slot of the field of its name. -/
theorem fill_eq_ok_iff {slots filled : σ} (distinct : fields.names.Nodup) :
    fields.fill name source slots = .ok filled ↔
      fields.Fills (only name source) slots filled := by
  induction fields with
  | nil => exact ⟨fun _ => trivial, fun _ => rfl⟩
  | cons field rest ih =>
    obtain ⟨slot, slots⟩ := slots
    obtain ⟨first, others⟩ := filled
    obtain ⟨apart, distinctRest⟩ := List.nodup_cons.mp distinct
    rw [fill, Fills, only]
    by_cases same : field.name = name
    · have absent : ∀ other ∈ rest.names, only name source other = none := by
        intro other member
        refine if_neg ?_
        rintro rfl
        exact apart (same ▸ member)
      rw [if_pos same, if_pos same, fills_of_absent absent, Field.Fills]
      cases field.codec.decode source with
      | error error => simp
      | ok value => simp [eq_comm]
    · rw [if_neg same, if_neg same, ← ih distinctRest, Field.Fills]
      cases rest.fill name source slots with
      | error error => simp
      | ok between => simp [eq_comm]

/-- Members fill the slots of the fields of their names. -/
theorem fillAll_eq_ok_iff {slots filled : σ} (distinct : fields.names.Nodup)
    (distinctMembers : (members.map Prod.fst).Nodup) :
    fields.fillAll members slots = .ok filled ↔
      fields.Fills (List.lookup · members) slots filled := by
  induction members generalizing slots with
  | nil =>
    have nothing : fields.Fills (List.lookup · []) slots filled ↔ filled = slots :=
      fills_of_absent fun _ _ => rfl
    rw [fillAll, nothing, Except.ok.injEq, eq_comm]
  | cons member members ih =>
    obtain ⟨name, source⟩ := member
    obtain ⟨apart, distinctRest⟩ := List.nodup_cons.mp distinctMembers
    have absent : List.lookup name members = none := Keyed.lookup_eq_none_iff.mpr apart
    -- the first member is one source and the others are another one, which no name has in common
    have split : (List.lookup · ((name, source) :: members)) =
        fun other => (only name source other).or (List.lookup other members) := by
      funext other
      by_cases same : name = other
      · simp [only, same]
      · simp [Keyed.lookup_cons, only, same, Ne.symm same]
    have never (other : String) :
        only name source other = none ∨ List.lookup other members = none := by
      by_cases same : other = name
      · exact .inr (same ▸ absent)
      · exact .inl (if_neg same)
    rw [split, fills_or never, fillAll]
    simp only [← fill_eq_ok_iff distinct, ← ih distinctRest]
    cases fields.fill name source slots with
    | error error => simp
    | ok between => simp

/-! ## Closing a record -/

/-- A field is closed with what fills its slot, or with what it is when it is absent. -/
theorem close_cons_eq_ok_iff {α : Type} {field : Field α} {slot : Option α} {slots : σ} {value : α}
    {values : ρ} :
    (cons field fields).close (slot, slots) = .ok (value, values) ↔
      (slot = some value ∨
        slot = none ∧ (field.absent = .otherwise value ∨ field.absent = .inObject value)) ∧
      fields.close slots = .ok values := by
  simp only [close]
  cases slot with
  | some filled => cases fields.close slots <;> simp [Except.map]
  | none =>
    cases field.absent with
    | required => simp
    | otherwise | inObject => cases fields.close slots <;> simp [Except.map]

/-- The slots of a record that begins without any value are closed with what its fields are
read as. -/
theorem close_eq_ok_iff {values : ρ} :
    (∃ slots, fields.Fills look fields.empty slots ∧ fields.close slots = .ok values) ↔
      fields.Reads look values := by
  induction fields with
  | nil => exact ⟨fun _ => trivial, fun _ => ⟨(), trivial, rfl⟩⟩
  | cons field rest ih =>
    obtain ⟨value, values⟩ := values
    rw [Reads, ← ih]
    constructor
    · rintro ⟨⟨slot, slots⟩, ⟨here, others⟩, closed⟩
      obtain ⟨first, closedRest⟩ := close_cons_eq_ok_iff.mp closed
      refine ⟨?_, slots, others, closedRest⟩
      cases found : look field.name with
      | none =>
        rw [found] at here
        obtain rfl : slot = none := here
        exact (first.resolve_left (by simp)).2
      | some source =>
        rw [found] at here
        obtain ⟨read, decoded, rfl⟩ := here
        obtain rfl := Option.some.inj (first.resolve_right (by simp))
        exact decoded
    · rintro ⟨here, slots, others, closedRest⟩
      cases found : look field.name with
      | none =>
        rw [found] at here
        exact ⟨(none, slots), ⟨by rw [found]; rfl, others⟩,
          close_cons_eq_ok_iff.mpr ⟨.inr ⟨rfl, here⟩, closedRest⟩⟩
      | some source =>
        rw [found] at here
        exact ⟨(some value, slots), ⟨by rw [found]; exact ⟨value, here, rfl⟩, others⟩,
          close_cons_eq_ok_iff.mpr ⟨.inl rfl, closedRest⟩⟩

/-- What a record is read as depends on its members by their names alone. -/
theorem decode_object_iff {type : String} {values : ρ} (distinct : fields.names.Nodup)
    (distinctMembers : (members.map Prod.fst).Nodup) :
    fields.decode type (.object members) = .ok values ↔
      fields.Reads (List.lookup · members) values := by
  rw [decode, ← close_eq_ok_iff]
  simp only [← fillAll_eq_ok_iff distinct distinctMembers]
  cases fields.fillAll members fields.empty with
  | error error => simp
  | ok slots => simp

/-! ## Reading items -/

/-- Whether all fields are read as some values from the items of an array, and none is left
over. -/
def Takes : {ρ σ : Type} → Fields ρ σ → List Json → ρ → Prop
  | _, _, .nil, items, _ => items = []
  | _, _, .cons field rest, item :: items, (value, values) =>
    field.codec.decode item = .ok value ∧ rest.Takes items values
  | _, _, .cons field rest, [], (value, values) =>
    field.absent = .otherwise value ∧ rest.Takes [] values

/-- Items are read one after the other. -/
theorem readItems_eq_ok_iff {tooShort : Nat → DecodeError} {index : Nat} {items : List Json}
    {values : ρ} :
    fields.readItems tooShort index items = .ok (values, []) ↔ fields.Takes items values := by
  induction fields generalizing index items with
  | nil => simp [readItems, Takes]
  | cons field rest ih =>
    obtain ⟨value, values⟩ := values
    cases items with
    | nil =>
      rw [Takes, ← ih, readItems]
      cases field.absent with
      | required | inObject => simp
      | otherwise standard =>
        cases rest.readItems tooShort (index + 1) [] <;> simp [Prod.ext_iff, and_assoc]
    | cons item items =>
      rw [Takes, ← ih, readItems]
      cases field.codec.decode item with
      | error fault => simp
      | ok read =>
        cases rest.readItems tooShort (index + 1) items <;> simp [Prod.ext_iff, and_assoc]

/-- What a record is read as from an array. -/
theorem decode_array_iff {type : String} {items : List Json} {values : ρ} :
    fields.decode type (.array items) = .ok values ↔ fields.Takes items values := by
  simp only [decode]
  split
  · next failed =>
    rw [← readItems_eq_ok_iff, failed]
    simp
  · next read =>
    rw [← readItems_eq_ok_iff, read]
    simp
  · next read =>
    rw [← readItems_eq_ok_iff, read]
    simp

/-! ## Written records -/

/-- Whether all fields are read as some values when others are written and each value that is
not left out is changed on its way. -/
def Trips (change : Json → Json) : {ρ σ : Type} → Fields ρ σ → ρ → ρ → Prop
  | _, _, .nil, _, _ => True
  | _, _, .cons field rest, (written, others), (read, values) =>
    field.Reads (if field.omits written then none else some (change (field.codec.encode written)))
      read ∧ rest.Trips change others values

/-- Only names of fields are written. -/
theorem mem_names_of_mem_members {values : ρ}
    (written : name ∈ (fields.members values).map Prod.fst) : name ∈ fields.names := by
  induction fields with
  | nil => cases written
  | cons field rest ih =>
    obtain ⟨value, values⟩ := values
    rw [Fields.members] at written
    split at written
    · exact List.mem_cons_of_mem _ (ih written)
    · rcases List.mem_cons.mp written with rfl | later
      · exact List.mem_cons_self
      · exact List.mem_cons_of_mem _ (ih later)

/-- Nothing is written under a name that no field has. -/
theorem lookup_members_of_foreign {values : ρ} (foreign : name ∉ fields.names) :
    List.lookup name (fields.members values) = none :=
  Keyed.lookup_eq_none_iff.mpr fun written => foreign (mem_names_of_mem_members written)

/-- No name is written twice. -/
theorem nodup_members (distinct : fields.names.Nodup) (values : ρ) :
    ((fields.members values).map Prod.fst).Nodup := by
  induction fields with
  | nil => exact .nil
  | cons field rest ih =>
    obtain ⟨value, values⟩ := values
    obtain ⟨apart, distinctRest⟩ := List.nodup_cons.mp distinct
    rw [Fields.members]
    split
    · exact ih distinctRest values
    · exact List.nodup_cons.mpr
        ⟨fun repeated => apart (mem_names_of_mem_members repeated), ih distinctRest values⟩

/-- What is read of two objects in which the same stands under every name of a field. -/
theorem reads_congr {values : ρ} (same : ∀ name ∈ fields.names, look name = later name) :
    fields.Reads look values ↔ fields.Reads later values := by
  induction fields with
  | nil => exact Iff.rfl
  | cons field rest ih =>
    obtain ⟨value, values⟩ := values
    rw [Reads, Reads, same field.name List.mem_cons_self,
      ih fun name member => same name (List.mem_cons_of_mem _ member)]

/-- A record that is written is read as its fields are, each on its own. -/
theorem reads_members {change : Json → Json} {written read : ρ} (distinct : fields.names.Nodup) :
    fields.Reads (fun name => (List.lookup name (fields.members written)).map change) read ↔
      fields.Trips change written read := by
  induction fields with
  | nil => exact Iff.rfl
  | cons field rest ih =>
    obtain ⟨value, written⟩ := written
    obtain ⟨result, read⟩ := read
    obtain ⟨apart, distinctRest⟩ := List.nodup_cons.mp distinct
    have absent : List.lookup field.name (rest.members written) = none :=
      lookup_members_of_foreign apart
    rw [Reads, Trips, ← ih distinctRest, Fields.members]
    by_cases omitted : field.omits value = true
    · rw [if_pos omitted, if_pos omitted, absent]
      rfl
    · rw [if_neg omitted, if_neg omitted, List.lookup_cons_self]
      refine and_congr Iff.rfl (reads_congr fun name member => ?_)
      have different : field.name ≠ name := by
        rintro rfl
        exact apart member
      rw [Keyed.lookup_cons, if_neg different]

/-- A record that is written and arranged is read as its fields are, each on its own. -/
theorem decode_arranged {change : Json → Json} (arranges : Json.Arranges change) {type : String}
    {written read : ρ} (distinct : fields.names.Nodup) :
    fields.decode type (change (.object (fields.members written))) = .ok read ↔
      fields.Trips change written read := by
  have distinctMembers := nodup_members distinct written
  obtain ⟨arranged, changed, same⟩ := arranges.object _ distinctMembers
  rw [changed, decode_object_iff distinct (Json.Arranges.nodup same distinctMembers),
    ← reads_members distinct]
  exact reads_congr fun name _ => Json.Arranges.lookup same distinctMembers name

/-- The codec of a record reads the values of its fields and puts them together. -/
theorem codec_decode_eq_ok_iff {α : Type} {type : String} {make : ρ → α} {parts : α → ρ}
    {value : α} :
    (fields.codec type make parts).decode source = .ok value ↔
      ∃ values, fields.decode type source = .ok values ∧ make values = value := by
  simp only [codec]
  cases fields.decode type source with
  | error fault => simp [Except.map]
  | ok values => simp [Except.map]

/-- The codec of a record reads what it has written as the fields are read. -/
theorem codec_decode_arranged {change : Json → Json} (arranges : Json.Arranges change) {α : Type}
    {type : String} {make : ρ → α} {parts : α → ρ} {value result : α} {read : ρ}
    (distinct : fields.names.Nodup) (trips : fields.Trips change (parts value) read)
    (made : make read = result) :
    (fields.codec type make parts).decode (change ((fields.codec type make parts).encode value)) =
      .ok result := by
  simp only [codec, (decode_arranged arranges distinct).mpr trips, Except.map, made]

/-- The codec of a record reads what it has written and put into order as the fields are
read. -/
theorem codec_decode_written {α : Type} {type : String} {make : ρ → α} {parts : α → ρ}
    {value result : α} {read : ρ} (distinct : fields.names.Nodup)
    (trips : fields.Trips Json.sorted (parts value) read) (made : make read = result) :
    (fields.codec type make parts).decode
      (Json.sorted ((fields.codec type make parts).encode value)) = .ok result :=
  codec_decode_arranged Json.arranges_sorted distinct trips made

/-- What stands under a name in a record that is written and put into order. -/
theorem member?_written {α : Type} {type : String} {make : ρ → α} {parts : α → ρ} {value : α}
    (distinct : fields.names.Nodup) (name : String) :
    (Json.sorted ((fields.codec type make parts).encode value)).member? name =
      (List.lookup name (fields.members (parts value))).map Json.sorted :=
  Json.member?_sorted (nodup_members distinct (parts value)) name

/-- Whether all values that are written for some fields have a property. -/
def Writes (property : Json → Prop) : {ρ σ : Type} → Fields ρ σ → ρ → Prop
  | _, _, .nil, _ => True
  | _, _, .cons field rest, (value, values) =>
    (field.omits value = false → property (field.codec.encode value)) ∧ rest.Writes property values

/-- What is written has the property that all values have that are written. -/
theorem Writes.of_mem {property : Json → Prop} {values : ρ}
    (writes : fields.Writes property values) :
    ∀ member ∈ fields.members values, property member.2 := by
  induction fields with
  | nil =>
    intro member written
    cases written
  | cons field rest ih =>
    obtain ⟨value, values⟩ := values
    obtain ⟨here, others⟩ := writes
    rw [Fields.members]
    split
    · exact ih others
    · next kept =>
      intro member written
      rcases List.mem_cons.mp written with rfl | later
      · exact here (Bool.not_eq_true _ ▸ kept)
      · exact ih others member later

end Fields

end FoldAtlas
