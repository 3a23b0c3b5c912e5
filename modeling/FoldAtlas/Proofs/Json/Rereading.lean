import Mathlib.Data.List.Forall2
import FoldAtlas.Json.Variant
import FoldAtlas.Proofs.Json.Members

/-!
# Reading again

What it takes for a value to be read as it was written, in whatever way its members are
arranged (`Codec.Rereads`). Most codecs do that for every value of their type
(`Codec.Faithful`). Some types have values that no document stands for, and their codecs
do it for what they have read themselves (`Codec.Keeps`).

A record is read again if its fields are (`Fields.codec_rereads`). What is known about the
values of a record that was read is that each of them was read from a part of the
document, or stands for a member that is absent (`Fields.admits_of_decode`).
-/

namespace FoldAtlas

namespace Codec

variable {α : Type}

/-- Whether a value is read as it was written and then arranged. -/
def Rereads (change : Json → Json) (codec : Codec α) (value : α) : Prop :=
  codec.decode (change (codec.encode value)) = .ok value

/-- Whether every value is read as it was written. -/
def Faithful (change : Json → Json) (codec : Codec α) : Prop :=
  ∀ value, codec.Rereads change value

/-- Whether every value that is read from a document in its arrangement is read again as
it was written. -/
def Keeps (change : Json → Json) (codec : Codec α) : Prop :=
  ∀ source value, change source = source → codec.decode source = .ok value →
    codec.Rereads change value

/-- Whether `null` stands for no value. -/
def RefusesNull (codec : Codec α) : Prop := ∀ value, codec.decode .null ≠ .ok value

variable {change : Json → Json} {codec : Codec α}

/-- A codec that is faithful to every value is so to those that it reads. -/
theorem Faithful.keeps (faithful : codec.Faithful change) : codec.Keeps change :=
  fun _ value _ _ => faithful value

/-! ## Simple types -/

/-- An unsigned integer of 32 bits is read as it was written. -/
theorem unsigned32_decode_encode (value : UInt32) :
    unsigned32.decode (unsigned32.encode value) = .ok value := by
  have below : (value.toNat : Int) ≤ UInt32.size - 1 := by
    have bound : value.toNat < UInt32.size := value.toNat_lt
    omega
  have read := decodeInteger_of_bounds "u32" (Int.natCast_nonneg value.toNat) below
  simp only [unsigned32, Json.natural]
  rw [← Json.integer, read, Except.map, Int.toNat_natCast, UInt32.ofNat_toNat]

/-- A signed integer of 64 bits is read as it was written. -/
theorem signed64_decode_encode (value : Int64) :
    signed64.decode (signed64.encode value) = .ok value := by
  have above : Int64.minValue.toInt ≤ value.toInt := value.minValue_le_toInt
  have below : value.toInt ≤ Int64.maxValue.toInt := value.toInt_le
  have read := decodeInteger_of_bounds "i64" above below
  simp only [signed64]
  rw [read, Except.map, Int64.ofInt_toInt]

variable (arranges : Json.Arranges change)

include arranges

/-- Strings are read as they were written. -/
theorem text_faithful : text.Faithful change := fun value => by
  simp only [Rereads, text, arranges.string]

/-- Truth values are read as they were written. -/
theorem flag_faithful : flag.Faithful change := fun value => by
  simp only [Rereads, flag, arranges.bool]

/-- Unsigned integers of 32 bits are read as they were written. -/
theorem unsigned32_faithful : unsigned32.Faithful change := fun value =>
  (congrArg unsigned32.decode (arranges.number _)).trans (unsigned32_decode_encode value)

/-- Unsigned integers of 64 bits are read as they were written. -/
theorem unsigned64_faithful : unsigned64.Faithful change := fun value =>
  (congrArg unsigned64.decode (arranges.number _)).trans (unsigned64_decode_encode value)

/-- Signed integers of 64 bits are read as they were written. -/
theorem signed64_faithful : signed64.Faithful change := fun value =>
  (congrArg signed64.decode (arranges.number _)).trans (signed64_decode_encode value)

/-- Variants are read as they were written if each is found under its name. -/
theorem variants_faithful {rule : PayloadRule} {table : List (String × α)} {name : α → String}
    (found : ∀ value, List.lookup (name value) table = some value) :
    (Codec.variants rule table name).Faithful change := fun value => by
  simp only [Rereads, Codec.variants, arranges.string, Tagged.decode, found, PayloadRule.check,
    Except.map]

/-! ## Lists and values that may be missing -/

omit arranges in
/-- Items are read one by one. -/
theorem decodeItems_eq_ok_iff {decode : Json → Except DecodeError α} {items : List Json}
    {values : List α} :
    decodeItems decode items = .ok values ↔
      List.Forall₂ (fun item value => decode item = .ok value) items values := by
  induction items generalizing values with
  | nil =>
    rw [decodeItems, List.forall₂_nil_left_iff, Except.ok.injEq, eq_comm]
  | cons item items ih =>
    rw [decodeItems, List.forall₂_cons_left_iff]
    simp only [← ih]
    cases decode item with
    | error fault => simp
    | ok value =>
      cases decodeItems decode items with
      | error fault => simp
      | ok others => simp [eq_comm]

/-- A list is read as it was written if its items are. -/
theorem list_rereads {values : List α} (rereads : ∀ value ∈ values, codec.Rereads change value) :
    codec.list.Rereads change values := by
  have items : change (codec.list.encode values) =
      .array (values.map fun value => change (codec.encode value)) := by
    simp only [list, arranges.array, List.map_map]
    rfl
  rw [Rereads, items]
  exact decodeItems_eq_ok_iff.mpr (List.forall₂_map_left_iff.mpr (List.forall₂_same.mpr rereads))

/-- Lists of what is read as it was written are so, too. -/
theorem list_faithful (faithful : codec.Faithful change) : codec.list.Faithful change :=
  fun _ => list_rereads arranges fun value _ => faithful value

/-- A value that may be missing is read as it was written, unless `null` stands for it. -/
theorem optional_rereads (refuses : codec.RefusesNull) {value : Option α}
    (rereads : ∀ given ∈ value, codec.Rereads change given) :
    codec.optional.Rereads change value := by
  cases value with
  | none => simp only [Rereads, optional, arranges.null]
  | some given =>
    have read := rereads given rfl
    rw [Rereads] at read ⊢
    have written : codec.optional.encode (some given) = codec.encode given := rfl
    rw [written]
    cases stands : change (codec.encode given) with
    | null =>
      rw [stands] at read
      exact absurd read (refuses given)
    | bool | number | string | array | object =>
      rw [stands] at read
      simp only [optional, read, Except.map]

end Codec

/-! ## Fields -/

namespace Field

variable {α : Type} {change : Json → Json} {codec : Codec α} (name : String)

/-- Whether the value of a field is read as it was written, or left out and read for want of
a member. -/
def Returns (change : Json → Json) (field : Field α) (value : α) : Prop :=
  field.Reads (if field.omits value then none else some (change (field.codec.encode value))) value

/-- A field that is always written returns what its codec rereads. -/
theorem required_returns {value : α} (rereads : codec.Rereads change value) :
    (required name codec).Returns change value := rereads

/-- A field with a value of its own returns what its codec rereads. -/
theorem defaulted_returns (standard : α) {value : α} (rereads : codec.Rereads change value) :
    (defaulted name codec standard).Returns change value := rereads

/-- A field that is left out when it is missing returns what its codec rereads. -/
theorem optional_returns (arranges : Json.Arranges change) (refuses : codec.RefusesNull)
    {value : Option α} (rereads : ∀ given ∈ value, codec.Rereads change given) :
    (optional name codec).Returns change value := by
  have written := Codec.optional_rereads arranges refuses rereads
  cases value with
  | none => exact .inl rfl
  | some given => exact written

/-- A field that is written as `null` when it is missing returns what its codec rereads. -/
theorem nullable_returns (arranges : Json.Arranges change) (refuses : codec.RefusesNull)
    {value : Option α} (rereads : ∀ given ∈ value, codec.Rereads change given) :
    (nullable name codec).Returns change value :=
  Codec.optional_rereads arranges refuses rereads

/-- Whether a value was read from a part of a document in its arrangement, or stands for an
absent member. -/
def Admits (change : Json → Json) (field : Field α) (value : α) : Prop :=
  (∃ part, change part = part ∧ field.codec.decode part = .ok value) ∨
    field.absent = .otherwise value ∨ field.absent = .inObject value

/-- What a field is read as is admitted if it is read from such a part. -/
theorem Reads.admits {field : Field α} {part? : Option Json} {value : α}
    (reads : field.Reads part? value) (fixed : ∀ part ∈ part?, change part = part) :
    field.Admits change value := by
  cases part? with
  | none => exact .inr reads
  | some part => exact .inl ⟨part, fixed part rfl, reads⟩

end Field

namespace Fields

variable {ρ σ : Type} {fields : Fields ρ σ} {change : Json → Json}

/-- The codec of a record reads a value as it was written if its fields do. -/
theorem codec_rereads (arranges : Json.Arranges change) {α : Type} {type : String} {make : ρ → α}
    {parts : α → ρ} {value : α} (distinct : fields.names.Nodup)
    (trips : fields.Trips change (parts value) (parts value)) (made : make (parts value) = value) :
    (fields.codec type make parts).Rereads change value :=
  codec_decode_arranged arranges distinct trips made

/-- The codec of a record does not take `null` for one. -/
theorem codec_refusesNull {α : Type} {type : String} {make : ρ → α} {parts : α → ρ} :
    (fields.codec type make parts).RefusesNull := by
  intro value
  simp [codec, decode, Except.map]

/-! ## Where the values of a record come from -/

/-- Whether the fields of a record are read as some values from the items of an array. -/
def ReadsInOrder : {ρ σ : Type} → Fields ρ σ → List Json → ρ → Prop
  | _, _, .nil, _, _ => True
  | _, _, .cons field rest, items, (value, values) =>
    field.Reads items.head? value ∧ rest.ReadsInOrder items.tail values

/-- Whether some values are admitted by the fields of a record. -/
def Admits (change : Json → Json) : {ρ σ : Type} → Fields ρ σ → ρ → Prop
  | _, _, .nil, _ => True
  | _, _, .cons field rest, (value, values) =>
    field.Admits change value ∧ rest.Admits change values

/-- Whether the slots that are filled hold what was read from parts of a document. -/
def Gathers (change : Json → Json) : {ρ σ : Type} → Fields ρ σ → σ → Prop
  | _, _, .nil, _ => True
  | _, _, .cons field rest, (slot, slots) =>
    (∀ value ∈ slot, ∃ part, change part = part ∧ field.codec.decode part = .ok value) ∧
      rest.Gathers change slots

/-- An array is read item by item. -/
theorem readsInOrder_of_readItems {tooShort : Nat → DecodeError} {index : Nat}
    {items left : List Json} {values : ρ}
    (read : fields.readItems tooShort index items = .ok (values, left)) :
    fields.ReadsInOrder items values := by
  induction fields generalizing index items with
  | nil => trivial
  | cons field rest ih =>
    obtain ⟨value, values⟩ := values
    cases items with
    | nil =>
      simp only [readItems] at read
      split at read
      · next standard absent =>
        split at read
        · cases read
        · next others rest readRest =>
          cases read
          exact ⟨.inl absent, ih readRest⟩
      · cases read
    | cons item items =>
      simp only [readItems] at read
      split at read
      · cases read
      · next first decoded =>
        split at read
        · cases read
        · next others rest readRest =>
          cases read
          exact ⟨decoded, ih readRest⟩

/-- What is read from an array is read item by item. -/
theorem readsInOrder_of_decode {type : String} {items : List Json} {values : ρ}
    (decoded : fields.decode type (.array items) = .ok values) :
    fields.ReadsInOrder items values := by
  simp only [decode] at decoded
  split at decoded
  · cases decoded
  · next read =>
    cases decoded
    exact readsInOrder_of_readItems read
  · cases decoded

/-- What is read from items in their arrangement is admitted. -/
theorem ReadsInOrder.admits {items : List Json} {values : ρ}
    (reads : fields.ReadsInOrder items values) (fixed : ∀ item ∈ items, change item = item) :
    fields.Admits change values := by
  induction fields generalizing items with
  | nil => trivial
  | cons field rest ih =>
    obtain ⟨value, values⟩ := values
    obtain ⟨here, others⟩ := reads
    refine ⟨here.admits fun part first => ?_, ih others fun item member => ?_⟩
    · exact fixed part (List.mem_of_head? first)
    · exact fixed item (List.mem_of_mem_tail member)

/-- Slots that are empty hold nothing. -/
theorem gathers_empty : fields.Gathers change fields.empty := by
  induction fields with
  | nil => trivial
  | cons field rest ih => exact ⟨(fun _ filled => by cases filled), ih⟩

/-- A member in its arrangement fills a slot with what is read from it. -/
theorem Gathers.fill {name : String} {source : Json} {slots filled : σ}
    (gathers : fields.Gathers change slots) (fixed : change source = source)
    (fills : fields.fill name source slots = .ok filled) : fields.Gathers change filled := by
  induction fields with
  | nil => trivial
  | cons field rest ih =>
    obtain ⟨slot, slots⟩ := slots
    obtain ⟨here, others⟩ := gathers
    simp only [Fields.fill] at fills
    split at fills
    · split at fills
      · cases fills
      · next value decoded =>
        cases fills
        refine ⟨fun given same => ?_, others⟩
        cases same
        exact ⟨source, fixed, decoded⟩
    · split at fills
      · cases fills
      · next filledRest fillsRest =>
        cases fills
        exact ⟨here, ih others fillsRest⟩

/-- Members in their arrangement fill slots with what is read from them. -/
theorem Gathers.fillAll {members : List (String × Json)} {slots filled : σ}
    (gathers : fields.Gathers change slots) (fixed : ∀ member ∈ members, change member.2 = member.2)
    (fills : fields.fillAll members slots = .ok filled) : fields.Gathers change filled := by
  induction members generalizing slots with
  | nil =>
    cases fills
    exact gathers
  | cons member members ih =>
    simp only [Fields.fillAll] at fills
    split at fills
    · cases fills
    · next between fillsFirst =>
      have first := gathers.fill (fixed member List.mem_cons_self) fillsFirst
      exact ih first (fun other among => fixed other (List.mem_cons_of_mem _ among)) fills

/-- Slots are closed with what is admitted. -/
theorem Gathers.admits {slots : σ} {values : ρ} (gathers : fields.Gathers change slots)
    (closed : fields.close slots = .ok values) : fields.Admits change values := by
  induction fields with
  | nil => trivial
  | cons field rest ih =>
    obtain ⟨value, values⟩ := values
    obtain ⟨slot, slots⟩ := slots
    obtain ⟨here, others⟩ := gathers
    obtain ⟨first, closedRest⟩ := close_cons_eq_ok_iff.mp closed
    refine ⟨?_, ih others closedRest⟩
    rcases first with rfl | ⟨-, absent⟩
    · exact .inl (here value rfl)
    · exact .inr absent

/-- The values of a record that is read from a document in its arrangement are admitted by
its fields. -/
theorem admits_of_decode (arranges : Json.Arranges change) {type : String} {source : Json}
    {values : ρ} (fixed : change source = source) (decoded : fields.decode type source = .ok values) :
    fields.Admits change values := by
  cases source with
  | object members =>
    simp only [decode] at decoded
    split at decoded
    · cases decoded
    · next slots fills =>
      exact (gathers_empty.fillAll (arranges.inner members fixed) fills).admits decoded
  | array items =>
    rw [arranges.array, Json.array.injEq] at fixed
    refine (readsInOrder_of_decode decoded).admits ?_
    exact List.map_inj_left.mp (fixed.trans (List.map_id items).symm)
  | null | bool | number | string => cases decoded

end Fields

end FoldAtlas
