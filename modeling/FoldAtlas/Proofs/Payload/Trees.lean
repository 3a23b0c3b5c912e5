import FoldAtlas.Proofs.Json.Rereading
import FoldAtlas.Symbol.Outline

/-!
# Outlines read again

A symbol with everything inside it is read as it was written (`DocumentSymbol.faithful`),
by induction on the levels that the reader admits: each level of a written tree uses up an
array and an object. An outline that was read is read again in the same shape
(`Outline.keeps`): a written tree names no location, so it is never taken for a symbol of a
flat list.
-/

namespace FoldAtlas

variable {change : Json → Json}

namespace Json

/-- An item is nested less deeply than the array that it stands in. -/
theorem nesting_lt_array {items : List Json} {item : Json} (among : item ∈ items) :
    item.nesting < (Json.array items).nesting := by
  rw [nesting, Nat.lt_succ_iff]
  induction items with
  | nil => cases among
  | cons first items ih =>
    rw [nestingOfItems]
    rcases List.mem_cons.mp among with rfl | later
    · exact Nat.le_max_left _ _
    · exact Nat.le_trans (ih later) (Nat.le_max_right _ _)

/-- A member is nested less deeply than the object that it stands in. -/
theorem nesting_lt_object {members : List (String × Json)} {member : String × Json}
    (among : member ∈ members) : member.2.nesting < (Json.object members).nesting := by
  rw [nesting, Nat.lt_succ_iff]
  induction members with
  | nil => cases among
  | cons first members ih =>
    obtain ⟨name, value⟩ := first
    rw [nestingOfMembers]
    rcases List.mem_cons.mp among with rfl | later
    · exact Nat.le_max_left _ _
    · exact Nat.le_trans (ih later) (Nat.le_max_right _ _)

/-- A member of an object that was arranged is nested less deeply than the object. -/
theorem Arranges.nesting_lt (arranges : Arranges change) {members : List (String × Json)}
    (distinct : (members.map Prod.fst).Nodup) {member : String × Json} (among : member ∈ members) :
    (change member.2).nesting < (change (.object members)).nesting := by
  obtain ⟨arranged, changed, same⟩ := arranges.object members distinct
  rw [changed]
  exact nesting_lt_object (same.mem_iff.mpr (List.mem_map_of_mem among))

end Json

/-! ## Positions and locations -/

/-- Positions are read as they were written. -/
theorem Position.faithful (arranges : Json.Arranges change) : Position.codec.Faithful change :=
  fun _ => Fields.codec_rereads arranges (by decide)
    ⟨Field.required_returns _ (Codec.unsigned32_faithful arranges _),
      Field.required_returns _ (Codec.unsigned32_faithful arranges _), trivial⟩ rfl

/-- Ranges are read as they were written. -/
theorem Range.faithful (arranges : Json.Arranges change) : Range.codec.Faithful change :=
  fun _ => Fields.codec_rereads arranges (by decide)
    ⟨Field.required_returns _ (Position.faithful arranges _),
      Field.required_returns _ (Position.faithful arranges _), trivial⟩ rfl

/-- Locations are read as they were written. -/
theorem Location.faithful (arranges : Json.Arranges change) : Location.codec.Faithful change :=
  fun _ => Fields.codec_rereads arranges (by decide)
    ⟨Field.required_returns _ (Codec.text_faithful arranges _),
      Field.defaulted_returns _ _ (Range.faithful arranges _), trivial⟩ rfl

/-- `null` is no string. -/
theorem Codec.text_refusesNull : Codec.text.RefusesNull := fun _ read => by cases read

/-- `null` is no number. -/
theorem Codec.unsigned32_refusesNull : Codec.unsigned32.RefusesNull := fun _ read => by cases read

/-- `null` is no list. -/
theorem Codec.list_refusesNull {α : Type} {codec : Codec α} : codec.list.RefusesNull :=
  fun _ read => by cases read

/-! ## Symbols -/

/-- Symbols of a flat list are read as they were written. -/
theorem SymbolInformation.faithful (arranges : Json.Arranges change) :
    SymbolInformation.codec.Faithful change :=
  fun _ => Fields.codec_rereads arranges (by decide)
    ⟨Field.required_returns _ (Codec.text_faithful arranges _),
      Field.required_returns _ (Codec.unsigned32_faithful arranges _),
      Field.required_returns _ (Location.faithful arranges _),
      Field.optional_returns _ arranges Codec.text_refusesNull
        (fun _ _ => Codec.text_faithful arranges _), trivial⟩ rfl

namespace DocumentSymbol

/-- A forest is written tree by tree. -/
theorem encodeForest_eq_map (symbols : List DocumentSymbol) :
    encodeForest symbols = symbols.map encode := by
  induction symbols with
  | nil => rfl
  | cons symbol symbols ih => rw [encodeForest, ih, List.map_cons]

/-- A symbol is written field by field. -/
theorem encode_node (decode : Json → Except DecodeError DocumentSymbol) (name : String)
    (detail : Option String) (kind : UInt32) (range selectionRange : Range)
    (children : Option (List DocumentSymbol)) :
    encode (.node name detail kind range selectionRange children) =
      .object ((fields decode).members
        (name, detail, kind, range, selectionRange, children, ())) := by
  cases detail <;> cases children <;> simp only [encode, encodeForest_eq_map] <;> rfl

/-- The fields of a symbol have distinct names. -/
theorem nodup_names (decode : Json → Except DecodeError DocumentSymbol) :
    (fields decode).names.Nodup := by
  have names : (fields decode).names =
      ["name", "detail", "kind", "range", "selectionRange", "children"] := rfl
  rw [names]
  decide

/-- The symbols directly inside a written one are nested less deeply than it. -/
theorem nesting_inner (arranges : Json.Arranges change) (name : String) (detail : Option String)
    (kind : UInt32) (range selectionRange : Range) {children : List DocumentSymbol}
    {child : DocumentSymbol} (inside : child ∈ children) :
    (change (encode child)).nesting + 1 <
      (change (encode (.node name detail kind range selectionRange (some children)))).nesting := by
  have listed : ("children", Json.array (children.map encode)) ∈
      (fields codec.decode).members (name, detail, kind, range, selectionRange, some children, ()) := by
    cases detail <;> simp [fields, Fields.members, Field.required, Field.optional, Codec.optional,
      Codec.list]
  have lower := arranges.nesting_lt (Fields.nodup_members (nodup_names _) _) listed
  have lowest := Json.nesting_lt_array (List.mem_map_of_mem (f := change)
    (List.mem_map_of_mem (f := encode) inside))
  rw [← encode_node, arranges.array] at lower
  omega

/-- A reader that admits more levels than a written symbol has reads the symbol. -/
theorem rereads_within (arranges : Json.Arranges change) (depth : Nat) (symbol : DocumentSymbol)
    (admitted : (change (encode symbol)).nesting < depth) :
    decodeWithin depth (change (encode symbol)) = .ok symbol := by
  induction depth generalizing symbol with
  | zero => exact absurd admitted (Nat.not_lt_zero _)
  | succ depth ih =>
    obtain ⟨name, detail, kind, range, selectionRange, children⟩ := symbol
    have inner : ∀ listed ∈ children,
        (Codec.list ⟨decodeWithin depth, encode⟩).Rereads change listed := by
      rintro listed rfl
      refine Codec.list_rereads arranges fun child inside => ih child ?_
      have lower := nesting_inner arranges name detail kind range selectionRange inside
      omega
    have trips : (fields (decodeWithin depth)).Trips change
        (name, detail, kind, range, selectionRange, children, ())
        (name, detail, kind, range, selectionRange, children, ()) :=
      ⟨Field.required_returns _ (Codec.text_faithful arranges _),
        Field.optional_returns _ arranges Codec.text_refusesNull
          (fun _ _ => Codec.text_faithful arranges _),
        Field.required_returns _ (Codec.unsigned32_faithful arranges _),
        Field.required_returns _ (Range.faithful arranges _),
        Field.required_returns _ (Range.faithful arranges _),
        Field.optional_returns _ arranges Codec.list_refusesNull inner, trivial⟩
    rw [decodeWithin, encode_node (decodeWithin depth),
      (Fields.decode_arranged arranges (nodup_names (decodeWithin depth))).mpr trips]
    rfl

/-- Symbols are read as they were written, with everything inside them. -/
theorem faithful (arranges : Json.Arranges change) : codec.Faithful change :=
  fun symbol => rereads_within arranges _ symbol (Nat.lt_succ_self _)

/-- A written symbol names no location, and so is none of a flat list. -/
theorem not_flat (arranges : Json.Arranges change) (symbol : DocumentSymbol)
    (flat : SymbolInformation) :
    SymbolInformation.codec.decode (change (encode symbol)) ≠ .ok flat := by
  intro read
  obtain ⟨name, detail, kind, range, selectionRange, children⟩ := symbol
  have distinct := Fields.nodup_members (nodup_names codec.decode)
    (name, detail, kind, range, selectionRange, children, ())
  obtain ⟨arranged, changed, same⟩ := arranges.object _ distinct
  rw [encode_node codec.decode, changed] at read
  obtain ⟨values, decoded, -⟩ := Fields.codec_decode_eq_ok_iff.mp read
  obtain ⟨-, -, located, -⟩ := (Fields.decode_object_iff (by decide)
    (Json.Arranges.nodup same distinct)).mp decoded
  have absent : List.lookup "location" arranged = none := by
    rw [Json.Arranges.lookup same distinct, Fields.lookup_members_of_foreign, Option.map_none]
    have names : (fields codec.decode).names =
        ["name", "detail", "kind", "range", "selectionRange", "children"] := rfl
    rw [names]
    decide
  simp only [Field.required, absent, Field.Reads] at located
  rcases located with located | located <;> cases located

end DocumentSymbol

/-! ## Outlines -/

namespace Outline

/-- An outline without symbols is flat. -/
theorem ne_nil_of_nested {source : Json} {symbols : List DocumentSymbol}
    (read : codec.decode source = .ok (.nested symbols)) : symbols ≠ [] := by
  rintro rfl
  simp only [codec] at read
  split at read
  · cases read
  · next refused =>
    split at read
    · next trees =>
      cases read
      cases source with
      | array items =>
        -- no item is read, so there is none, and no item is no flat list either
        cases Codec.decodeItems_eq_ok_iff.mp trees
        cases refused
      | null | bool | number | string | object => cases trees
    · cases read

/-- Trees that are written are not taken for a flat list. -/
theorem not_flat (arranges : Json.Arranges change) {symbols : List DocumentSymbol}
    (some : symbols ≠ []) (list : List SymbolInformation) :
    SymbolInformation.codec.list.decode (change (DocumentSymbol.codec.list.encode symbols)) ≠
      .ok list := by
  intro flat
  have written : change (DocumentSymbol.codec.list.encode symbols) =
      .array (symbols.map fun symbol => change (DocumentSymbol.encode symbol)) := by
    simp only [Codec.list, arranges.array, List.map_map]
    rfl
  rw [written] at flat
  have items := Codec.decodeItems_eq_ok_iff.mp flat
  cases symbols with
  | nil => exact some rfl
  | cons symbol symbols =>
    cases items with
    | cons first others => exact DocumentSymbol.not_flat arranges symbol _ first

/-- An outline that was read is read again in the same shape. -/
theorem keeps (arranges : Json.Arranges change) : codec.Keeps change := by
  intro source outline _ read
  cases outline with
  | flat symbols =>
    have again := Codec.list_faithful arranges (SymbolInformation.faithful arranges) symbols
    rw [Codec.Rereads] at again
    simp only [Codec.Rereads, codec, again]
  | nested symbols =>
    have again := Codec.list_faithful arranges (DocumentSymbol.faithful arranges) symbols
    rw [Codec.Rereads] at again
    have refused := not_flat arranges (ne_nil_of_nested read)
    simp only [Codec.Rereads, codec]
    split
    · next list flat => exact absurd flat (refused list)
    · rw [again]

end Outline

end FoldAtlas
