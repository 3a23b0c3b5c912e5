import FoldAtlas.Greeting
import FoldAtlas.Language
import FoldAtlas.Proofs.Payload.Trees
import FoldAtlas.ServerLog
import FoldAtlas.Settings.Basic

/-!
# Payloads read again

Whatever a payload was read from, it is read again from what it is written as, with its
members in the order in which they are written or in increasing order
(`PayloadType.payload_is_reread`). Payloads are of sixteen types (`PayloadType`). Thirteen
of them are read again whatever their value is. Offers, greetings and outlines have values
that no document stands for, such as an offer that names an entry twice, and of these only
those are read again that were read before.
-/

namespace FoldAtlas

variable {change : Json → Json}

/-! ## Folding regions and log messages -/

/-- Kinds of folding regions are read as they were written. -/
theorem FoldingKind.faithful (arranges : Json.Arranges change) :
    FoldingKind.codec.Faithful change := by
  intro kind
  simp only [Codec.Rereads, codec, arranges.string, Tagged.decode, PayloadRule.check, Except.map]
  cases kind <;> rfl

/-- Kinds of folding regions are never `null`. -/
theorem FoldingKind.refusesNull : FoldingKind.codec.RefusesNull := fun _ read => by cases read

/-- Folding regions are read as they were written. -/
theorem FoldingRange.faithful (arranges : Json.Arranges change) :
    FoldingRange.codec.Faithful change := by
  have number (name : String) (value : Option UInt32) :
      (Field.optional name .unsigned32).Returns change value :=
    Field.optional_returns name arranges Codec.unsigned32_refusesNull
      fun _ _ => Codec.unsigned32_faithful arranges _
  have kind (value : Option FoldingKind) :
      (Field.optional "kind" FoldingKind.codec).Returns change value :=
    Field.optional_returns _ arranges FoldingKind.refusesNull
      fun _ _ => FoldingKind.faithful arranges _
  intro region
  refine Fields.codec_rereads arranges (by decide) ⟨?_, ?_, ?_, ?_, ?_, trivial⟩ rfl
  · exact Field.required_returns _ (Codec.unsigned32_faithful arranges _)
  · exact Field.required_returns _ (Codec.unsigned32_faithful arranges _)
  · exact number _ _
  · exact number _ _
  · exact kind _

/-- Levels are read as they were written. -/
theorem LogLevel.faithful (arranges : Json.Arranges change) : LogLevel.codec.Faithful change := by
  intro level
  cases level <;>
    simp only [Codec.Rereads, codec, Json.natural, arranges.number] <;> rfl

/-- Log messages are read as they were written. -/
theorem LogMessage.faithful (arranges : Json.Arranges change) :
    LogMessage.codec.Faithful change :=
  fun _ => Fields.codec_rereads arranges (by decide)
    ⟨Field.required_returns _ (LogLevel.faithful arranges _),
      Field.required_returns _ (Codec.text_faithful arranges _), trivial⟩ rfl

/-! ## Languages, kinds of symbols and settings -/

/-- Every kind of symbols with a name is found under it. -/
theorem SymbolKind.find?_name {kind : SymbolKind} (among : kind ∈ named) :
    List.lookup kind.name table = some kind := by
  have found : ∀ kind ∈ named, List.lookup kind.name table = some kind := by decide
  exact found kind among

/-- A kind of symbols with a name is written as that. -/
theorem SymbolKind.encode_named {rule : PayloadRule} {kind : SymbolKind} (among : kind ∈ named) :
    (codecWith rule).encode kind = .string kind.name := by
  cases kind with
  | unknown code => simp [named] at among
  | _ => rfl

section Settings

variable (arranges : Json.Arranges change) (rule : PayloadRule)

include arranges

/-- Languages are read as they were written. -/
theorem Language.faithful : Language.codec.Faithful change :=
  Codec.variants_faithful arranges fun language => by cases language <;> rfl

/-- Kinds of symbols are read as they were written, with or without a name. -/
theorem SymbolKind.faithful : (SymbolKind.codecWith rule).Faithful change := by
  intro kind
  rcases kind.named_or_unknown with among | ⟨code, rfl⟩
  · rw [Codec.Rereads, encode_named among, arranges.string]
    simp only [codecWith, Tagged.decode, find?_name among, PayloadRule.check, Except.map]
  · have written : (codecWith rule).encode (.unknown code) =
        .object [(unknownName, .natural code.toNat)] := rfl
    have unnamed : List.lookup unknownName table = none := by decide
    have number := Codec.unsigned32_faithful arranges code
    rw [Codec.Rereads, written, arranges.single]
    simp only [codecWith, Tagged.decode, unnamed, if_true]
    exact congrArg (Except.map SymbolKind.unknown) number

/-- Forms of reports are read as they were written. -/
theorem ReportFormat.faithful : (ReportFormat.codecWith rule).Faithful change :=
  Codec.variants_faithful arranges fun format => by cases format <;> rfl

/-- Choices of a server are read as they were written. -/
theorem ServerChoice.faithful : ServerChoice.codec.Faithful change := by
  have text (name : String) (value : Option String) :
      (Field.nullable name .text).Returns change value :=
    Field.nullable_returns name arranges Codec.text_refusesNull
      fun _ _ => Codec.text_faithful arranges _
  intro choice
  refine Fields.codec_rereads arranges (by decide) ⟨text _ _, ?_, text _ _, trivial⟩ rfl
  exact Field.defaulted_returns _ _ (Codec.list_faithful arranges (Codec.text_faithful arranges) _)

/-- Settings of a session are read as they were written. -/
theorem SessionSettings.faithful : SessionSettings.codec.Faithful change := by
  intro settings
  refine Fields.codec_rereads arranges (by decide) ⟨?_, ?_, ?_, trivial⟩ rfl
  · exact Field.defaulted_returns _ _ (Codec.unsigned64_faithful arranges _)
  · exact Field.defaulted_returns _ _ (Codec.unsigned64_faithful arranges _)
  · exact Field.defaulted_returns _ _ (Codec.flag_faithful arranges _)

/-- Rules for pairing are read as they were written. -/
theorem PairingRule.faithful : (PairingRule.codecWith rule).Faithful change := by
  have distinct : (fields rule).names.Nodup := by simp [fields, Fields.names, Field.defaulted]
  intro pairing
  refine Fields.codec_rereads arranges distinct ⟨?_, ?_, trivial⟩ rfl
  · exact Field.defaulted_returns _ _ (Codec.signed64_faithful arranges _)
  · exact Field.defaulted_returns _ _
      (Codec.list_faithful arranges (SymbolKind.faithful arranges rule) _)

/-- Settings of a report are read as they were written. -/
theorem ReportSettings.faithful : (ReportSettings.codecWith rule).Faithful change := by
  have distinct : (fields rule).names.Nodup := by simp [fields, Fields.names, Field.defaulted]
  intro settings
  refine Fields.codec_rereads arranges distinct ⟨?_, trivial⟩ rfl
  exact Field.defaulted_returns _ _ (ReportFormat.faithful arranges rule _)

/-- Settings are read as they were written, section by section. -/
theorem Settings.faithful : (Settings.codecWith rule).Faithful change := by
  have distinct : (fields rule).names.Nodup := by simp [fields, Fields.names, Field.defaulted]
  intro settings
  refine Fields.codec_rereads arranges distinct ⟨?_, ?_, ?_, ?_, trivial⟩ rfl
  · exact Field.defaulted_returns _ _ (ServerChoice.faithful arranges _)
  · exact Field.defaulted_returns _ _ (SessionSettings.faithful arranges _)
  · exact Field.defaulted_returns _ _ (PairingRule.faithful arranges rule _)
  · exact Field.defaulted_returns _ _ (ReportSettings.faithful arranges rule _)

end Settings

/-! ## The greeting -/

/-- Introductions of a server are read as they were written. -/
theorem ServerInfo.faithful (arranges : Json.Arranges change) :
    ServerInfo.codec.Faithful change :=
  fun _ => Fields.codec_rereads arranges (by decide)
    ⟨Field.required_returns _ (Codec.text_faithful arranges _),
      Field.optional_returns _ arranges Codec.text_refusesNull
        (fun _ _ => Codec.text_faithful arranges _), trivial⟩ rfl

namespace ServerCapabilities

/-- The entries of an offer as they are written. -/
def entries (offer : ServerCapabilities) : List (String × Json) :=
  (offer.symbolProvider.toList.map fun value => (symbolEntry, value)) ++
    (offer.foldingProvider.toList.map fun value => (foldingEntry, value)) ++ offer.others

/-- An offer as it is read: no entry with a name of its own is `null` or stands among the
others. -/
structure Tidy (offer : ServerCapabilities) : Prop where
  symbol : offer.symbolProvider ≠ some .null
  folding : offer.foldingProvider ≠ some .null
  others : ∀ member ∈ offer.others, member.1 ≠ symbolEntry ∧ member.1 ≠ foldingEntry

variable {offer : ServerCapabilities} {members : List (String × Json)} {source : Json}

/-- The entries without a name of their own are those that are left when the others are
taken out. -/
theorem others_eq_without (members : List (String × Json)) :
    (members.filter fun member => member.1 != symbolEntry && member.1 != foldingEntry) =
      Keyed.without symbolEntry (Keyed.without foldingEntry members) :=
  List.filter_filter.symm

/-- An entry that is there is not `null`. -/
theorem present?_ne_null (name : String) : present? name members ≠ some .null := by
  rw [present?]
  split
  · exact nofun
  · next notNull => exact notNull

/-- An entry that is found and not `null` is there. -/
theorem present?_of_lookup {name : String} {entry : Option Json}
    (found : List.lookup name members = entry) (notNull : entry ≠ some .null) :
    present? name members = entry := by
  subst found
  rw [present?]
  split
  · next null => exact absurd null notNull
  · rfl

/-- An offer is read from the entries of an object. -/
theorem exists_of_decode (read : codec.decode source = .ok offer) :
    ∃ members, source = .object members ∧
      offer = ⟨present? symbolEntry members, present? foldingEntry members,
        Keyed.without symbolEntry (Keyed.without foldingEntry members)⟩ := by
  cases source with
  | object members =>
    refine ⟨members, rfl, ?_⟩
    rw [← others_eq_without]
    exact (Except.ok.inj read).symm
  | null | bool | number | string | array => cases read

/-- An offer that was read is tidy. -/
theorem tidy_of_decode (read : codec.decode source = .ok offer) : offer.Tidy := by
  obtain ⟨members, rfl, rfl⟩ := exists_of_decode read
  refine ⟨present?_ne_null _, present?_ne_null _, fun member among => ?_⟩
  obtain ⟨left, notSymbol⟩ := Keyed.mem_without.mp among
  exact ⟨notSymbol, (Keyed.mem_without.mp left).2⟩

/-- An object is read as a tidy offer if its entries are found in the right places. -/
theorem Tidy.decode (tidy : offer.Tidy)
    (symbol : List.lookup symbolEntry members = offer.symbolProvider)
    (folding : List.lookup foldingEntry members = offer.foldingProvider)
    (others : Keyed.without symbolEntry (Keyed.without foldingEntry members) = offer.others) :
    codec.decode (.object members) = .ok offer := by
  simp only [codec, others_eq_without]
  rw [present?_of_lookup symbol tidy.symbol, present?_of_lookup folding tidy.folding, others]

/-- The names of the two entries differ. -/
theorem foldingEntry_ne_symbolEntry : foldingEntry ≠ symbolEntry := by decide

/-- The others of a tidy offer hold none of the two entries. -/
theorem Tidy.lookup_others (tidy : offer.Tidy) {name : String}
    (reserved : name = symbolEntry ∨ name = foldingEntry) :
    List.lookup name offer.others = Option.none := by
  refine Keyed.lookup_eq_none_iff.mpr fun named => ?_
  obtain ⟨member, among, rfl⟩ := List.mem_map.mp named
  obtain ⟨notSymbol, notFolding⟩ := tidy.others _ among
  exact reserved.elim notSymbol notFolding

/-- What a tidy offer is written with under the name of the entry about symbols. -/
theorem Tidy.lookup_symbol (tidy : offer.Tidy) :
    List.lookup symbolEntry offer.entries = offer.symbolProvider := by
  rw [entries, List.lookup_append, List.lookup_append, tidy.lookup_others (.inl rfl)]
  cases offer.symbolProvider <;> cases offer.foldingProvider <;>
    simp [Keyed.lookup_cons, foldingEntry_ne_symbolEntry]

/-- What a tidy offer is written with under the name of the entry about folding. -/
theorem Tidy.lookup_folding (tidy : offer.Tidy) :
    List.lookup foldingEntry offer.entries = offer.foldingProvider := by
  rw [entries, List.lookup_append, List.lookup_append, tidy.lookup_others (.inr rfl)]
  cases offer.symbolProvider <;> cases offer.foldingProvider <;>
    simp [Keyed.lookup_cons, foldingEntry_ne_symbolEntry.symm]

/-- What a tidy offer is written with besides the two entries. -/
theorem Tidy.without_entries (tidy : offer.Tidy) :
    Keyed.without symbolEntry (Keyed.without foldingEntry offer.entries) = offer.others := by
  have kept : offer.others.filter (fun member =>
      member.1 != symbolEntry && member.1 != foldingEntry) = offer.others := by
    rw [List.filter_eq_self]
    simpa using tidy.others
  rw [← others_eq_without, entries, List.filter_append, List.filter_append, kept]
  cases offer.symbolProvider <;> cases offer.foldingProvider <;> simp

/-- An offer that was read is read again as it was written. -/
theorem keeps_written : codec.Keeps id := by
  intro source offer _ read
  have tidy := tidy_of_decode read
  exact tidy.decode tidy.lookup_symbol tidy.lookup_folding tidy.without_entries

/-- A tidy offer repeats no name if its others do not. -/
theorem Tidy.nodup_entries (tidy : offer.Tidy) (distinct : (offer.others.map Prod.fst).Nodup) :
    (offer.entries.map Prod.fst).Nodup := by
  have notSymbol : symbolEntry ∉ offer.others.map Prod.fst := by
    simpa using fun value among => (tidy.others _ among).1 rfl
  have notFolding : foldingEntry ∉ offer.others.map Prod.fst := by
    simpa using fun value among => (tidy.others _ among).2 rfl
  rw [entries]
  cases offer.symbolProvider <;> cases offer.foldingProvider <;>
    simp_all [foldingEntry_ne_symbolEntry.symm]

/-- Every entry that is written was there when the offer was read. -/
theorem mem_of_mem_entries (read : codec.decode (.object members) = .ok offer)
    {member : String × Json} (written : member ∈ offer.entries) : member ∈ members := by
  obtain ⟨_, same, rfl⟩ := exists_of_decode read
  cases same
  have there {name : String} {value : Json} (present : present? name members = some value) :
      (name, value) ∈ members := by
    rw [present?] at present
    split at present
    · cases present
    · exact Keyed.mem_of_lookup present
  rcases List.mem_append.mp written with own | other
  · rcases List.mem_append.mp own with symbol | folding
    · obtain ⟨value, present, rfl⟩ := List.mem_map.mp symbol
      exact there (Option.mem_toList.mp present)
    · obtain ⟨value, present, rfl⟩ := List.mem_map.mp folding
      exact there (Option.mem_toList.mp present)
  · exact (Keyed.mem_without.mp (Keyed.mem_without.mp other).1).1

/-- An offer that was read from an object in order is read again after it was put into
order. -/
theorem keeps_sorted : codec.Keeps Json.sorted := by
  intro source offer ordered read
  obtain ⟨members, rfl, same⟩ := exists_of_decode read
  have tidy := tidy_of_decode read
  have inOrder : Keyed.Increasing members := by
    rw [Json.sorted, Json.object.injEq] at ordered
    exact ordered ▸ Keyed.increasing_sort _
  have left : Keyed.Increasing offer.others := by
    rw [same]
    exact inOrder.sublist (List.filter_sublist.trans List.filter_sublist)
  have distinct := tidy.nodup_entries left.nodup
  have written : Json.sorted (codec.encode offer) = .object (Keyed.sort offer.entries) := by
    have values := Json.arranges_sorted.inner members ordered
    have encoded : codec.encode offer = .object offer.entries := rfl
    rw [encoded, Json.sorted, Json.sortedMembers_eq_self fun member among =>
      values member (mem_of_mem_entries read among)]
  rw [Codec.Rereads, written]
  refine tidy.decode ?_ ?_ ?_
  · rw [Keyed.lookup_sort distinct, tidy.lookup_symbol]
  · rw [Keyed.lookup_sort distinct, tidy.lookup_folding]
  · -- both lists are in order and hold the same under every name
    have moved := Keyed.lookup_without_congr symbolEntry
      (Keyed.lookup_without_congr foldingEntry (Keyed.lookup_sort distinct))
    rw [tidy.without_entries] at moved
    refine Keyed.Increasing.ext ?_ left moved
    exact (Keyed.increasing_sort _).sublist (List.filter_sublist.trans List.filter_sublist)

/-- No offer at all is read again. -/
theorem rereads_none (arranges : Json.Arranges change) : codec.Rereads change .none := by
  obtain ⟨arranged, changed, same⟩ := arranges.object [] List.nodup_nil
  obtain rfl : arranged = [] := same.eq_nil
  exact congrArg codec.decode changed

end ServerCapabilities

/-- A greeting that was read is read again if the offer in it is. -/
theorem Greeting.keeps (arranges : Json.Arranges change)
    (offers : ServerCapabilities.codec.Keeps change) : Greeting.codec.Keeps change := by
  intro source greeting ordered read
  obtain ⟨⟨capabilities, info, ⟨⟩⟩, decoded, rfl⟩ := Fields.codec_decode_eq_ok_iff.mp read
  obtain ⟨offered, -⟩ := Fields.admits_of_decode arranges ordered decoded
  refine Fields.codec_rereads arranges (by decide) ⟨?_, ?_, trivial⟩ rfl
  · refine Field.defaulted_returns _ _ ?_
    rcases offered with ⟨part, inOrder, readPart⟩ | absent | absent
    · exact offers part _ inOrder readPart
    · cases absent
      exact ServerCapabilities.rereads_none arranges
    · cases absent
  · refine Field.optional_returns _ arranges Fields.codec_refusesNull fun given _ => ?_
    exact ServerInfo.faithful arranges given

/-! ## Payloads -/

/-- The types of payloads. -/
inductive PayloadType where
  | position
  | range
  | foldingRange
  | foldingKind
  | location
  | symbolInformation
  | documentSymbol
  | outline
  | capabilities
  | greeting
  | serverInfo
  | logMessage
  | symbolKind
  | language
  | reportFormat
  | settings
deriving DecidableEq, Repr

namespace PayloadType

/-- The values of a type of payloads. -/
def Value : PayloadType → Type
  | .position => Position
  | .range => Range
  | .foldingRange => FoldingRange
  | .foldingKind => FoldingKind
  | .location => Location
  | .symbolInformation => SymbolInformation
  | .documentSymbol => DocumentSymbol
  | .outline => Outline
  | .capabilities => ServerCapabilities
  | .greeting => Greeting
  | .serverInfo => ServerInfo
  | .logMessage => LogMessage
  | .symbolKind => SymbolKind
  | .language => Language
  | .reportFormat => ReportFormat
  | .settings => Settings

/-- Reading and writing payloads of a type. -/
def codec : (type : PayloadType) → Codec type.Value
  | .position => Position.codec
  | .range => Range.codec
  | .foldingRange => FoldingRange.codec
  | .foldingKind => FoldingKind.codec
  | .location => Location.codec
  | .symbolInformation => SymbolInformation.codec
  | .documentSymbol => DocumentSymbol.codec
  | .outline => Outline.codec
  | .capabilities => ServerCapabilities.codec
  | .greeting => Greeting.codec
  | .serverInfo => ServerInfo.codec
  | .logMessage => LogMessage.codec
  | .symbolKind => SymbolKind.codec
  | .language => Language.codec
  | .reportFormat => ReportFormat.codec
  | .settings => Settings.codec

/-- Payloads that were read are read again if offers are. -/
theorem keeps (arranges : Json.Arranges change) (offers : ServerCapabilities.codec.Keeps change)
    (type : PayloadType) : type.codec.Keeps change := by
  cases type with
  | position => exact (Position.faithful arranges).keeps
  | range => exact (Range.faithful arranges).keeps
  | foldingRange => exact (FoldingRange.faithful arranges).keeps
  | foldingKind => exact (FoldingKind.faithful arranges).keeps
  | location => exact (Location.faithful arranges).keeps
  | symbolInformation => exact (SymbolInformation.faithful arranges).keeps
  | documentSymbol => exact (DocumentSymbol.faithful arranges).keeps
  | outline => exact Outline.keeps arranges
  | capabilities => exact offers
  | greeting => exact Greeting.keeps arranges offers
  | serverInfo => exact (ServerInfo.faithful arranges).keeps
  | logMessage => exact (LogMessage.faithful arranges).keeps
  | symbolKind => exact (SymbolKind.faithful arranges .json).keeps
  | language => exact (Language.faithful arranges).keeps
  | reportFormat => exact (ReportFormat.faithful arranges .json).keeps
  | settings => exact (Settings.faithful arranges .json).keeps

/-- The codecs of payloads are stable. -/
theorem stable (type : PayloadType) : type.codec.Stable := fun source value read =>
  keeps Json.arranges_id ServerCapabilities.keeps_written type source value rfl read

/-- Whatever a payload was read from, it is read again from what it is written as. If the
members of what it was read from were in order, as those of every document are, it is also
read again after what it is written as was put into order. -/
theorem payload_is_reread (type : PayloadType) (source : Json) (value : type.Value)
    (read : type.codec.decode source = .ok value) :
    type.codec.decode (type.codec.encode value) = .ok value ∧
      (source.sorted = source →
        type.codec.decode (type.codec.encode value).sorted = .ok value) := by
  refine ⟨type.stable source value read, fun ordered => ?_⟩
  exact keeps Json.arranges_sorted ServerCapabilities.keeps_sorted type source value ordered read

/-- A document with trees of symbols that is written as no program would: objects and arrays
of fields mixed, members that are `null` or unknown, and a list of children that is empty. -/
def unusualOutline : Json :=
  .array [.array [.string "Shape", .null, .natural 5,
    .array [.array [.natural 0, .natural 0], .array [.natural 9, .natural 1]],
    .array [.array [.natural 0, .natural 6],
      .object [("character", .natural 11), ("line", .natural 0)]],
    .array [.object [("children", .array []), ("deprecated", .bool false), ("detail", .null),
      ("kind", .natural 4294967295), ("name", .string "area"),
      ("range", .array [.array [.natural 1, .natural 2], .array [.natural 3, .natural 4]]),
      ("selectionRange", .array [.array [.natural 1, .natural 2], .array [.natural 1, .natural 2]])]]]]

/-- The trees in the document. -/
def unusualTrees : Outline :=
  .nested [.node "Shape" none 5 (.ofBounds 0 0 9 1) (.ofBounds 0 6 0 11)
    (some [.node "area" none 4294967295 (.ofBounds 1 2 3 4) (.ofBounds 1 2 1 2) (some [])])]

/-- The trees are read again from what they are written as, in either order. -/
theorem reread_of_unusualOutline :
    PayloadType.outline.codec.decode unusualOutline = .ok unusualTrees ∧
      unusualOutline.sorted = unusualOutline ∧
      PayloadType.outline.codec.decode (PayloadType.outline.codec.encode unusualTrees) =
        .ok unusualTrees ∧
      PayloadType.outline.codec.decode (PayloadType.outline.codec.encode unusualTrees).sorted =
        .ok unusualTrees := by
  have read : PayloadType.outline.codec.decode unusualOutline = .ok unusualTrees := by rfl
  have ordered : unusualOutline.sorted = unusualOutline := by rfl
  obtain ⟨written, arranged⟩ := payload_is_reread .outline unusualOutline unusualTrees read
  exact ⟨read, ordered, written, arranged ordered⟩

end PayloadType

end FoldAtlas
