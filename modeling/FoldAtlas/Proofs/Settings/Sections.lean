import FoldAtlas.Proofs.Settings.Layers

/-!
# Settings of a section

A section of a settings document is read setting by setting, and it does not matter to a
setting what stands for the others: as a table the section gives a setting under its key, as
an array at its place, and a section that is not there leaves every setting at its standard
value (`Fields.readsParts_of_reads`). Each of the nine settings is one of these
(`Settings.standsIn_of_ofEntries`).
-/

namespace FoldAtlas

namespace Fields

/-- Whether the fields of a record, of which the first has a place, are read as some values
from a section that may be there. -/
def ReadsParts (body : Option Toml) : {ρ σ : Type} → Fields ρ σ → (place : Nat) → ρ → Prop
  | _, _, .nil, _, _ => True
  | _, _, .cons field rest, place, (value, values) =>
    field.Reads ((body.bind (Toml.part? place field.name)).map Toml.toJson) value ∧
      rest.ReadsParts body (place + 1) values

variable {ρ σ : Type} {fields : Fields ρ σ} {values : ρ} {place : Nat}

/-- Members are read from a table by their names, wherever the fields are placed. -/
theorem readsParts_table {entries : Toml.Entries}
    (reads : fields.Reads (List.lookup · (Toml.entriesToJson entries)) values) :
    fields.ReadsParts (some (.table entries)) place values := by
  induction fields generalizing place with
  | nil => trivial
  | cons field rest ih =>
    obtain ⟨value, values⟩ := values
    obtain ⟨here, others⟩ := reads
    exact ⟨Toml.lookup_entriesToJson field.name entries ▸ here, ih others⟩

/-- Items are read from an array by the places of the fields. -/
theorem readsParts_array {items : List Toml}
    (reads : fields.ReadsInOrder ((Toml.itemsToJson items).drop place) values) :
    fields.ReadsParts (some (.array items)) place values := by
  induction fields generalizing place with
  | nil => trivial
  | cons field rest ih =>
    obtain ⟨value, values⟩ := values
    obtain ⟨here, others⟩ := reads
    rw [List.head?_drop, Toml.itemsToJson_eq_map, List.getElem?_map] at here
    rw [List.tail_drop] at others
    exact ⟨here, ih others⟩

/-- A section is read from its parts. -/
theorem readsParts_of_decode {type : String} {body : Toml} (distinct : fields.names.Nodup)
    (ordered : body.Ordered) (decoded : fields.decode type body.toJson = .ok values) :
    fields.ReadsParts (some body) 0 values := by
  cases body with
  | table entries =>
    have names := Toml.nodup_entriesToJson ordered.increasing
    exact readsParts_table ((decode_object_iff distinct names).mp decoded)
  | array items => exact readsParts_array (readsInOrder_of_decode decoded)
  | string | integer | real | boolean | dateTime => cases decoded

/-- A section that may be left out is read from its parts when its standard is made of the
standard values of its fields. -/
theorem readsParts_of_reads {α : Type} {heading type : String} {make : ρ → α} {parts : α → ρ}
    {standard result : α} {body : Option Toml} (distinct : fields.names.Nodup)
    (leftOut : ∃ values, make values = standard ∧ fields.ReadsParts none 0 values)
    (ordered : ∀ source ∈ body, source.Ordered)
    (reads : (Field.defaulted heading (fields.codec type make parts) standard).Reads
      (body.map Toml.toJson) result) :
    ∃ values, make values = result ∧ fields.ReadsParts body 0 values := by
  cases body with
  | none =>
    rcases reads with same | never
    · exact WhenAbsent.otherwise.inj same ▸ leftOut
    · cases never
  | some source =>
    obtain ⟨values, decoded, made⟩ := codec_decode_eq_ok_iff.mp reads
    exact ⟨values, made, readsParts_of_decode distinct (ordered source rfl) decoded⟩

end Fields

namespace Setting

/-- The program of the server. -/
def command : Setting (Option String) :=
  ⟨"server", 0, "command", .optional .text, none, .of_refuses fun _ _ => nofun⟩

/-- The arguments of the program. -/
def args : Setting (List String) :=
  ⟨"server", 1, "args", Codec.text.list, [], .of_refuses fun _ _ => nofun⟩

/-- The identifier of the language. -/
def languageId : Setting (Option String) :=
  ⟨"server", 2, "language_id", .optional .text, none, .of_refuses fun _ _ => nofun⟩

/-- The limit of a call. -/
def timeout : Setting UInt64 :=
  ⟨"lsp", 0, "timeout_secs", .unsigned64, 30, .of_refuses fun _ _ => nofun⟩

/-- The limit of the end of the session. -/
def shutdownTimeout : Setting UInt64 :=
  ⟨"lsp", 1, "shutdown_timeout_secs", .unsigned64, 5, .of_refuses fun _ _ => nofun⟩

/-- Whether the server is asked to end. -/
def gracefulShutdown : Setting Bool :=
  ⟨"lsp", 2, "graceful_shutdown", .flag, true, .of_refuses fun _ _ => nofun⟩

/-- What is added to the end of a region. -/
def endLineOffset : Setting Int64 :=
  ⟨"correlation", 0, "end_line_offset", .signed64, 1, .of_refuses fun _ _ => nofun⟩

/-- The kinds of symbols that have no region. -/
def excludedKinds : Setting (List SymbolKind) :=
  ⟨"correlation", 1, "excluded_kinds", (SymbolKind.codecWith .toml).list, [.variable],
    .of_refuses fun _ _ => nofun⟩

/-- The form of the report. -/
def format : Setting ReportFormat :=
  ⟨"output", 0, "format", ReportFormat.codecWith .toml, .text, Codec.variants_laysOver⟩

variable {α : Type} {setting : Setting α} {field : Field α} {value : α}

/-- Whether a field is the one that a setting is read from. -/
def IsOf (setting : Setting α) (field : Field α) : Prop :=
  field.codec = setting.codec ∧
    (field.absent = .otherwise setting.standard ∨ field.absent = .inObject setting.standard)

/-- A setting is read as its field is. -/
theorem Reads.of_field {given : Option Toml} (same : setting.IsOf field)
    (reads : field.Reads (given.map Toml.toJson) value) : setting.Reads given value := by
  obtain ⟨sameCodec, absent⟩ := same
  cases given with
  | some source =>
    rw [Setting.Reads, ← sameCodec]
    exact reads
  | none =>
    rcases reads with given | given <;> rcases absent with stated | stated
    · exact WhenAbsent.otherwise.inj (given.symm.trans stated)
    · cases given.symm.trans stated
    · cases given.symm.trans stated
    · exact WhenAbsent.inObject.inj (given.symm.trans stated)

/-- Whether a setting is read from what stands for it in a section. -/
def StandsIn (setting : Setting α) (body : Option Toml) (value : α) : Prop :=
  setting.Reads (body.bind (Toml.part? setting.place setting.key)) value

end Setting

section Sections

variable {body : Option Toml}

/-- The settings of a server are read one by one. -/
theorem ServerChoice.standsIn {heading : String} {server : ServerChoice}
    (ordered : ∀ source ∈ body, source.Ordered)
    (reads : (Field.defaulted heading codec standard).Reads (body.map Toml.toJson) server) :
    Setting.command.StandsIn body server.command ∧ Setting.args.StandsIn body server.args ∧
      Setting.languageId.StandsIn body server.languageId := by
  have leftOut : fields.ReadsParts none 0 (none, [], none, ()) :=
    ⟨.inr rfl, .inl rfl, .inr rfl, trivial⟩
  obtain ⟨⟨_, _, _, _⟩, rfl, command, args, languageId, -⟩ :=
    Fields.readsParts_of_reads (by decide) ⟨_, rfl, leftOut⟩ ordered reads
  exact ⟨.of_field ⟨rfl, .inr rfl⟩ command, .of_field ⟨rfl, .inl rfl⟩ args,
    .of_field ⟨rfl, .inr rfl⟩ languageId⟩

/-- The settings of a session are read one by one. -/
theorem SessionSettings.standsIn {heading : String} {session : SessionSettings}
    (ordered : ∀ source ∈ body, source.Ordered)
    (reads : (Field.defaulted heading codec standard).Reads (body.map Toml.toJson) session) :
    Setting.timeout.StandsIn body session.timeoutSeconds ∧
      Setting.shutdownTimeout.StandsIn body session.shutdownTimeoutSeconds ∧
        Setting.gracefulShutdown.StandsIn body session.gracefulShutdown := by
  have leftOut : fields.ReadsParts none 0 (30, 5, true, ()) :=
    ⟨.inl rfl, .inl rfl, .inl rfl, trivial⟩
  obtain ⟨⟨_, _, _, _⟩, rfl, timeout, shutdown, graceful, -⟩ :=
    Fields.readsParts_of_reads (by decide) ⟨_, rfl, leftOut⟩ ordered reads
  exact ⟨.of_field ⟨rfl, .inl rfl⟩ timeout, .of_field ⟨rfl, .inl rfl⟩ shutdown,
    .of_field ⟨rfl, .inl rfl⟩ graceful⟩

/-- The settings of a pairing are read one by one. -/
theorem PairingRule.standsIn {heading : String} {pairing : PairingRule}
    (ordered : ∀ source ∈ body, source.Ordered)
    (reads : (Field.defaulted heading (codecWith .toml) standard).Reads (body.map Toml.toJson)
      pairing) :
    Setting.endLineOffset.StandsIn body pairing.endLineOffset ∧
      Setting.excludedKinds.StandsIn body pairing.excludedKinds := by
  have leftOut : (fields .toml).ReadsParts none 0 (1, [.variable], ()) :=
    ⟨.inl rfl, .inl rfl, trivial⟩
  obtain ⟨⟨_, _, _⟩, rfl, offset, kinds, -⟩ :=
    Fields.readsParts_of_reads (by decide) ⟨_, rfl, leftOut⟩ ordered reads
  exact ⟨.of_field ⟨rfl, .inl rfl⟩ offset, .of_field ⟨rfl, .inl rfl⟩ kinds⟩

/-- The setting of a report is read. -/
theorem ReportSettings.standsIn {heading : String} {output : ReportSettings}
    (ordered : ∀ source ∈ body, source.Ordered)
    (reads : (Field.defaulted heading (codecWith .toml) standard).Reads (body.map Toml.toJson)
      output) : Setting.format.StandsIn body output.format := by
  have leftOut : (fields .toml).ReadsParts none 0 (.text, ()) := ⟨.inl rfl, trivial⟩
  obtain ⟨⟨_, _⟩, rfl, format, -⟩ :=
    Fields.readsParts_of_reads (by decide) ⟨_, rfl, leftOut⟩ ordered reads
  exact .of_field ⟨rfl, .inl rfl⟩ format

end Sections

namespace Settings

/-- Whether something holds of every setting and the value that it has. -/
structure Each (holds : {α : Type} → Setting α → α → Prop) (settings : Settings) : Prop where
  command : holds .command settings.server.command
  args : holds .args settings.server.args
  languageId : holds .languageId settings.server.languageId
  timeout : holds .timeout settings.session.timeoutSeconds
  shutdownTimeout : holds .shutdownTimeout settings.session.shutdownTimeoutSeconds
  gracefulShutdown : holds .gracefulShutdown settings.session.gracefulShutdown
  endLineOffset : holds .endLineOffset settings.pairing.endLineOffset
  excludedKinds : holds .excludedKinds settings.pairing.excludedKinds
  format : holds .format settings.output.format

variable {settings : Settings} {entries : Toml.Entries}

/-- What follows for one setting follows for every one. -/
theorem Each.imp {before after : {α : Type} → Setting α → α → Prop}
    (follows : ∀ {α : Type} (setting : Setting α) (value : α),
      before setting value → after setting value)
    (each : settings.Each before) : settings.Each after where
  command := follows _ _ each.command
  args := follows _ _ each.args
  languageId := follows _ _ each.languageId
  timeout := follows _ _ each.timeout
  shutdownTimeout := follows _ _ each.shutdownTimeout
  gracefulShutdown := follows _ _ each.gracefulShutdown
  endLineOffset := follows _ _ each.endLineOffset
  excludedKinds := follows _ _ each.excludedKinds
  format := follows _ _ each.format

/-- Every setting of a table is read from what stands for it in its section. -/
theorem standsIn_of_ofEntries (ordered : Toml.Ordered (.table entries))
    (read : ofEntries entries = .ok settings) :
    settings.Each fun setting => setting.StandsIn (List.lookup setting.heading entries) := by
  have decoded : (codecWith .toml).decode (Toml.table entries).toJson = .ok settings := by
    rw [ofEntries] at read
    split at read
    · cases read
    · next whole => exact Except.ok.inj read ▸ whole
  obtain ⟨⟨server, session, pairing, output, _⟩, decodedFields, rfl⟩ :=
    Fields.codec_decode_eq_ok_iff.mp decoded
  have names := Toml.nodup_entriesToJson ordered.increasing
  have reads := (Fields.decode_object_iff (by decide) names).mp decodedFields
  have look : (List.lookup · (Toml.entriesToJson entries)) =
      fun heading => (List.lookup heading entries).map Toml.toJson :=
    funext fun heading => Toml.lookup_entriesToJson heading entries
  rw [look] at reads
  obtain ⟨serverReads, sessionReads, pairingReads, outputReads, -⟩ := reads
  have sectionOrdered {heading : String} : ∀ body ∈ List.lookup heading entries, body.Ordered :=
    fun _ found => ordered.of_lookup found
  obtain ⟨command, args, languageId⟩ := ServerChoice.standsIn sectionOrdered serverReads
  obtain ⟨timeout, shutdown, graceful⟩ := SessionSettings.standsIn sectionOrdered sessionReads
  obtain ⟨offset, kinds⟩ := PairingRule.standsIn sectionOrdered pairingReads
  have format := ReportSettings.standsIn sectionOrdered outputReads
  exact ⟨command, args, languageId, timeout, shutdown, graceful, offset, kinds, format⟩

end Settings

end FoldAtlas
