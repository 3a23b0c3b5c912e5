import FoldAtlas.CommandLine.Basic
import FoldAtlas.Proofs.Settings.Sections

/-!
# Which source is in force

Settings come from the command line, the environment, the file of the project and the file of
the user, and each of them is that of the first of these that gives it, whatever the others
give for other settings (`Settings.prevails_of_sources`). The arguments of a server
alone also depend on whether the command line names a program.

A file gives a setting in its section, and there sections differ: only tables are mixed
setting by setting. A section of the project that is an array replaces that of the user, so
that a setting may be lost which only the file of the user gives, and a table without entries
in the place of a setting gives none (`Settings.files_do_not_always_take_turns`).
-/

namespace FoldAtlas

/-- Whether a setting has the value that the sources above the files give, or else the one
that it is read as in the files, of which the second is the upper one. -/
def Setting.InForce {α : Type} (setting : Setting α) (above : Option α)
    (base overlay : Toml.Entries) (value : α) : Prop :=
  match above with
  | some top => value = top
  | none => setting.Reads (setting.fromFiles? base overlay) value

/-- What is given above replaces what is read from the files. -/
theorem Setting.inForce_getD {α : Type} {setting : Setting α} {base overlay : Toml.Entries}
    {value : α} (read : setting.Reads (setting.fromFiles? base overlay) value)
    (above : Option α) : setting.InForce above base overlay (above.getD value) := by
  cases above with
  | none => exact read
  | some top => rfl

/-- The entries of a settings file are in order. -/
theorem SettingsFile.ordered_of_entries {file : SettingsFile} {origin : SettingsOrigin}
    {entries : Toml.Entries} (read : file.entries origin = .ok entries) :
    Toml.Ordered (.table entries) := by
  rw [SettingsFile.entries] at read
  split at read
  · cases read
    exact .table .nil fun entry member => absurd member List.not_mem_nil
  · cases read
  · split at read
    · cases read
    · split at read
      · cases read
      · next readText =>
        cases read
        exact Toml.ordered_of_read? readText

/-- The file with a text. -/
def SettingsFile.ofText (path text : String) : SettingsFile :=
  ⟨path, some (.ok (Bytes.ofText text))⟩

/-- The entries of a file are those of its text. -/
theorem SettingsFile.entries_ofText {path text : String} {origin : SettingsOrigin}
    {entries : Toml.Entries} (read : Toml.read? text = some entries) :
    (SettingsFile.ofText path text).entries origin = .ok entries := by
  simp only [SettingsFile.entries, SettingsFile.ofText, Bytes.text?_ofText, read]

namespace Settings

variable {environment : Environment} {settings : Settings} {base overlay : Toml.Entries}

/-! ## The environment -/

/-- The program that an environment names, which is not blank. -/
def serverOf? (environment : Environment) : Option String :=
  (List.lookup serverVariable environment).filter fun name => trim name.toList ≠ []

/-- The limit of a call that an environment sets. -/
def timeoutOf? (environment : Environment) : Option UInt64 :=
  (List.lookup timeoutVariable environment).bind fun value => unsigned64? (trim value.toList)

/-- The form of the report that an environment sets. -/
def formatOf? (environment : Environment) : Option ReportFormat :=
  (List.lookup formatVariable environment).bind formatOfName?

/-- Whether what an environment sets can be understood. -/
structure IsValid (environment : Environment) : Prop where
  /-- The limit is a number of seconds. -/
  timeout : ∀ value ∈ List.lookup timeoutVariable environment,
    (unsigned64? (trim value.toList)).isSome
  /-- The form is one of the known forms. -/
  format : ∀ value ∈ List.lookup formatVariable environment, (formatOfName? value).isSome

/-- Settings with what an environment sets in the place of theirs. -/
def under (environment : Environment) (settings : Settings) : Settings where
  server :=
    { settings.server with command := (serverOf? environment).or settings.server.command }
  session :=
    { settings.session with
      timeoutSeconds := (timeoutOf? environment).getD settings.session.timeoutSeconds }
  pairing := settings.pairing
  output := { settings.output with format := (formatOf? environment).getD settings.output.format }

/-- An environment names the program when its name is not blank. -/
theorem withServerOf_eq (settings : Settings) :
    settings.withServerOf environment =
      { settings with
        server :=
          { settings.server with
            command := (serverOf? environment).or settings.server.command } } := by
  rw [withServerOf, serverOf?]
  cases List.lookup serverVariable environment with
  | none => rfl
  | some name => by_cases blank : trim name.toList = [] <;> simp [blank, Option.filter]

/-- A valid environment sets the limit of a call. -/
theorem withTimeoutOf_eq (valid : IsValid environment) (settings : Settings) :
    settings.withTimeoutOf environment =
      .ok { settings with
        session :=
          { settings.session with
            timeoutSeconds :=
              (timeoutOf? environment).getD settings.session.timeoutSeconds } } := by
  rw [withTimeoutOf, timeoutOf?]
  cases given : List.lookup timeoutVariable environment with
  | none => rfl
  | some value =>
    obtain ⟨seconds, understood⟩ := Option.isSome_iff_exists.mp (valid.timeout value given)
    simp only [understood, Option.bind_some, Option.getD_some]

/-- A valid environment sets the form of the report. -/
theorem withFormatOf_eq (valid : IsValid environment) (settings : Settings) :
    settings.withFormatOf environment =
      .ok { settings with
        output :=
          { settings.output with
            format := (formatOf? environment).getD settings.output.format } } := by
  rw [withFormatOf, formatOf?]
  cases given : List.lookup formatVariable environment with
  | none => rfl
  | some value =>
    obtain ⟨format, understood⟩ := Option.isSome_iff_exists.mp (valid.format value given)
    simp only [understood, Option.bind_some, Option.getD_some]

/-- A valid environment has the last word. -/
theorem withEnvironment_eq (valid : IsValid environment) (settings : Settings) :
    settings.withEnvironment environment = .ok (settings.under environment) := by
  rw [withEnvironment, withTimeoutOf_eq valid, withServerOf_eq]
  exact withFormatOf_eq valid _

/-! ## All sources -/

/-- Whether every setting has the value of the first source that gives it: the command line,
the environment, the file of the project and the file of the user, in this order. -/
structure Prevails (line : CommandLine) (environment : Environment)
    (base overlay : Toml.Entries) (settings : Settings) : Prop where
  command : Setting.command.InForce ((line.server.or (serverOf? environment)).map some)
    base overlay settings.server.command
  /-- A program on the command line comes with its arguments, even with none. -/
  args : Setting.args.InForce
    (if line.server.isSome ∨ line.serverArgs ≠ [] then some line.serverArgs else none)
    base overlay settings.server.args
  languageId : Setting.languageId.InForce (line.languageId.map some) base overlay
    settings.server.languageId
  timeout : Setting.timeout.InForce (line.timeout.or (timeoutOf? environment)) base overlay
    settings.session.timeoutSeconds
  shutdownTimeout : Setting.shutdownTimeout.InForce none base overlay
    settings.session.shutdownTimeoutSeconds
  gracefulShutdown : Setting.gracefulShutdown.InForce none base overlay
    settings.session.gracefulShutdown
  endLineOffset : Setting.endLineOffset.InForce none base overlay settings.pairing.endLineOffset
  excludedKinds : Setting.excludedKinds.InForce none base overlay settings.pairing.excludedKinds
  format : Setting.format.InForce (line.format.or (formatOf? environment)) base overlay
    settings.output.format

/-- The settings of two documents of which one is laid over the other are those that the
documents give. -/
theorem reads_fromFiles_of_ofEntries (baseOrdered : Toml.Ordered (.table base))
    (overlayOrdered : Toml.Ordered (.table overlay))
    (read : ofEntries (Toml.overlayEntries base overlay) = .ok settings) :
    settings.Each fun setting => setting.Reads (setting.fromFiles? base overlay) := by
  have mixedOrdered : Toml.Ordered (.table (Toml.overlayEntries base overlay)) :=
    baseOrdered.overlayEntries overlayOrdered
  exact (standsIn_of_ofEntries mixedOrdered read).imp fun _ _ =>
    Setting.reads_fromFiles baseOrdered overlayOrdered

/-- What is given first replaces even what is no value. -/
theorem getD_map_some {α : Type} (given other : Option α) :
    (given.map some).getD other = given.or other := by
  cases given <;> rfl

/-- Over settings that are read from the files, an environment and a command line leave every
setting with the value of the first source that gives it. -/
theorem Each.prevails (line : CommandLine) (environment : Environment)
    (each : settings.Each fun setting => setting.Reads (setting.fromFiles? base overlay)) :
    Prevails line environment base overlay (line.override (settings.under environment)) where
  command := by
    have first := Setting.inForce_getD each.command
      ((line.server.or (serverOf? environment)).map some)
    rwa [getD_map_some, Option.or_assoc] at first
  args := by
    have replaced : (line.overrideServer (settings.under environment).server).args =
        (if line.server.isSome ∨ line.serverArgs ≠ [] then some line.serverArgs
          else none).getD settings.server.args := by
      rw [CommandLine.overrideServer]
      split <;> rfl
    exact replaced ▸ Setting.inForce_getD each.args _
  languageId := by
    have first := Setting.inForce_getD each.languageId (line.languageId.map some)
    rwa [getD_map_some] at first
  timeout := by
    have first := Setting.inForce_getD each.timeout (line.timeout.or (timeoutOf? environment))
    rwa [Option.getD_or] at first
  shutdownTimeout := each.shutdownTimeout
  gracefulShutdown := each.gracefulShutdown
  endLineOffset := each.endLineOffset
  excludedKinds := each.excludedKinds
  format := by
    have first := Setting.inForce_getD each.format (line.format.or (formatOf? environment))
    rwa [Option.getD_or] at first

/-- Where both files are settings documents that fit each other and the environment is valid,
settings are loaded, and under any command line every setting has the value of the first
source that gives it. -/
theorem prevails_of_sources {global project : SettingsFile} {environment : Environment}
    {base overlay : Toml.Entries} (line : CommandLine)
    (globalRead : global.entries .global = .ok base)
    (projectRead : project.entries .project = .ok overlay)
    (fitting : ∃ mixed, ofEntries (Toml.overlayEntries base overlay) = .ok mixed)
    (valid : IsValid environment) :
    ∃ loaded, ofSources global project environment = .ok loaded ∧
      Prevails line environment base overlay (line.override loaded) := by
  obtain ⟨mixed, read⟩ := fitting
  have each := reads_fromFiles_of_ofEntries (SettingsFile.ordered_of_entries globalRead)
    (SettingsFile.ordered_of_entries projectRead) read
  refine ⟨mixed.under environment, ?_, each.prevails line environment⟩
  rw [ofSources, globalRead, projectRead]
  simp only [read, withEnvironment_eq valid]

/-- A text with the arguments of a server and a limit. -/
def userText : String := "[server]\nargs = [\"-v\"]\n[lsp]\ntimeout_secs = 10\n"

/-- What stands in that text. -/
def userEntries : Toml.Entries :=
  [("lsp", .table [("timeout_secs", .integer 10)]),
    ("server", .table [("args", .array [.string "-v"])])]

/-- A text with two limits. -/
def projectText : String := "[lsp]\ntimeout_secs = 20\nshutdown_timeout_secs = 9\n"

/-- What stands in that text. -/
def projectEntries : Toml.Entries :=
  [("lsp", .table [("shutdown_timeout_secs", .integer 9), ("timeout_secs", .integer 20)])]

/-- An environment that sets the limit of a call. -/
def hastyEnvironment : Environment := [(timeoutVariable, " 15 ")]

/-- A command line that asks for a document. -/
def documentLine : CommandLine := { CommandLine.empty with format := some .json }

/-- Of four sources each gives a setting that no source above it gives. -/
theorem prevails_of_userText :
    (SettingsFile.ofText "u" userText).entries .global = .ok userEntries ∧
      (SettingsFile.ofText "p" projectText).entries .project = .ok projectEntries ∧
        ∃ loaded, ofSources (.ofText "u" userText) (.ofText "p" projectText) hastyEnvironment =
            .ok loaded ∧
          Prevails documentLine hastyEnvironment userEntries projectEntries
            (documentLine.override loaded) := by
  have userStatements : Toml.statements? userText.toList =
      some [.header ["server"], .entry ["args"] (.array [.scalar (.string "-v")]),
        .header ["lsp"], .entry ["timeout_secs"] (.scalar (.integer 10))] := by rfl
  have projectStatements : Toml.statements? projectText.toList =
      some [.header ["lsp"], .entry ["timeout_secs"] (.scalar (.integer 20)),
        .entry ["shutdown_timeout_secs"] (.scalar (.integer 9))] := by rfl
  have user : (SettingsFile.ofText "u" userText).entries .global = .ok userEntries :=
    SettingsFile.entries_ofText (Toml.read?_of_steps userStatements rfl rfl rfl)
  have project : (SettingsFile.ofText "p" projectText).entries .project = .ok projectEntries :=
    SettingsFile.entries_ofText (Toml.read?_of_steps projectStatements rfl rfl rfl)
  have fitting : ofEntries (Toml.overlayEntries userEntries projectEntries) =
      .ok ⟨⟨none, ["-v"], none⟩, ⟨20, 9, true⟩, .standard, .standard⟩ := by rfl
  have valid : IsValid hastyEnvironment := ⟨by decide, by decide⟩
  exact ⟨user, project, prevails_of_sources documentLine user project ⟨_, fitting⟩ valid⟩

/-- A text with one limit. -/
def limitText : String := "[lsp]\nshutdown_timeout_secs = 9\n"

/-- A text in which the section of the limits is an array that ends before that limit. -/
def arrayText : String := "lsp = [60]\n"

/-- A text in which the form of the report is a table. -/
def formText : String := "[output.format.json]\n"

/-- A text in which that table has no entries. -/
def emptyText : String := "[output.format]\n"

/-- An array in the project's file takes away a limit that only the user's file gives, and a
table without entries leaves the form that the user's file gives. -/
theorem files_do_not_always_take_turns :
    (∃ base overlay loaded,
      (SettingsFile.ofText "u" limitText).entries .global = .ok base ∧
      (SettingsFile.ofText "p" arrayText).entries .project = .ok overlay ∧
      Setting.shutdownTimeout.given? (List.lookup "lsp" overlay) = none ∧
      Setting.shutdownTimeout.given? (List.lookup "lsp" base) = some (.integer 9) ∧
      ofSources (.ofText "u" limitText) (.ofText "p" arrayText) [] = .ok loaded ∧
      (CommandLine.empty.override loaded).session.shutdownTimeoutSeconds = 5) ∧
    (∃ base overlay loaded,
      (SettingsFile.ofText "u" formText).entries .global = .ok base ∧
      (SettingsFile.ofText "p" emptyText).entries .project = .ok overlay ∧
      (List.lookup "output" overlay).bind (Toml.part? 0 "format") = some (.table []) ∧
      (∀ value, Setting.format.codec.decode (Toml.table []).toJson ≠ .ok value) ∧
      ofSources (.ofText "u" formText) (.ofText "p" emptyText) [] = .ok loaded ∧
      (CommandLine.empty.override loaded).output.format = .json) := by
  constructor
  · have limitStatements : Toml.statements? limitText.toList =
        some [.header ["lsp"], .entry ["shutdown_timeout_secs"] (.scalar (.integer 9))] := by rfl
    have arrayStatements : Toml.statements? arrayText.toList =
        some [.entry ["lsp"] (.array [.scalar (.integer 60)])] := by rfl
    have user : (SettingsFile.ofText "u" limitText).entries .global =
        .ok [("lsp", .table [("shutdown_timeout_secs", .integer 9)])] :=
      SettingsFile.entries_ofText (Toml.read?_of_steps limitStatements rfl rfl rfl)
    have project : (SettingsFile.ofText "p" arrayText).entries .project =
        .ok [("lsp", .array [.integer 60])] :=
      SettingsFile.entries_ofText (Toml.read?_of_steps arrayStatements rfl rfl rfl)
    refine ⟨_, _, ⟨.standard, ⟨60, 5, true⟩, .standard, .standard⟩, user, project, rfl, rfl,
      ?_, rfl⟩
    rw [ofSources, user, project]
    rfl
  · have formStatements : Toml.statements? formText.toList =
        some [.header ["output", "format", "json"]] := by rfl
    have emptyStatements : Toml.statements? emptyText.toList =
        some [.header ["output", "format"]] := by rfl
    have user : (SettingsFile.ofText "u" formText).entries .global =
        .ok [("output", .table [("format", .table [("json", .table [])])])] :=
      SettingsFile.entries_ofText (Toml.read?_of_steps formStatements rfl rfl rfl)
    have project : (SettingsFile.ofText "p" emptyText).entries .project =
        .ok [("output", .table [("format", .table [])])] :=
      SettingsFile.entries_ofText (Toml.read?_of_steps emptyStatements rfl rfl rfl)
    have refused (value : ReportFormat) :
        Setting.format.codec.decode (Toml.table []).toJson ≠ .ok value := by
      intro decoded
      cases decoded
    refine ⟨_, _, ⟨.standard, .standard, .standard, ⟨.json⟩⟩, user, project, rfl, refused, ?_, rfl⟩
    rw [ofSources, user, project]
    rfl

end Settings

end FoldAtlas
