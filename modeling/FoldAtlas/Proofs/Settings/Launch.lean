import FoldAtlas.CommandLine.Reader
import FoldAtlas.Settings.Sources

/-!
# Arguments of a named program

What becomes of the arguments that a command line gives for a server. They go through two hands:
the command line puts them into the settings, and from the settings the server of a language is
chosen. They reach the program that the command line, the environment or a file names, whichever
of them does, and no other (`ServerLaunch.serverArgs_belong_to_named_program`): where none of them
names a program, the language brings its own one with its own arguments, and those of the command
line leave no trace (`ServerLaunch.serverArgs_may_be_dropped`).
-/

namespace FoldAtlas

namespace ServerLaunch

variable {line : CommandLine} {settings : Settings} {program : String}

/-- The program that a command line names, or else the settings. -/
def namedProgram? (line : CommandLine) (settings : Settings) : Option String :=
  line.server.or settings.server.command

/-- Whoever names a program, it is started with the arguments of the command line. -/
theorem choose_of_named (named : namedProgram? line settings = some program)
    (given : line.serverArgs ≠ []) (language : Language) :
    choose (line.override settings) language =
      ⟨program, line.serverArgs,
        (line.languageId.or settings.server.languageId).getD language.id⟩ := by
  unfold namedProgram? at named
  simp only [choose, CommandLine.override, CommandLine.overrideServer, named,
    if_pos (Or.inr given)]

/-- Where no program is named, the language decides on the program and on its arguments. -/
theorem choose_of_unnamed (unnamed : namedProgram? line settings = none) (language : Language) :
    choose (line.override settings) language =
      ⟨language.server.1, language.server.2,
        (line.languageId.or settings.server.languageId).getD language.id⟩ := by
  unfold namedProgram? at unnamed
  simp only [choose, CommandLine.override, CommandLine.overrideServer, unnamed]

/-- Arguments on the command line are exactly those of the program that is named, wherever it is
named. Where none is, everything is as if they had not been given, so that they are those of the
server only if its language has the same. -/
theorem serverArgs_belong_to_named_program (given : line.serverArgs ≠ []) (settings : Settings)
    (language : Language) :
    (∀ program, namedProgram? line settings = some program →
      (choose (line.override settings) language).command = program ∧
        (choose (line.override settings) language).args = line.serverArgs) ∧
    (namedProgram? line settings = none →
      choose (line.override settings) language =
        choose ({ line with serverArgs := [] }.override settings) language) ∧
    ((choose (line.override settings) language).args = line.serverArgs ↔
      (namedProgram? line settings).isSome ∨ language.server.2 = line.serverArgs) := by
  refine ⟨?_, ?_, ?_⟩
  · intro program named
    rw [choose_of_named named given]
    exact ⟨rfl, rfl⟩
  · intro unnamed
    have unnamedToo : namedProgram? { line with serverArgs := [] } settings = none := unnamed
    rw [choose_of_unnamed unnamed, choose_of_unnamed unnamedToo]
  · cases named : namedProgram? line settings with
    | none =>
      rw [choose_of_unnamed named]
      simp
    | some program =>
      rw [choose_of_named named given]
      simp

/-- Arguments that name a program and give it two arguments. -/
def namingArguments : List String :=
  ["sample.ts", "--server", "srv", "--server-arg", "--verbose", "--server-arg=-x"]

/-- What these arguments say. -/
def namingLine : CommandLine :=
  { CommandLine.empty with
    file := some "sample.ts", server := some "srv", serverArgs := ["--verbose", "-x"] }

/-- The program that is named is started with the arguments behind it. -/
theorem serverArgs_of_namingLine :
    CommandLine.read namingArguments = .ok namingLine ∧ namingLine.serverArgs ≠ [] ∧
      (choose (namingLine.override .standard) .typeScript).command = "srv" ∧
      (choose (namingLine.override .standard) .typeScript).args = namingLine.serverArgs := by
  have read : CommandLine.read namingArguments = .ok namingLine := by rfl
  have given : namingLine.serverArgs ≠ [] := List.cons_ne_nil _ _
  exact ⟨read, given,
    (serverArgs_belong_to_named_program given .standard .typeScript).1 "srv" rfl⟩

/-- Arguments that name no program and give it an argument. -/
def namelessArguments : List String := ["sample.ts", "--server-arg", "--verbose"]

/-- What these arguments say. -/
def namelessLine : CommandLine :=
  { CommandLine.empty with file := some "sample.ts", serverArgs := ["--verbose"] }

/-- With no files, an empty environment and no program on the command line, the server of the
language is started with its own arguments instead of those of the command line. -/
theorem serverArgs_may_be_dropped :
    CommandLine.read namelessArguments = .ok namelessLine ∧
      Settings.ofSources ⟨"u", none⟩ ⟨"p", none⟩ [] = .ok .standard ∧
      namelessLine.serverArgs = ["--verbose"] ∧
      Language.ofPath (Bytes.ofText "sample.ts") = .typeScript ∧
      (choose (namelessLine.override .standard) .typeScript).args = ["--stdio"] := by
  refine ⟨rfl, rfl, rfl, rfl, rfl⟩

end ServerLaunch

end FoldAtlas
