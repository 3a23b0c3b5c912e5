import FoldAtlas.Proofs.Settings.Precedence
import FoldAtlas.CommandLine.Reader
import FoldAtlas.Settings.Limits
import Mathlib.Algebra.Group.Nat.Defs

/-!
# Which limits can be counted

The limit of a call follows from the settings and the method, with one exception: twice the seconds
of the greeting may not be countable (`Limits.limitOf_ofSettings`). A settings document cannot
bring that about, since its integers have a sign and leave half of the range unused
(`Settings.lt_of_unsigned64_toml`). The environment and the command line count without a sign and
can (`Settings.limits_of_loaded`).
-/

namespace FoldAtlas

/-- The limit that settings promise to the calls of a method: the end of the session has its own,
the greeting has twice that of the other calls, and zero seconds are no limit. -/
def Settings.promised (settings : Settings) (method : String) : CallLimit :=
  if method = "shutdown" then .within (.ofSeconds settings.session.shutdownTimeoutSeconds.toNat)
  else if settings.session.timeoutSeconds = 0 then .unlimited
  else if method = "initialize" then
    .within (.ofSeconds (settings.session.timeoutSeconds.toNat * 2))
  else .within (.ofSeconds settings.session.timeoutSeconds.toNat)

namespace Limits

variable {limits : Limits} {method : String} {seconds : UInt64}

/-- Without a base limit no call has one but the end of the session. -/
theorem limitOf_of_none (other : method ≠ "shutdown") (none : limits.baseSeconds = none) :
    limits.limitOf method = .unlimited := by
  rw [limitOf, CallClass.ofMethod, none, if_neg other]
  by_cases greeting : method = "initialize"
  · rw [if_pos greeting]
  · rw [if_neg greeting]

/-- The greeting has twice the base limit if that can be counted. -/
theorem limitOf_greeting (given : limits.baseSeconds = some seconds) :
    limits.limitOf "initialize" =
      if seconds.toNat * 2 ≤ maxSeconds then .within (.ofSeconds (seconds.toNat * 2))
      else .uncountable := by
  rw [limitOf, given]
  rfl

/-- The base limit itself can always be counted. -/
theorem limitOf_request (greeting : method ≠ "initialize") (ending : method ≠ "shutdown")
    (given : limits.baseSeconds = some seconds) :
    limits.limitOf method = .within (.ofSeconds seconds.toNat) := by
  have below : seconds.toNat < UInt64.size := seconds.toNat_lt
  have once : seconds.toNat * factor .request = seconds.toNat := Nat.mul_one seconds.toNat
  have countable : seconds.toNat ≤ maxSeconds := Nat.le_sub_one_of_lt below
  rw [limitOf, CallClass.ofMethod, if_neg greeting, if_neg ending, given]
  simp only [once, if_pos countable]

/-- Every call has the limit that the settings promise, but a greeting of which twice the seconds
cannot be counted. -/
theorem limitOf_ofSettings (settings : Settings) (method : String) :
    limitOf (ofSettings settings) method =
      if method = "initialize" ∧ 2 ^ 63 ≤ settings.session.timeoutSeconds.toNat then .uncountable
      else settings.promised method := by
  by_cases ending : method = "shutdown"
  · subst ending
    rfl
  by_cases unlimited : settings.session.timeoutSeconds = 0
  · have small : ¬ 2 ^ 63 ≤ settings.session.timeoutSeconds.toNat := by
      rw [unlimited]
      decide
    rw [limitOf_of_none ending (if_pos unlimited), if_neg fun both => small both.2,
      Settings.promised, if_neg ending, if_pos unlimited]
  · have given : (ofSettings settings).baseSeconds = some settings.session.timeoutSeconds :=
      if_neg unlimited
    by_cases greeting : method = "initialize"
    · subst greeting
      have size : maxSeconds = 2 ^ 64 - 1 := rfl
      by_cases large : 2 ^ 63 ≤ settings.session.timeoutSeconds.toNat
      · have beyond : ¬ settings.session.timeoutSeconds.toNat * 2 ≤ maxSeconds := by omega
        rw [limitOf_greeting given, if_neg beyond, if_pos ⟨rfl, large⟩]
      · have countable : settings.session.timeoutSeconds.toNat * 2 ≤ maxSeconds := by omega
        rw [limitOf_greeting given, if_pos countable, if_neg fun both => large both.2,
          Settings.promised, if_neg ending, if_neg unlimited, if_pos rfl]
    · rw [limitOf_request greeting ending given, if_neg fun both => greeting both.1,
        Settings.promised, if_neg ending, if_neg unlimited, if_neg greeting]

end Limits

namespace Settings

variable {environment : Environment} {settings loaded : Settings}

/-! ## What each source can give -/

/-- An integer of a settings document that is read without a sign is below half of the range. -/
theorem lt_of_unsigned64_toml {source : Toml} {value : UInt64}
    (decoded : Codec.unsigned64.decode source.toJson = .ok value) : value.toNat < 2 ^ 63 := by
  have same := Codec.unsigned64_decode_eq_ok_iff.mp decoded
  cases source with
  | integer number =>
    have equal : number.toInt = value.toNat := by
      injection same with inner
      injection inner
    have bound := number.toInt_lt
    omega
  | string | real | boolean | dateTime | array | table => cases same

/-- What settings documents give for the limit of a call is below half of the range, and so is the
standard limit. -/
theorem timeout_lt_of_reads {given : Option Toml} {value : UInt64}
    (reads : Setting.timeout.Reads given value) : value.toNat < 2 ^ 63 := by
  cases given with
  | none =>
    have standard : value = 30 := reads
    rw [standard]
    decide
  | some source => exact lt_of_unsigned64_toml reads

/-- What an environment sets can be understood if settings are loaded under it. -/
theorem isValid_of_withEnvironment (read : settings.withEnvironment environment = .ok loaded) :
    IsValid environment := by
  rw [withEnvironment] at read
  cases limited : (settings.withServerOf environment).withTimeoutOf environment with
  | error failure =>
    rw [limited] at read
    cases read
  | ok between =>
    simp only [limited] at read
    constructor
    · intro value given
      rw [withTimeoutOf, Option.mem_def.mp given] at limited
      cases understood : unsigned64? (trim value.toList) with
      | none => simp [understood] at limited
      | some seconds => rfl
    · intro value given
      rw [withFormatOf, Option.mem_def.mp given] at read
      cases understood : formatOfName? value with
      | none => simp [understood] at read
      | some format => rfl

/-- Settings that are loaded are those of the files with what the environment sets in the place of
theirs, and the limit of a call in the files is below half of the range. -/
theorem exists_under_of_ofSources {global project : SettingsFile}
    (read : ofSources global project environment = .ok loaded) :
    ∃ mixed : Settings, loaded = mixed.under environment ∧
      mixed.session.timeoutSeconds.toNat < 2 ^ 63 := by
  rw [ofSources] at read
  split at read
  · cases read
  · next base globalRead =>
    split at read
    · cases read
    · next overlay projectRead =>
      split at read
      · cases read
      · next mixed fitting =>
        rw [withEnvironment_eq (isValid_of_withEnvironment read)] at read
        have each := reads_fromFiles_of_ofEntries (SettingsFile.ordered_of_entries globalRead)
          (SettingsFile.ordered_of_entries projectRead) fitting
        exact ⟨mixed, (Except.ok.inj read).symm, timeout_lt_of_reads each.timeout⟩

/-! ## The limits of a run -/

/-- Under the settings that a run has, every call has the limit that they promise, but a greeting
of which twice the seconds cannot be counted; and if so, the command line sets these seconds, or
else the environment does. -/
theorem limits_of_loaded {global project : SettingsFile} (line : CommandLine)
    (read : ofSources global project environment = .ok loaded) (method : String) :
    (Limits.ofSettings (line.override loaded)).limitOf method =
      (if method = "initialize" ∧
          2 ^ 63 ≤ (line.override loaded).session.timeoutSeconds.toNat then .uncountable
        else (line.override loaded).promised method) ∧
    (2 ^ 63 ≤ (line.override loaded).session.timeoutSeconds.toNat →
      line.timeout.or (timeoutOf? environment) =
        some (line.override loaded).session.timeoutSeconds) := by
  refine ⟨Limits.limitOf_ofSettings (line.override loaded) method, ?_⟩
  intro large
  obtain ⟨mixed, rfl, small⟩ := exists_under_of_ofSources read
  have seconds : (line.override (mixed.under environment)).session.timeoutSeconds =
      (line.timeout.or (timeoutOf? environment)).getD mixed.session.timeoutSeconds :=
    Option.getD_or.symm
  rw [seconds] at large ⊢
  cases above : line.timeout.or (timeoutOf? environment) with
  | none =>
    rw [above, Option.getD_none] at large
    omega
  | some given => rfl

/-- Arguments that set a limit of which twice the seconds are one too many. -/
def patientArguments : List String := ["a.py", "--timeout", "9223372036854775808"]

/-- What these arguments say. -/
def patientLine : CommandLine :=
  { CommandLine.empty with file := some "a.py", timeout := some 9223372036854775808 }

/-- An environment that sets the greatest limit. -/
def patientEnvironment : Environment := [(timeoutVariable, " 18446744073709551615")]

/-- The greatest limit is counted for a question and not for the greeting, and the end of the
session has its own. -/
theorem limits_of_patientEnvironment :
    ∃ loaded, ofSources ⟨"u", none⟩ ⟨"p", none⟩ patientEnvironment = .ok loaded ∧
      (Limits.ofSettings (CommandLine.empty.override loaded)).limitOf "initialize" =
        .uncountable ∧
      (Limits.ofSettings (CommandLine.empty.override loaded)).limitOf "m" =
        .within (.ofSeconds 18446744073709551615) ∧
      (Limits.ofSettings (CommandLine.empty.override loaded)).limitOf "shutdown" =
        .within (.ofSeconds 5) ∧
      timeoutOf? patientEnvironment = some 18446744073709551615 := by
  have read : ofSources ⟨"u", none⟩ ⟨"p", none⟩ patientEnvironment =
      .ok { standard with session := { standard.session with
        timeoutSeconds := 18446744073709551615 } } := by rfl
  have limits := limits_of_loaded .empty read
  exact ⟨_, read, (limits "initialize").1, (limits "m").1, (limits "shutdown").1,
    (limits "m").2 (by decide)⟩

/-- So not every call has the limit that the settings promise. -/
theorem promise_is_not_always_kept :
    CommandLine.read patientArguments = .ok patientLine ∧
      ofSources ⟨"u", none⟩ ⟨"p", none⟩ [] = .ok .standard ∧
      ¬ ∀ method, (Limits.ofSettings (patientLine.override .standard)).limitOf method =
        (patientLine.override .standard).promised method := by
  refine ⟨rfl, rfl, ?_⟩
  intro kept
  have greeting := kept "initialize"
  rw [Limits.limitOf_ofSettings, if_pos ⟨rfl, by decide⟩] at greeting
  cases greeting

end Settings

end FoldAtlas
