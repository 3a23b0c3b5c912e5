import FoldAtlas.Proofs.Json.Rereading
import FoldAtlas.Proofs.Toml.Overlay
import FoldAtlas.Settings.Sources

/-!
# Settings in layers

One setting of two documents that are laid over each other (`Setting.fromFiles?`). What a
setting is read as in the whole is what it is read as where the upper document sets it, or
else where the lower one does (`Setting.reads_fromFiles`), although the documents are mixed
before anything is read. That holds because every setting is of a type whose values come
from one document alone, even if both have a table for it (`Codec.LaysOver`).
-/

namespace FoldAtlas

namespace Toml

/-- Whether a value sets anything, as a table without entries does not. -/
def isSomething : Toml → Bool
  | .table [] => false
  | _ => true

/-- Only a table without entries sets nothing. -/
theorem eq_of_isSomething_eq_false {value : Toml} (nothing : value.isSomething = false) :
    value = .table [] := by
  unfold isSomething at nothing
  split at nothing
  · rfl
  · cases nothing

/-- The first of two values that sets anything. -/
def first? (upper lower : Option Toml) : Option Toml :=
  (upper.filter isSomething).or (lower.filter isSomething)

/-- What stands in a section for one of its settings: under the key in a table, and at the
place in an array. -/
def part? (place : Nat) (key : String) : Toml → Option Toml
  | .table entries => List.lookup key entries
  | .array items => items[place]?
  | _ => none

end Toml

/-- Whether a value that is read where one was laid over another is read from one of the two:
the upper one if it sets anything, or else the lower one. -/
def Codec.LaysOver {α : Type} (codec : Codec α) : Prop :=
  ∀ existing upper value, Toml.Ordered upper →
    codec.decode (Toml.overlayValue existing upper).toJson = .ok value →
      ∃ source, Toml.first? (some upper) existing = some source ∧
        codec.decode source.toJson = .ok value

/-- A setting that a document can hold. -/
structure Setting (α : Type) where
  /-- The key of its section. -/
  heading : String
  /-- The place in its section. -/
  place : Nat
  /-- The key in its section. -/
  key : String
  /-- How a value is read. -/
  codec : Codec α
  /-- The value when nothing sets it. -/
  standard : α
  /-- Of two documents one gives the value. -/
  laysOver : codec.LaysOver

namespace Setting

variable {α : Type}

/-- The value that a section gives for a setting, if the section is there. -/
def given? (setting : Setting α) (body : Option Toml) : Option Toml :=
  (body.bind (Toml.part? setting.place setting.key)).filter Toml.isSomething

/-- The value that two documents give for a setting, of which the second is the upper one.
Only sections that are both tables are mixed; otherwise the upper section replaces the
lower one. -/
def fromFiles? (setting : Setting α) (base overlay : Toml.Entries) : Option Toml :=
  match List.lookup setting.heading base, List.lookup setting.heading overlay with
  | lower, none => setting.given? lower
  | some (.table lower), some (.table upper) =>
    (setting.given? (some (.table upper))).or (setting.given? (some (.table lower)))
  | _, some upper => setting.given? (some upper)

/-- Whether a setting is read as a value, from what is given for it or for want of
anything. -/
def Reads (setting : Setting α) : Option Toml → α → Prop
  | some source, value => setting.codec.decode source.toJson = .ok value
  | none, value => value = setting.standard

end Setting

/-! ## Values that are laid over others -/

namespace Codec

variable {α : Type} {codec : Codec α}

/-- A codec reads one of two values when it refuses empty tables and reads the upper one of
two tables. -/
theorem LaysOver.of_tables (refuses : ∀ value, codec.decode (.object []) ≠ .ok value)
    (tables : ∀ lower upper value, upper ≠ [] → Toml.Ordered (.table upper) →
      codec.decode (Toml.table (Toml.overlayEntries lower upper)).toJson = .ok value →
        codec.decode (Toml.table upper).toJson = .ok value) : codec.LaysOver := by
  intro existing upper value ordered decoded
  rcases Toml.overlayValue_cases existing upper with same | ⟨lower, incoming, rfl, rfl⟩
  · rw [same] at decoded
    by_cases something : upper.isSomething = true
    · refine ⟨upper, ?_, decoded⟩
      rw [Toml.first?, Option.filter_some_pos something, Option.some_or]
    · rw [Toml.eq_of_isSomething_eq_false (Bool.eq_false_iff.mpr something)] at decoded
      exact absurd decoded (refuses value)
  · rw [Toml.overlayValue_tables] at decoded
    cases incoming with
    | cons entry incoming =>
      have read := tables lower _ value (List.cons_ne_nil _ _) ordered decoded
      exact ⟨.table (entry :: incoming), rfl, read⟩
    | nil =>
      -- nothing is laid over the lower table, which is read as it is
      rw [Toml.overlayEntries] at decoded
      cases lower with
      | nil => exact absurd decoded (refuses value)
      | cons entry lower => exact ⟨.table (entry :: lower), rfl, decoded⟩

/-- A codec that refuses every object reads one of two values. -/
theorem LaysOver.of_refuses
    (refuses : ∀ members value, codec.decode (.object members) ≠ .ok value) : codec.LaysOver :=
  .of_tables (refuses []) fun _ _ value _ _ decoded => absurd decoded (refuses _ value)

end Codec

namespace PayloadRule

/-- What is empty after it was laid over something was empty before. -/
theorem isEmpty_of_overlayValue {existing : Option Toml} {value : Toml}
    (ordered : value.Ordered)
    (empty : toml.isEmpty (Toml.overlayValue existing value).toJson = true) :
    toml.isEmpty value.toJson = true := by
  rcases Toml.overlayValue_cases existing value with same | ⟨lower, upper, rfl, rfl⟩
  · rwa [same] at empty
  · rw [Toml.overlayValue_tables] at empty
    cases whole : Toml.overlayEntries lower upper with
    | nil =>
      rw [Toml.eq_nil_of_overlayEntries_eq_nil ordered.increasing.nodup whole]
      rfl
    | cons entry others =>
      rw [whole] at empty
      cases empty

end PayloadRule

/-- A variant is read from a name with a payload when it has the name and the payload is
empty. -/
theorem Codec.variants_decode_named_iff {α : Type} {rule : PayloadRule}
    {table : List (String × α)} {name : α → String} {given : String} {payload : Json}
    {value : α} :
    (Codec.variants rule table name).decode (.object [(given, payload)]) = .ok value ↔
      List.lookup given table = some value ∧ rule.isEmpty payload = true := by
  simp only [Codec.variants, Tagged.decode, PayloadRule.check]
  cases List.lookup given table with
  | none => simp
  | some found => by_cases empty : rule.isEmpty payload = true <;> simp [empty, Except.map]

/-- A codec of variants reads one of two values: where two tables make one with a single
name, the upper one has that name alone. -/
theorem Codec.variants_laysOver {α : Type} {table : List (String × α)} {name : α → String} :
    (Codec.variants .toml table name).LaysOver := by
  refine .of_tables (fun _ => nofun) fun lower upper value something ordered decoded => ?_
  have distinct := ordered.increasing.nodup
  cases whole : Toml.overlayEntries lower upper with
  | nil =>
    rw [whole] at decoded
    cases decoded
  | cons entry others =>
    obtain ⟨single, payload⟩ := entry
    rw [whole] at decoded
    cases others with
    | cons => cases decoded
    | nil =>
      obtain ⟨upperValue, rfl, rfl⟩ :=
        Toml.exists_of_overlayEntries_eq_singleton distinct something whole
      obtain ⟨found, empty⟩ := variants_decode_named_iff.mp decoded
      have upperOrdered : upperValue.Ordered := ordered.of_lookup List.lookup_cons_self
      exact variants_decode_named_iff.mpr
        ⟨found, PayloadRule.isEmpty_of_overlayValue upperOrdered empty⟩

/-! ## One setting of two documents -/

/-- What stands for a setting in a section in order is in order. -/
theorem Toml.Ordered.of_part? {body value : Toml} {place : Nat} {key : String}
    (ordered : body.Ordered) (found : body.part? place key = some value) : value.Ordered := by
  cases body with
  | table => exact ordered.of_lookup found
  | array => exact ordered.of_mem (List.mem_of_getElem? found)
  | string | integer | real | boolean | dateTime => cases found

namespace Setting

variable {α : Type} {setting : Setting α} {base overlay : Toml.Entries} {value : α}
  {lower upper : Option Toml}

/-- A setting is only read from what sets anything. -/
theorem reads_something {given : Option Toml}
    (ordered : ∀ source ∈ given, source.Ordered) (read : setting.Reads given value) :
    setting.Reads (given.filter Toml.isSomething) value := by
  cases given with
  | none => exact read
  | some source =>
    have kept : Toml.overlayValue none source = source :=
      (Toml.overlayValue_cases none source).resolve_right nofun
    obtain ⟨chosen, first, decoded⟩ :=
      setting.laysOver none source value (ordered source rfl) (kept.symm ▸ read)
    rw [Toml.first?, Option.filter_none, Option.or_none] at first
    rw [first]
    exact decoded

/-- A setting is read from what is given above, laid over what is given below, as it is from
the first of the two that sets anything. -/
theorem reads_or (lowerOrdered : ∀ source ∈ lower, source.Ordered)
    (upperOrdered : ∀ source ∈ upper, source.Ordered)
    (read : setting.Reads ((upper.map (Toml.overlayValue lower)).or lower) value) :
    setting.Reads (Toml.first? upper lower) value := by
  cases upper with
  | none =>
    rw [Toml.first?, Option.filter_none, Option.none_or]
    exact reads_something lowerOrdered read
  | some source =>
    obtain ⟨chosen, first, decoded⟩ :=
      setting.laysOver lower source value (upperOrdered source rfl) read
    rw [first]
    exact decoded

/-- A setting is read from what stands for it in a section as it is from what the section
gives for it. -/
theorem reads_given {body : Option Toml}
    (ordered : ∀ source ∈ body, source.Ordered)
    (read : setting.Reads (body.bind (Toml.part? setting.place setting.key)) value) :
    setting.Reads (setting.given? body) value := by
  refine reads_something (fun source found => ?_) read
  obtain ⟨table, present, standing⟩ := Option.bind_eq_some_iff.mp found
  exact (ordered table present).of_part? standing

/-- A setting that is read from two documents laid over each other is read from what the
documents give for it. -/
theorem reads_fromFiles
    (baseOrdered : Toml.Ordered (.table base)) (overlayOrdered : Toml.Ordered (.table overlay))
    (read : setting.Reads ((List.lookup setting.heading (Toml.overlayEntries base overlay)).bind
      (Toml.part? setting.place setting.key)) value) :
    setting.Reads (setting.fromFiles? base overlay) value := by
  rw [Toml.lookup_overlayEntries base overlayOrdered.increasing.nodup] at read
  have lowerOrdered : ∀ source ∈ List.lookup setting.heading base, source.Ordered :=
    fun _ found => baseOrdered.of_lookup found
  have upperOrdered : ∀ source ∈ List.lookup setting.heading overlay, source.Ordered :=
    fun _ found => overlayOrdered.of_lookup found
  rw [fromFiles?]
  split
  · next absent =>
    rw [absent] at read
    exact reads_given lowerOrdered read
  · next lower upper below above =>
    rw [above, below, Option.map_some, Option.some_or, Toml.overlayValue_tables,
      Option.bind_some, Toml.part?] at read
    have lowerTable := lowerOrdered _ below
    have upperTable := upperOrdered _ above
    rw [Toml.lookup_overlayEntries lower upperTable.increasing.nodup] at read
    exact reads_or (fun _ found => lowerTable.of_lookup found)
      (fun _ found => upperTable.of_lookup found) read
  · next upper above unlike =>
    rw [above, Option.map_some, Option.some_or] at read
    have kept : Toml.overlayValue (List.lookup setting.heading base) upper = upper := by
      refine (Toml.overlayValue_cases _ upper).resolve_right ?_
      rintro ⟨lower, table, below, same⟩
      exact unlike lower table below same
    rw [kept] at read
    exact reads_given (above ▸ upperOrdered) read

end Setting

end FoldAtlas
