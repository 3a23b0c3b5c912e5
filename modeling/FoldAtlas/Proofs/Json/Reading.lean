import FoldAtlas.Json.Reader
import FoldAtlas.Proofs.Json.Arrangement

/-!
# Values that are read

Every value that was read has its members in increasing order at every depth, whatever
the order in its text and however often a name is repeated there (`sorted_of_read`). It
is an invariant of the reader: what is around the position and what is complete already
is in order, and no byte changes that (`ReaderState.InOrder.step`).
-/

namespace FoldAtlas.Json

variable {members : List (String × Json)} {value : Json} {around : List Enclosure}
  {state next : ReaderState} {byte : UInt8}

/-- Whether some members are in order, and their values too. -/
structure MembersInOrder (members : List (String × Json)) : Prop where
  /-- The names increase. -/
  increasing : Keyed.Increasing members
  /-- The values are in order. -/
  each : ∀ member ∈ members, member.2.sorted = member.2

namespace MembersInOrder

/-- No members are in order. -/
theorem nil : MembersInOrder [] := ⟨.nil, by simp⟩

/-- One more member is put into order. -/
theorem insert (ordered : MembersInOrder members) (name : String) (same : value.sorted = value) :
    MembersInOrder (Keyed.insert name value members) := by
  refine ⟨ordered.increasing.insert name value, fun member among => ?_⟩
  rcases Keyed.mem_of_mem_insert among with rfl | earlier
  · exact same
  · exact ordered.each member earlier

/-- An object whose members are in order is in order. -/
theorem object (ordered : MembersInOrder members) :
    (Json.object members).sorted = .object members := by
  rw [sorted, sortedMembers_eq_self ordered.each, Keyed.sort_of_increasing ordered.increasing]

end MembersInOrder

/-- An array whose items are in order is in order. -/
theorem array_sorted {items : List Json} (each : ∀ item ∈ items, item.sorted = item) :
    (Json.array items).sorted = .array items := by
  rw [sorted, sortedItems_eq_map, List.map_congr_left each, List.map_id']

/-- Whether an array or object around the position is in order so far. -/
def Enclosure.InOrder : Enclosure → Prop
  | .array itemsBackward => ∀ item ∈ itemsBackward, item.sorted = item
  | .object members _ => MembersInOrder members

/-- Whether what is complete at a position is in order. -/
def Mode.InOrder : Mode → Prop
  | .nextName members | .colon members _ | .afterMember members | .string (.name members) _ _ =>
    MembersInOrder members
  | .word _ value | .done value => value.sorted = value
  | .value | .firstItem | .afterItem | .firstName | .string .value _ _ | .number _ _ => True

/-- Whether everything at a position and around it is in order. -/
structure ReaderState.InOrder (state : ReaderState) : Prop where
  /-- What is complete at the position is in order. -/
  mode : state.mode.InOrder
  /-- What is around the position is in order. -/
  around : ∀ enclosure ∈ state.around, enclosure.InOrder

/-- A complete value leaves everything in order. -/
theorem inOrder_complete (same : value.sorted = value)
    (ordered : ∀ enclosure ∈ around, enclosure.InOrder) : (complete value around).InOrder := by
  cases around with
  | nil => exact ⟨same, by simp [complete]⟩
  | cons enclosure around =>
    obtain ⟨inner, outer⟩ := List.forall_mem_cons.mp ordered
    cases enclosure with
    | array items =>
      exact ⟨trivial, List.forall_mem_cons.mpr ⟨List.forall_mem_cons.mpr ⟨same, inner⟩, outer⟩⟩
    | object members name => exact ⟨inner.insert name same, outer⟩

/-- The end of an array leaves everything in order. -/
theorem inOrder_endArray
    (ends : (match around with
      | .array items :: around => some (complete (.array items.reverse) around)
      | _ => none) = some next)
    (ordered : ∀ enclosure ∈ around, enclosure.InOrder) : next.InOrder := by
  split at ends
  · next items outside =>
    obtain rfl := Option.some.inj ends
    obtain ⟨inner, outer⟩ := List.forall_mem_cons.mp ordered
    exact inOrder_complete
      (array_sorted fun item member => inner item (List.mem_reverse.mp member)) outer
  · cases ends

/-- A new array or object leaves everything in order. -/
theorem inOrder_openEnclosure {mode : Mode} {opened : List Enclosure}
    (opens : openEnclosure mode around opened = some next) (ordered : mode.InOrder)
    (outer : ∀ enclosure ∈ opened, enclosure.InOrder) : next.InOrder := by
  rw [openEnclosure] at opens
  split at opens
  · obtain rfl := Option.some.inj opens
    exact ⟨ordered, outer⟩
  · cases opens

/-- The first byte of a value leaves everything in order. -/
theorem inOrder_beginValue (ordered : ∀ enclosure ∈ around, enclosure.InOrder)
    (begins : beginValue byte around = some next) : next.InOrder := by
  have empty : Enclosure.InOrder (.array []) := fun item member => absurd member (by simp)
  simp only [beginValue] at begins
  repeat' split at begins
  all_goals first
    | exact inOrder_openEnclosure begins trivial (List.forall_mem_cons.mpr ⟨empty, ordered⟩)
    | exact inOrder_openEnclosure begins trivial ordered
    | (obtain rfl := Option.some.inj begins; exact ⟨trivial, ordered⟩)
    | (obtain rfl := Option.some.inj begins; exact ⟨rfl, ordered⟩)
    | cases begins

/-- The end of a string leaves everything in order. -/
theorem inOrder_endString {role : StringRole} {bytes : Bytes}
    (ordered : (Mode.string role bytes .plain).InOrder)
    (outer : ∀ enclosure ∈ around, enclosure.InOrder)
    (ends : endString role bytes around = some next) : next.InOrder := by
  simp only [endString] at ends
  split at ends
  · cases ends
  · cases role with
    | value =>
      obtain rfl := Option.some.inj ends
      exact inOrder_complete rfl outer
    | name members =>
      obtain rfl := Option.some.inj ends
      exact ⟨ordered, outer⟩

/-- What a string is for decides whether it is in order. -/
theorem inOrder_string_iff {role : StringRole} {bytes bytesToo : Bytes}
    {phase phaseToo : StringPhase} :
    (Mode.string role bytes phase).InOrder ↔ (Mode.string role bytesToo phaseToo).InOrder := by
  cases role <;> exact Iff.rfl

/-- A byte inside a string leaves everything in order. -/
theorem inOrder_stepString {role : StringRole} {bytes : Bytes} {phase : StringPhase}
    (ordered : (Mode.string role bytes phase).InOrder)
    (outer : ∀ enclosure ∈ around, enclosure.InOrder)
    (steps : stepString role bytes byte around phase = some next) : next.InOrder := by
  have ends (ends : endString role bytes around = some next) : next.InOrder :=
    inOrder_endString (inOrder_string_iff.mp ordered) outer ends
  have more {bytes : Bytes} {phase : StringPhase}
      (more : some (⟨.string role bytes phase, around⟩ : ReaderState) = some next) :
      next.InOrder := by
    obtain rfl := Option.some.inj more
    exact ⟨inOrder_string_iff.mp ordered, outer⟩
  cases phase <;> simp only [stepString] at steps <;> (repeat' split at steps) <;>
    first | exact ends steps | exact more steps | cases steps

/-- A byte outside a number leaves everything in order. -/
theorem inOrder_stepToken (ordered : state.InOrder) (steps : stepToken state byte = some next) :
    next.InOrder := by
  obtain ⟨mode, around⟩ := state
  obtain ⟨inner, outer⟩ := ordered
  have stays {mode : Mode} (stays : some (⟨mode, around⟩ : ReaderState) = some next)
      (inner : mode.InOrder) : next.InOrder := by
    obtain rfl := Option.some.inj stays
    exact ⟨inner, outer⟩
  have completes {value : Json} (same : value.sorted = value)
      (completes : some (complete value around) = some next) : next.InOrder := by
    obtain rfl := Option.some.inj completes
    exact inOrder_complete same outer
  cases mode with
  | value =>
    simp only [stepToken] at steps
    split at steps
    · exact stays steps trivial
    · exact inOrder_beginValue outer steps
  | firstItem =>
    simp only [stepToken] at steps
    split at steps
    · exact stays steps trivial
    · split at steps
      · exact inOrder_endArray steps outer
      · exact inOrder_beginValue outer steps
  | afterItem =>
    simp only [stepToken] at steps
    split at steps
    · exact stays steps trivial
    · split at steps
      · exact stays steps trivial
      · split at steps
        · exact inOrder_endArray steps outer
        · cases steps
  | firstName =>
    simp only [stepToken] at steps
    split at steps
    · exact stays steps trivial
    · split at steps
      · exact stays steps MembersInOrder.nil
      · split at steps
        · exact completes MembersInOrder.nil.object steps
        · cases steps
  | nextName members =>
    simp only [stepToken] at steps
    split at steps
    · exact stays steps inner
    · split at steps
      · exact stays steps inner
      · cases steps
  | colon members name =>
    simp only [stepToken] at steps
    split at steps
    · exact stays steps inner
    · split at steps
      · obtain rfl := Option.some.inj steps
        exact ⟨trivial, List.forall_mem_cons.mpr ⟨inner, outer⟩⟩
      · cases steps
  | afterMember members =>
    simp only [stepToken] at steps
    split at steps
    · exact stays steps inner
    · split at steps
      · exact stays steps inner
      · split at steps
        · exact completes (MembersInOrder.object inner) steps
        · cases steps
  | string role bytes phase => exact inOrder_stepString inner outer steps
  | word rest spelled =>
    simp only [stepToken] at steps
    split at steps
    · cases steps
    · split at steps
      · exact completes inner steps
      · cases steps
    · split at steps
      · exact stays steps inner
      · cases steps
  | number parts phase => cases steps
  | done document =>
    simp only [stepToken] at steps
    split at steps
    · exact stays steps inner
    · cases steps

/-- A byte leaves everything in order. -/
theorem ReaderState.InOrder.step (ordered : state.InOrder)
    (steps : stepReader state byte = some next) : next.InOrder := by
  simp only [stepReader] at steps
  split at steps
  · split at steps
    · obtain rfl := Option.some.inj steps
      exact ⟨trivial, ordered.around⟩
    · cases steps
    · split at steps
      · cases steps
      · exact inOrder_stepToken (inOrder_complete rfl ordered.around) steps
  · exact inOrder_stepToken ordered steps

/-- What is read from where everything is in order is in order. -/
theorem ReaderState.InOrder.read {text : Bytes} (ordered : state.InOrder)
    (read : readFrom state text = .ok value) : value.sorted = value := by
  induction text generalizing state with
  | nil =>
    simp only [readFrom, endOfText] at read
    split at read
    · next document done =>
      obtain rfl := Except.ok.inj read
      have same := ordered.mode
      rwa [done] at same
    · split at read
      · split at read
        · cases read
        · next valued _ =>
          split at read
          · next document done =>
            obtain rfl := Except.ok.inj read
            have same : (complete (.number valued) state.around).mode.InOrder :=
              (inOrder_complete rfl ordered.around).mode
            rwa [done] at same
          · cases read
      · cases read
    · cases read
  | cons byte text ih =>
    rw [readFrom] at read
    split at read
    · next next steps => exact ih (ordered.step steps) read
    · cases read

/-- A value that was read is in order. -/
theorem sorted_of_read {text : Bytes} (spelled : read text = .ok value) : value.sorted = value := by
  have begins : ReaderState.InOrder ⟨.value, []⟩ := ⟨trivial, by simp⟩
  exact begins.read spelled

/-- An object in order repeats no name. -/
theorem nodup_of_sorted (same : (Json.object members).sorted = .object members) :
    (members.map Prod.fst).Nodup := by
  rw [sorted, Json.object.injEq] at same
  exact same ▸ (Keyed.increasing_sort (sortedMembers members)).nodup

end FoldAtlas.Json
