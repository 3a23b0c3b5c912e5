import FoldAtlas.Report
import FoldAtlas.Text.Numeral
import Mathlib.Data.List.Nodup

/-!
# What the lines of a report tell

The lines of a report tell the kind, the name and the range of each symbol, the bounds of each
region, and the kind, the name and the range of each symbol that has a region, all in their order,
and no line can be taken for one of another sort (`Report.lines_tell_findings`).

No name can disturb this, whatever text it is. It stands behind a kind, which is one word and
followed by a fixed mark (`SymbolKind.label_append_inj`), and in front of numbers, each behind a
fixed mark. A number that ends a text can be told from what stands before it, since a mark does not
end in a digit (`Report.append_number_inj`). Of what sort a line is, its first word tells
(`Report.Item.firstWord_line`): it is empty for a symbol, while a kind is never called by an empty
name, nor by the name that begins the line of a region.

Not everything is shown: what contains a symbol, the kind of a region and the region of a pair are
on no line.
-/

namespace FoldAtlas

/-! ## Where a list is cut -/

/-- What stands in front of the first item outside a class. -/
theorem takeWhile_of_cut {α : Type} {inside : α → Bool} {front rest : List α}
    (within : ∀ item ∈ front, inside item = true)
    (beyond : ∀ item ∈ rest.head?, inside item = false) :
    (front ++ rest).takeWhile inside = front := by
  rw [List.takeWhile_append_of_pos within]
  cases rest with
  | nil => simp
  | cons item rest => simp [beyond item rfl]

/-- A list can be cut behind the last item outside a class in one way only. -/
theorem cut_unique {α : Type} {inside : α → Bool} {front rest otherFront otherRest : List α}
    (beyond : ∀ item ∈ front.getLast?, inside item = false)
    (within : ∀ item ∈ rest, inside item = true)
    (beyondToo : ∀ item ∈ otherFront.getLast?, inside item = false)
    (withinToo : ∀ item ∈ otherRest, inside item = true)
    (same : front ++ rest = otherFront ++ otherRest) : front = otherFront ∧ rest = otherRest := by
  -- Read backwards, each list begins with what stands behind the cut.
  have turned : rest.reverse ++ front.reverse = otherRest.reverse ++ otherFront.reverse := by
    rw [← List.reverse_append, ← List.reverse_append, same]
  have taken := congrArg (List.takeWhile inside) turned
  rw [takeWhile_of_cut (by simpa using within) (by simpa using beyond),
    takeWhile_of_cut (by simpa using withinToo) (by simpa using beyondToo)] at taken
  have rests : rest = otherRest := List.reverse_inj.mp taken
  subst rests
  exact ⟨List.append_cancel_right same, rfl⟩

namespace Report

variable {text other mark : String} {number another : UInt32}

/-! ## Numbers at the end of a text -/

/-- The digits of a number. -/
theorem toList_toString (number : UInt32) :
    (toString number).toList = Nat.toDigits 10 number.toNat :=
  Nat.toList_repr

/-- A number that may be missing is written in digits. -/
theorem isDigit_of_mem_optionalNumber {number : Option UInt32} {char : Char}
    (member : char ∈ (optionalNumber number).toList) : char.isDigit = true := by
  cases number with
  | none => cases member
  | some number =>
    rw [optionalNumber, toList_toString] at member
    exact isDigit_of_mem_toDigits member

/-- Reading a number that may be missing gives it back. -/
theorem decimal?_optionalNumber (number : Option UInt32) :
    decimal? (optionalNumber number).toList = number.map UInt32.toNat := by
  cases number with
  | none => rfl
  | some number => rw [optionalNumber, toList_toString, decimal?_toDigits, Option.map_some]

/-- Numbers that may be missing are written differently, and a missing one is told from all. -/
theorem optionalNumber_inj {number another : Option UInt32} :
    optionalNumber number = optionalNumber another ↔ number = another := by
  refine ⟨fun same => ?_, congrArg optionalNumber⟩
  have read := decimal?_optionalNumber number
  rw [same, decimal?_optionalNumber] at read
  exact Option.map_injective (fun _ _ => UInt32.toNat_inj.mp) read.symm

/-- Different numbers are written differently. -/
theorem toString_inj : toString number = toString another ↔ number = another :=
  (@optionalNumber_inj (some number) (some another)).trans Option.some_inj

/-- Whether a text ends in a character that is no digit, so that a number can follow. -/
def IsClosed (text : String) : Prop := ∃ char ∈ text.toList.getLast?, char.isDigit = false

/-- A text that a closed one ends is closed. -/
theorem IsClosed.behind (closed : IsClosed mark) (text : String) :
    ∀ char ∈ (text ++ mark).toList.getLast?, char.isDigit = false := by
  obtain ⟨last, found, plain⟩ := closed
  rw [String.toList_append, List.getLast?_append, Option.mem_def.mp found]
  rintro char ⟨⟩
  exact plain

/-- A text that ends in a mark and a number which may be missing tells what stands before them, and
the number. -/
theorem append_optionalNumber_inj (closed : IsClosed mark) (number another : Option UInt32) :
    text ++ mark ++ optionalNumber number = other ++ mark ++ optionalNumber another ↔
      text = other ∧ number = another := by
  constructor
  · intro same
    have chars : (text ++ mark).toList ++ (optionalNumber number).toList =
        (other ++ mark).toList ++ (optionalNumber another).toList := by
      rw [← String.toList_append, same, String.toList_append]
    obtain ⟨fronts, digits⟩ := cut_unique (closed.behind text)
      (fun _ => isDigit_of_mem_optionalNumber) (closed.behind other)
      (fun _ => isDigit_of_mem_optionalNumber) chars
    exact ⟨(String.append_left_inj mark).mp (String.toList_inj.mp fronts),
      optionalNumber_inj.mp (String.toList_inj.mp digits)⟩
  · rintro ⟨rfl, rfl⟩
    rfl

/-- A text that ends in a mark and a number tells what stands before them, and the number. -/
theorem append_number_inj (closed : IsClosed mark) :
    text ++ mark ++ toString number = other ++ mark ++ toString another ↔
      text = other ∧ number = another :=
  (append_optionalNumber_inj closed (some number) (some another)).trans
    (and_congr Iff.rfl Option.some_inj)

/-- A text that ends in a range, its numbers behind marks, tells what stands before it, and the
range. -/
theorem append_range_inj {mark₁ mark₂ mark₃ mark₄ : String} (closed₁ : IsClosed mark₁)
    (closed₂ : IsClosed mark₂) (closed₃ : IsClosed mark₃) (closed₄ : IsClosed mark₄)
    {range another : Range} :
    text ++ mark₁ ++ toString range.start.line ++ mark₂ ++ toString range.start.character ++
        mark₃ ++ toString range.stop.line ++ mark₄ ++ toString range.stop.character =
      other ++ mark₁ ++ toString another.start.line ++ mark₂ ++
        toString another.start.character ++ mark₃ ++ toString another.stop.line ++ mark₄ ++
        toString another.stop.character ↔ text = other ∧ range = another := by
  rw [append_number_inj closed₄, append_number_inj closed₃, append_number_inj closed₂,
    append_number_inj closed₁]
  obtain ⟨⟨startLine, startCharacter⟩, ⟨stopLine, stopCharacter⟩⟩ := range
  obtain ⟨⟨otherStartLine, otherStartCharacter⟩, ⟨otherStopLine, otherStopCharacter⟩⟩ := another
  simp [and_assoc]

/-! ## The first word of a text -/

/-- Whether a character can be in the name of a kind. -/
def isLabelChar (char : Char) : Bool := char.isAlphanum || char == '(' || char == ')'

/-- What a text begins with, as far as it could be the name of a kind. -/
def firstWord (text : String) : String := String.ofList (text.toList.takeWhile isLabelChar)

/-- Whether a text begins with a character that is in the name of no kind. -/
def EndsWord (text : String) : Prop := ∃ char ∈ text.toList.head?, isLabelChar char = false

/-- The first word goes on until a mark ends it. -/
theorem firstWord_append {word : String} (within : word.toList.all isLabelChar = true)
    (ends : EndsWord mark) (rest : String) : firstWord (word ++ (mark ++ rest)) = word := by
  have beyond : ∀ char ∈ (mark ++ rest).toList.head?, isLabelChar char = false := by
    obtain ⟨first, found, outside⟩ := ends
    rw [String.toList_append, List.head?_append, Option.mem_def.mp found]
    rintro char ⟨⟩
    exact outside
  rw [firstWord, String.toList_append, takeWhile_of_cut (List.all_eq_true.mp within) beyond,
    String.ofList_toList]

/-- The first word is empty where a mark stands in front. -/
theorem firstWord_of_endsWord (ends : EndsWord mark) (rest : String) :
    firstWord (mark ++ rest) = "" := by
  have first : firstWord ("" ++ (mark ++ rest)) = "" := firstWord_append rfl ends rest
  rwa [String.empty_append] at first

end Report

namespace SymbolKind

variable {kind another : SymbolKind}

/-! ## The names of kinds -/

/-- A kind is shown as one word. -/
theorem all_isLabelChar_label (kind : SymbolKind) :
    kind.label.toList.all Report.isLabelChar = true := by
  obtain listed | ⟨code, rfl⟩ := kind.named_or_unknown
  · have each : (named.all fun kind => kind.label.toList.all Report.isLabelChar) = true := by
      decide
    exact List.all_eq_true.mp each kind listed
  · have digits : (toString code).toList.all Report.isLabelChar = true := by
      rw [Report.toList_toString, List.all_eq_true]
      intro char digit
      simp [Report.isLabelChar, Char.isAlphanum, isDigit_of_mem_toDigits digit]
    have front : "Unknown(".toList.all Report.isLabelChar = true := by decide
    have back : ")".toList.all Report.isLabelChar = true := by decide
    rw [label, String.toList_append, String.toList_append, List.all_append, List.all_append, front,
      digits, back]
    rfl

/-- A kind without a name is shown with a parenthesis. -/
theorem paren_mem_label_unknown (code : UInt32) : '(' ∈ (unknown code).label.toList := by
  simp [label]

/-- A kind with a name is shown without a parenthesis. -/
theorem paren_not_mem_label (listed : kind ∈ named) : '(' ∉ kind.label.toList := by
  have each : ∀ kind ∈ named, '(' ∉ kind.label.toList := by decide
  exact each kind listed

/-- Different kinds are shown differently. -/
theorem label_inj : kind.label = another.label ↔ kind = another := by
  refine ⟨fun same => ?_, congrArg label⟩
  obtain listed | ⟨code, rfl⟩ := kind.named_or_unknown <;>
    obtain listedToo | ⟨otherCode, rfl⟩ := another.named_or_unknown
  · have distinct : (named.map label).Nodup := by decide
    exact List.inj_on_of_nodup_map distinct listed listedToo same
  · exact absurd (same ▸ paren_mem_label_unknown otherCode) (paren_not_mem_label listed)
  · exact absurd (same ▸ paren_mem_label_unknown code) (paren_not_mem_label listedToo)
  · -- Kinds without a name are shown with their numbers between the same texts.
    have codes : toString code = toString otherCode :=
      (String.append_right_inj _).mp ((String.append_left_inj _).mp same)
    rw [Report.toString_inj.mp codes]

/-- No kind is shown as nothing, and none as the first word of a region's line. -/
theorem label_ne (kind : SymbolKind) : kind.label ≠ "" ∧ kind.label ≠ "Folding" := by
  obtain listed | ⟨code, rfl⟩ := kind.named_or_unknown
  · have each : ∀ kind ∈ named, kind.label ≠ "" ∧ kind.label ≠ "Folding" := by decide
    exact each kind listed
  · have paren := paren_mem_label_unknown code
    constructor
    · intro same
      rw [same] at paren
      cases paren
    · intro same
      rw [same] at paren
      revert paren
      decide

/-- A text that begins with a kind and a mark tells the kind, and what stands behind them. -/
theorem label_append_inj {mark rest otherRest : String} (ends : Report.EndsWord mark) :
    kind.label ++ mark ++ rest = another.label ++ mark ++ otherRest ↔
      kind = another ∧ rest = otherRest := by
  constructor
  · intro same
    have words := congrArg Report.firstWord same
    rw [String.append_assoc, String.append_assoc,
      Report.firstWord_append (all_isLabelChar_label _) ends,
      Report.firstWord_append (all_isLabelChar_label _) ends] at words
    obtain rfl := label_inj.mp words
    exact ⟨rfl, (String.append_right_inj _).mp same⟩
  · rintro ⟨rfl, rfl⟩
    rfl

end SymbolKind

/-- What a line shows of a symbol: its kind, its name and its range. -/
def OutlineEntry.shown (symbol : OutlineEntry) : SymbolKind × String × Range :=
  (symbol.kind, symbol.name, symbol.range)

/-- What a line shows of a region: its lines and, if the server tells them, its characters. -/
def FoldingRange.shown (region : FoldingRange) :
    UInt32 × Option UInt32 × UInt32 × Option UInt32 :=
  (region.startLine, region.startCharacter, region.endLine, region.endCharacter)

namespace Report

variable {symbol otherSymbol : OutlineEntry} {region otherRegion : FoldingRange}
  {element otherElement : FoldedSymbol}

/-! ## Lines of one sort -/

/-- The line of a symbol tells what it shows. -/
theorem outlineLine_inj :
    outlineLine symbol = outlineLine otherSymbol ↔ symbol.shown = otherSymbol.shown := by
  have start : IsClosed ". Start: " := ⟨' ', rfl, rfl⟩
  have comma : IsClosed "," := ⟨',', rfl, rfl⟩
  have stop : IsClosed ". End: " := ⟨' ', rfl, rfl⟩
  have space : IsClosed ", " := ⟨' ', rfl, rfl⟩
  have bracket : EndsWord "] Name: " := ⟨']', rfl, rfl⟩
  have beginning (symbol : OutlineEntry) : "[" ++ symbol.kind.label ++ "] Name: " ++ symbol.name =
      "[" ++ (symbol.kind.label ++ "] Name: " ++ symbol.name) := by
    rw [String.append_assoc, String.append_assoc, String.append_assoc]
  unfold outlineLine
  rw [append_range_inj start comma stop space, beginning, beginning,
    String.append_right_inj, SymbolKind.label_append_inj bracket]
  simp [OutlineEntry.shown, and_assoc]

/-- The line of a region tells what it shows. -/
theorem rangeLine_inj :
    rangeLine region = rangeLine otherRegion ↔ region.shown = otherRegion.shown := by
  have stop : IsClosed ". End: " := ⟨' ', rfl, rfl⟩
  have space : IsClosed ", " := ⟨' ', rfl, rfl⟩
  unfold rangeLine
  rw [append_optionalNumber_inj space, append_number_inj stop, append_optionalNumber_inj space,
    String.append_right_inj, toString_inj]
  simp [FoldingRange.shown, and_assoc]

/-- The line of a symbol that has a region tells what it shows of the symbol. -/
theorem foldedLine_inj :
    foldedLine element = foldedLine otherElement ↔
      element.symbol.shown = otherElement.symbol.shown := by
  have startLine : IsClosed "' Folding Range: Start Line " := ⟨' ', rfl, rfl⟩
  have startCharacter : IsClosed ", Start Character " := ⟨' ', rfl, rfl⟩
  have endLine : IsClosed ", End Line " := ⟨' ', rfl, rfl⟩
  have endCharacter : IsClosed ", End Character " := ⟨' ', rfl, rfl⟩
  have quote : EndsWord " '" := ⟨' ', rfl, rfl⟩
  unfold foldedLine
  rw [append_range_inj startLine startCharacter endLine endCharacter,
    SymbolKind.label_append_inj quote]
  simp [OutlineEntry.shown, and_assoc]

/-! ## Lines of all sorts -/

/-- What a line shows. -/
inductive Item where
  /-- A symbol. -/
  | symbol (shown : SymbolKind × String × Range)
  /-- A region. -/
  | region (shown : UInt32 × Option UInt32 × UInt32 × Option UInt32)
  /-- A symbol that has a region. -/
  | folded (shown : SymbolKind × String × Range)

namespace Item

/-- The line that shows an item. -/
def line : Item → String
  | .symbol (kind, name, range) => outlineLine ⟨name, kind, range, none⟩
  | .region (startLine, startCharacter, endLine, endCharacter) =>
    rangeLine ⟨startLine, endLine, startCharacter, endCharacter, none⟩
  | .folded (kind, name, range) =>
    foldedLine ⟨⟨name, kind, range, none⟩, ⟨0, 0, none, none, none⟩⟩

/-- What an item shows of a symbol. -/
def symbol? : Item → Option (SymbolKind × String × Range)
  | .symbol shown => some shown
  | _ => none

/-- What an item shows of a region. -/
def region? : Item → Option (UInt32 × Option UInt32 × UInt32 × Option UInt32)
  | .region shown => some shown
  | _ => none

/-- What an item shows of a symbol that has a region. -/
def folded? : Item → Option (SymbolKind × String × Range)
  | .folded shown => some shown
  | _ => none

/-- The first word on the line of an item. -/
def word : Item → String
  | .symbol _ => ""
  | .region _ => "Folding"
  | .folded (kind, _, _) => kind.label

/-- Of what sort a line is, its first word tells. -/
theorem firstWord_line (item : Item) : firstWord item.line = item.word := by
  cases item with
  | symbol shown =>
    have bracket : EndsWord "[" := ⟨'[', rfl, rfl⟩
    unfold line outlineLine
    simp only [String.append_assoc]
    exact firstWord_of_endsWord bracket _
  | region shown =>
    have blank : EndsWord " Range. Start: " := ⟨' ', rfl, rfl⟩
    have split : "Folding Range. Start: " = "Folding" ++ " Range. Start: " := by decide
    unfold line rangeLine
    rw [split]
    simp only [String.append_assoc]
    exact firstWord_append (by decide) blank _
  | folded shown =>
    have quote : EndsWord " '" := ⟨' ', rfl, rfl⟩
    unfold line foldedLine
    simp only [String.append_assoc]
    exact firstWord_append (SymbolKind.all_isLabelChar_label _) quote _

/-- No two items are shown by the same line. -/
theorem line_injective : Function.Injective line := by
  intro item another same
  have words : item.word = another.word := by
    rw [← firstWord_line, same, firstWord_line]
  have apart : "Folding" ≠ "" := by decide
  cases item with
  | symbol shown =>
    cases another with
    | symbol otherShown => exact congrArg symbol (outlineLine_inj.mp same)
    | region otherShown => exact absurd words.symm apart
    | folded otherShown => exact absurd words.symm (SymbolKind.label_ne _).1
  | region shown =>
    cases another with
    | symbol otherShown => exact absurd words apart
    | region otherShown => exact congrArg region (rangeLine_inj.mp same)
    | folded otherShown => exact absurd words.symm (SymbolKind.label_ne _).2
  | folded shown =>
    cases another with
    | symbol otherShown => exact absurd words (SymbolKind.label_ne _).1
    | region otherShown => exact absurd words (SymbolKind.label_ne _).2
    | folded otherShown => exact congrArg folded (foldedLine_inj.mp same)

end Item

/-- What the lines of a report show, line by line. -/
def items (report : Findings) : List Item :=
  (report.symbols.map OutlineEntry.shown).map .symbol ++
    (report.regions.map FoldingRange.shown).map .region ++
    (report.folded.map (·.symbol.shown)).map .folded

/-- The lines of a report are those of what they show. -/
theorem lines_eq_map (report : Findings) : lines report = (items report).map Item.line := by
  simp only [items, List.map_append, List.map_map]
  rfl

/-- Whether two reports show the same symbols, regions and symbols with regions, sort by sort. -/
structure ShowsSame (report other : Findings) : Prop where
  symbols : report.symbols.map OutlineEntry.shown = other.symbols.map OutlineEntry.shown
  regions : report.regions.map FoldingRange.shown = other.regions.map FoldingRange.shown
  folded : report.folded.map (·.symbol.shown) = other.folded.map (·.symbol.shown)

/-- Reports have the same items just if they show the same of each sort. -/
theorem items_eq_iff (report other : Findings) :
    items report = items other ↔ ShowsSame report other := by
  constructor
  · intro same
    have symbols := congrArg (List.filterMap Item.symbol?) same
    have regions := congrArg (List.filterMap Item.region?) same
    have folded := congrArg (List.filterMap Item.folded?) same
    simp only [items, List.filterMap_append, List.filterMap_map] at symbols regions folded
    exact ⟨by simpa [Function.comp_def, Item.symbol?] using symbols,
      by simpa [Function.comp_def, Item.region?] using regions,
      by simpa [Function.comp_def, Item.folded?] using folded⟩
  · rintro ⟨symbols, regions, folded⟩
    rw [items, items, symbols, regions, folded]

/-- The lines of a report tell everything that they show, and no line of one sort is one of
another, whatever the names are. -/
theorem lines_tell_findings (report other : Findings) :
    (lines report = lines other ↔ ShowsSame report other) ∧
    (∀ symbol region, outlineLine symbol ≠ rangeLine region) ∧
    (∀ symbol element, outlineLine symbol ≠ foldedLine element) ∧
    ∀ region element, rangeLine region ≠ foldedLine element := by
  refine ⟨?_, ?_, ?_, ?_⟩
  · rw [lines_eq_map, lines_eq_map, (List.map_injective_iff.mpr Item.line_injective).eq_iff,
      items_eq_iff]
  · intro symbol region same
    cases @Item.line_injective (.symbol symbol.shown) (.region region.shown) same
  · intro symbol element same
    cases @Item.line_injective (.symbol symbol.shown) (.folded element.symbol.shown) same
  · intro region element same
    cases @Item.line_injective (.region region.shown) (.folded element.symbol.shown) same

/-- A name may hold a line break, so the lines tell more than the text that is printed of them. -/
example :
    render .text
        ⟨[⟨"f. Start: 0,0. End: 0, 0\n[Function] Name: g", .function, .origin, none⟩], [], []⟩ =
      render .text
        ⟨[⟨"f", .function, .origin, none⟩, ⟨"g", .function, .origin, none⟩], [], []⟩ := by
  decide

end Report

end FoldAtlas
