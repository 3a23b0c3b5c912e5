import FoldAtlas.Symbol.Entry
import FoldAtlas.Folding

/-!
# Pairing

A symbol and a folding region that cover the same block are paired by position
alone: both begin on the same line, and the region ends a fixed number of lines
before the symbol does. The sum of end line and offset is taken in 64 bits and
wraps; since lines have 32 bits, no sum that wraps is a line. So a wrapped sum
never makes a pair, yet it shows an offset that no document can mean:
`PairingRule.overflows` tells whether pairing comes upon one.
-/

namespace FoldAtlas

/-- How regions are matched with symbols. -/
structure PairingRule where
  /-- What is added to the end line of a region before it is compared. -/
  endLineOffset : Int64
  /-- The kinds of symbols that are never paired. -/
  excludedKinds : List SymbolKind
deriving DecidableEq, Repr

namespace PairingRule

/-- The rule that holds unless the settings give another. Many servers end a
region one line early, and variables have no block. -/
def standard : PairingRule := ⟨1, [.variable]⟩

/-- Whether symbols of a kind are left out. -/
def excludes (rule : PairingRule) (kind : SymbolKind) : Bool :=
  rule.excludedKinds.contains kind

/-- Whether a region covers the same block as a symbol. -/
def isMatch (rule : PairingRule) (symbol : OutlineEntry) (region : FoldingRange) : Bool :=
  region.startLine == symbol.range.start.line &&
    Int64.ofNat region.endLine.toNat + rule.endLineOffset ==
      Int64.ofNat symbol.range.stop.line.toNat

/-- The first region that covers the same block as a symbol. -/
def region? (rule : PairingRule) (symbol : OutlineEntry)
    (regions : List FoldingRange) : Option FoldingRange :=
  regions.find? (rule.isMatch symbol)

/-- The index of the first region that covers the same block as a symbol. -/
def regionIndex? (rule : PairingRule) (symbol : OutlineEntry)
    (regions : List FoldingRange) : Option Nat :=
  regions.findIdx? (rule.isMatch symbol)

/-- Whether the sum of a region's end line and the offset leaves 64 bits. -/
def wraps (rule : PairingRule) (region : FoldingRange) : Bool :=
  let sum := (region.endLine.toNat : Int) + rule.endLineOffset.toInt
  decide (sum < Int64.minValue.toInt) || decide (Int64.maxValue.toInt < sum)

/-- Whether the search for the region of a symbol comes upon a sum that wraps.
The search ends at the first match, and a region that begins on another line is
passed over before the sum is taken. -/
def searchOverflows (rule : PairingRule) (symbol : OutlineEntry)
    (regions : List FoldingRange) : Bool :=
  (regions.takeWhile fun region => !rule.isMatch symbol region).any fun region =>
    region.startLine == symbol.range.start.line && rule.wraps region

/-- The members of a rule; each may be left out. -/
def fields (rule : PayloadRule) :=
  Fields.cons (.defaulted "end_line_offset" .signed64 standard.endLineOffset)
    (.cons (.defaulted "excluded_kinds" (SymbolKind.codecWith rule).list
      standard.excludedKinds) .nil)

/-- Reading and writing a rule. -/
def codecWith (rule : PayloadRule) : Codec PairingRule :=
  (fields rule).codec "CorrelationConfig" (fun (offset, kinds, ()) => ⟨offset, kinds⟩)
    (fun rule => (rule.endLineOffset, rule.excludedKinds, ()))

/-- Reading and writing a rule in a JSON document. -/
def codec : Codec PairingRule := codecWith .json

end PairingRule

/-- A symbol with the region that covers the same block. -/
structure FoldedSymbol where
  symbol : OutlineEntry
  region : FoldingRange
deriving DecidableEq, Repr

namespace FoldedSymbol

/-- The members of a pair. -/
def fields := Fields.cons (.required "symbol" OutlineEntry.codec)
  (.cons (.required "region" FoldingRange.codec) .nil)

/-- Reading and writing a pair. -/
def codec : Codec FoldedSymbol :=
  fields.codec "FoldedSymbol" (fun (symbol, region, ()) => ⟨symbol, region⟩)
    (fun element => (element.symbol, element.region, ()))

end FoldedSymbol

/-- The pairs of symbols and regions, in the order of the symbols. A symbol of an
excluded kind or without a region is left out; a region may serve several
symbols. -/
def PairingRule.pairs (rule : PairingRule) (symbols : List OutlineEntry)
    (regions : List FoldingRange) : List FoldedSymbol :=
  (symbols.filter fun symbol => !rule.excludes symbol.kind).filterMap fun symbol =>
    (rule.region? symbol regions).map fun region => ⟨symbol, region⟩

/-- Whether pairing comes upon a sum that wraps. For a symbol of an excluded kind
no region is sought. -/
def PairingRule.overflows (rule : PairingRule) (symbols : List OutlineEntry)
    (regions : List FoldingRange) : Bool :=
  symbols.any fun symbol =>
    !rule.excludes symbol.kind && rule.searchOverflows symbol regions

/-- What an analysis finds out about a document. -/
structure Findings where
  /-- The symbols, in the order of the server. -/
  symbols : List OutlineEntry
  /-- The folding regions, in the order of the server. -/
  regions : List FoldingRange
  /-- The pairs. -/
  folded : List FoldedSymbol
deriving DecidableEq, Repr

namespace Findings

/-- The members of the findings. -/
def fields := Fields.cons (.required "symbols" OutlineEntry.codec.list)
  (.cons (.required "folding_ranges" FoldingRange.codec.list)
    (.cons (.required "correlated" FoldedSymbol.codec.list) .nil))

/-- Reading and writing the findings. -/
def codec : Codec Findings :=
  fields.codec "Findings"
    (fun (symbols, regions, folded, ()) => ⟨symbols, regions, folded⟩)
    (fun findings => (findings.symbols, findings.regions, findings.folded, ()))

/-- The findings that symbols and regions come to under a rule. -/
def make (symbols : List OutlineEntry) (regions : List FoldingRange)
    (rule : PairingRule) : Findings :=
  ⟨symbols, regions, rule.pairs symbols regions⟩

end Findings

end FoldAtlas
