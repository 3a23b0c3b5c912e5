import FoldAtlas.Pairing
import FoldAtlas.Json.Text

/-!
# Reports

How the findings of an analysis, or what kept it from any, are shown: as lines
of text for a reader, or as one JSON document for a program.
-/

namespace FoldAtlas

/-- The form of a report. -/
inductive ReportFormat where
  /-- Lines of text. -/
  | text
  /-- A JSON document. -/
  | json
deriving DecidableEq, Repr, Inhabited

namespace ReportFormat

/-- The name of a form. -/
def name : ReportFormat → String
  | .text => "text"
  | .json => "json"

/-- The forms with their names. -/
def table : List (String × ReportFormat) :=
  [ReportFormat.text, .json].map fun format => (format.name, format)

/-- Reading and writing a form. -/
def codecWith (rule : PayloadRule) : Codec ReportFormat := .variants rule table name

/-- Reading and writing a form in a JSON document. -/
def codec : Codec ReportFormat := codecWith .json

end ReportFormat

namespace Report

/-- A number that may be missing. -/
def optionalNumber : Option UInt32 → String
  | none => ""
  | some number => toString number

/-- The line of a symbol. -/
def outlineLine (symbol : OutlineEntry) : String :=
  let start := symbol.range.start
  let stop := symbol.range.stop
  "[" ++ symbol.kind.label ++ "] Name: " ++ symbol.name ++ ". Start: " ++
    toString start.line ++ "," ++ toString start.character ++ ". End: " ++
    toString stop.line ++ ", " ++ toString stop.character

/-- The line of a folding region. -/
def rangeLine (region : FoldingRange) : String :=
  "Folding Range. Start: " ++ toString region.startLine ++ ", " ++
    optionalNumber region.startCharacter ++ ". End: " ++ toString region.endLine ++
    ", " ++ optionalNumber region.endCharacter

/-- The line of a symbol that has a region. -/
def foldedLine (element : FoldedSymbol) : String :=
  let start := element.symbol.range.start
  let stop := element.symbol.range.stop
  element.symbol.kind.label ++ " '" ++ element.symbol.name ++
    "' Folding Range: Start Line " ++ toString start.line ++ ", Start Character " ++
    toString start.character ++ ", End Line " ++ toString stop.line ++
    ", End Character " ++ toString stop.character

/-- The lines of a report: its symbols, its regions, and the symbols among them
that have a region. -/
def lines (report : Findings) : List String :=
  report.symbols.map outlineLine ++ report.regions.map rangeLine ++
    report.folded.map foldedLine

/-- The document of a report. -/
def successDocument (report : Findings) : Json :=
  (Json.object [("success", .bool true), ("data", Findings.codec.encode report)]).sorted

/-- The document of an error, with a code if it has one. -/
def errorDocument (message : String) (code : Option Int32) : Json :=
  (Json.object ([("success", .bool false), ("error", .string message)] ++
    (code.toList.map fun code => ("code", .integer code.toInt)))).sorted

/-- What is printed for a report. -/
def render (format : ReportFormat) (report : Findings) : String :=
  match format with
  | .text => String.join ((lines report).map (· ++ "\n"))
  | .json => (successDocument report).pretty ++ "\n"

end Report

end FoldAtlas
