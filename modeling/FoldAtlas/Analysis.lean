import FoldAtlas.Client.Operation
import FoldAtlas.Pairing

/-!
# Analyses

An analysis takes a fresh client through one document: it greets the server,
announces the document, asks for its folding regions, asks for its symbols, and
pairs the two. The first operation that fails ends it, and nothing is paired
then. A pairing that comes upon a sum out of range breaks the analysis down.
-/

namespace FoldAtlas

/-- Which operation of an analysis is under way. -/
inductive AnalysisStage where
  | greeting
  /-- The announcement of the document. -/
  | opening
  /-- The query for folding regions. -/
  | folding
  /-- The query for symbols; the regions are known. -/
  | listing (regions : List FoldingRange)
deriving DecidableEq, Repr, Inhabited

/-- What an analysis is about. -/
structure AnalysisSubject where
  /-- The URI of the document. -/
  uri : String
  /-- The identifier of its language. -/
  languageId : String
  text : String
  /-- How to pair symbols with regions. -/
  rule : PairingRule
deriving Repr

/-- An analysis. -/
inductive Analysis where
  /-- An operation is under way. -/
  | running (stage : AnalysisStage) (operation : Operation)
  /-- The analysis is over. -/
  | reported (report : Findings)
  /-- An operation failed. -/
  | failed (failure : Failure)
  /-- An operation or the pairing broke down. -/
  | brokeDown
deriving Repr, Inhabited

namespace Analysis

/-- An analysis at its start. -/
def start : Analysis := .running .greeting (.greet .begun)

/-- What follows upon the result of an operation. -/
def next (subject : AnalysisSubject) : AnalysisStage → OperationResult → Analysis
  | .greeting, _ =>
    .running .opening (.openUri subject.uri subject.languageId subject.text)
  | .opening, _ => .running .folding (.ask .folding .begun)
  | .folding, .regions regions => .running (.listing regions) (.ask .symbols .begun)
  | .listing regions, .symbols symbols =>
    if subject.rule.overflows symbols regions then .brokeDown
    else .reported (.make symbols regions subject.rule)
  | _, _ => .brokeDown

/-- What follows upon the end of an operation. -/
def follow (subject : AnalysisSubject) (stage : AnalysisStage) : Ending → Analysis
  | .returned result => next subject stage result
  | .failed failure => .failed failure
  | .brokeDown => .brokeDown

/-- Advance an analysis by one step of its operation. -/
def step (subject : AnalysisSubject) (client : Client) (surroundings : Surroundings) :
    Analysis → Option (Client × Analysis)
  | .running stage (.over ending) => some (client, follow subject stage ending)
  | .running stage operation =>
    (client.step surroundings operation).map fun (client, operation) =>
      (client, .running stage operation)
  | .reported _ | .failed _ | .brokeDown => none

end Analysis

end FoldAtlas
