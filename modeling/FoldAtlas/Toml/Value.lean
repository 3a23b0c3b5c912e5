import FoldAtlas.Toml.Draft
import FoldAtlas.Toml.Quoted

/-!
# Values

Scanning the values of a settings document. Arrays may run over several lines
and hold comments; a table between braces stands on one line. Both nest only so
deep.
-/

namespace FoldAtlas.Toml

/-- How deep arrays and tables between braces may nest. -/
def maxDepth : Nat := 79

/-- Scan a truth value. -/
def truthValue : Scan Toml
  | 't' :: 'r' :: 'u' :: 'e' :: rest => some (.boolean true, rest)
  | 'f' :: 'a' :: 'l' :: 's' :: 'e' :: rest => some (.boolean false, rest)
  | _ => none

/-- Scan a value that is neither an array nor a table. -/
def scalar : Scan Toml := fun text =>
  match anyString text with
  | some (found, rest) => some (.string found, rest)
  | none =>
    match truthValue text with
    | some found => some found
    | none => numberOrTime text

/-- Scan a comma and the item behind it, with blanks, line ends and comments
around both. -/
def nextItem (value : Scan Draft) : Scan Draft := fun text =>
  match skipGaps text with
  | ',' :: rest => value (skipGaps rest)
  | _ => none

/-- The text behind a comma that may follow the last item. -/
def skipComma (text : List Char) : List Char :=
  match skipGaps text with
  | ',' :: rest => skipGaps rest
  | rest => rest

/-- Scan the items of an array up to its closing bracket. -/
def arrayBody (value : Scan Draft) : Scan (List Draft) := fun text =>
  match skipGaps text with
  | ']' :: rest => some ([], rest)
  | text =>
    match value text with
    | none => none
    | some (first, rest) =>
      let (others, rest) := many (nextItem value) rest
      match skipComma rest with
      | ']' :: rest => some (first :: others, rest)
      | _ => none

/-- Scan an entry of a table between braces. -/
def inlineEntry (value : Scan Draft) : Scan (List String × Draft) := fun text =>
  match keyPath text with
  | some (path, '=' :: rest) =>
    (value (skipSpaces rest)).map fun (found, rest) => ((path, found), skipSpaces rest)
  | _ => none

/-- Scan a comma and the entry behind it. -/
def nextEntry (value : Scan Draft) : Scan (List String × Draft)
  | ',' :: rest => inlineEntry value rest
  | _ => none

/-- The table between braces with some entries, if they agree with each other. -/
def tableOf? (entries : List (List String × Draft)) : Option Draft :=
  (entries.foldlM (fun (table : TableDraft) entry => table.addPath entry.1 entry.2)
    TableDraft.empty).map fun table => .braced table.entries

/-- Scan the entries of a table between braces up to the closing one. -/
def tableBody (value : Scan Draft) : Scan Draft := fun text =>
  match skipSpaces text with
  | '\x7d' :: rest => some (.braced [], rest)
  | text =>
    match inlineEntry value text with
    | none => none
    | some (first, rest) =>
      match many (nextEntry value) rest with
      | (others, '\x7d' :: rest) => (tableOf? (first :: others)).map (·, rest)
      | _ => none

/-- Scan a value in which at most `depth` arrays and tables nest. -/
def valueWithin : (depth : Nat) → Scan Draft
  | 0, text => (scalar text).map fun (found, rest) => (.scalar found, rest)
  | depth + 1, text =>
    match text with
    | '[' :: rest => (arrayBody (valueWithin depth) rest).map fun (items, rest) =>
        (.array items, rest)
    | '\x7b' :: rest => tableBody (valueWithin depth) rest
    | text => (scalar text).map fun (found, rest) => (.scalar found, rest)

/-- Scan a value. -/
def anyValue : Scan Draft := valueWithin maxDepth

end FoldAtlas.Toml
