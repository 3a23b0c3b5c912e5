import FoldAtlas.Text.Utf8
import FoldAtlas.Toml.Value

/-!
# Documents

A settings document is a sequence of lines: entries, headers of tables, headers
of the tables of an array, and lines without meaning. `Toml.read?` splits a text
into statements and carries them out one after the other; a text that is not a
document has no reading.
-/

namespace FoldAtlas.Toml

/-- What a line of a document says. -/
inductive Statement where
  /-- An entry of the current table. -/
  | entry (path : List String) (value : Draft)
  /-- The header of a table, which becomes the current one. -/
  | header (path : List String)
  /-- The header of one more table of an array, which becomes the current one. -/
  | element (path : List String)
deriving Repr, Inhabited

/-- Scan a header with a number of brackets on each side. -/
def bracketed (brackets : Nat) : Scan (List String) := fun text =>
  match literal (List.replicate brackets '[') text with
  | none => none
  | some ((), rest) =>
    match keyPath rest with
    | none => none
    | some (path, rest) =>
      (literal (List.replicate brackets ']') rest).map fun ((), rest) => (path, rest)

/-- Scan a header. -/
def headerLine : Scan Statement := fun text =>
  match text with
  | '[' :: '[' :: _ => (bracketed 2 text).map fun (path, rest) => (.element path, rest)
  | _ => (bracketed 1 text).map fun (path, rest) => (.header path, rest)

/-- Scan an entry. -/
def entryLine : Scan Statement := fun text =>
  match keyPath text with
  | some (path, '=' :: rest) =>
    (anyValue (skipSpaces rest)).map fun (found, rest) => (.entry path found, rest)
  | _ => none

/-- Scan a line with its end. A line without meaning gives no statement, and
there is no line at the end of the text. -/
def statementLine : Scan (Option Statement) := fun text =>
  match skipSpaces text with
  | [] => if text = [] then none else some (none, [])
  | '#' :: rest => (lineEnd ('#' :: rest)).map fun rest => (none, rest)
  | '\n' :: rest => some (none, rest)
  | '\r' :: rest => (newline ('\r' :: rest)).map fun ((), rest) => (none, rest)
  | '[' :: rest => do
    let (statement, rest) ← headerLine ('[' :: rest)
    let rest ← lineEnd rest
    return (some statement, rest)
  | text => do
    let (statement, rest) ← entryLine text
    let rest ← lineEnd rest
    return (some statement, rest)

/-- The statements of a text. -/
def statements? (text : List Char) : Option (List Statement) :=
  match many statementLine text with
  | (found, []) => some (found.filterMap id)
  | (_, _ :: _) => none

/-- A document while its statements are carried out. -/
structure Composition where
  /-- The whole document so far. -/
  root : TableDraft
  /-- The path of the current table. -/
  path : List String
deriving Repr, Inhabited

namespace Composition

/-- The document without statements: the current table is the whole. -/
def empty : Composition := ⟨.empty, []⟩

/-- Carry out a statement, if the document so far admits it. -/
def add (document : Composition) : Statement → Option Composition
  | .entry path value =>
    (document.root.within false (·.addPath path value) document.path).map fun root =>
      { document with root }
  | .header path =>
    (document.root.atPath TableDraft.beginTable path).map fun root => ⟨root, path⟩
  | .element path =>
    (document.root.atPath TableDraft.beginElement path).map fun root => ⟨root, path⟩

end Composition

/-- The mark that may stand in front of a text. -/
def mark : Char := '\ufeff'

/-- The text behind a mark in front of it. -/
def withoutMark : List Char → List Char
  | char :: rest => if char = mark then rest else char :: rest
  | [] => []

/-- The entries of the document that a text spells. The document as a whole is a
table whatever its first key is. -/
def read? (text : String) : Option Entries := do
  let found ← statements? (withoutMark text.toList)
  let document ← found.foldlM Composition.add .empty
  let entries ← completeEntries? document.root.entries
  return Keyed.sort entries

end FoldAtlas.Toml
