import FoldAtlas.Failure
import FoldAtlas.FilePath

/-!
# File trees

The files and folders that somebody can see, by their places from the root. A
place is the list of the names on the way to it. Finding a path in a tree
resolves `.` and `..` step by step, so a path that leads through something that
is no folder, or is not there, or has too long a name, is found out where it
does.
-/

namespace FoldAtlas

/-- Where a file or folder is: the names on the way from the root. -/
abbrev Place := List Bytes

/-- A file tree. -/
structure FileTree where
  /-- The files with their contents. -/
  files : List (Place × Bytes)
  /-- The folders that are there even when they are empty. -/
  folders : List Place
deriving Repr, Inhabited

namespace FileTree

/-- The content of the file at a place. -/
def file? (tree : FileTree) (place : Place) : Option Bytes :=
  List.lookup place tree.files

/-- Whether there is a folder at a place: the root is one, and so is whatever
holds a file or folder. -/
def isFolder (tree : FileTree) (place : Place) : Bool :=
  place.isEmpty || tree.folders.any (fun folder => place.isPrefixOf folder) ||
    tree.files.any fun entry => place.isPrefixOf entry.1 && place != entry.1

/-- Whether there is anything at a place. -/
def isThere (tree : FileTree) (place : Place) : Bool :=
  (tree.file? place).isSome || tree.isFolder place

/-- Follow the pieces of a path from a place that is there. -/
def follow (tree : FileTree) (here : Place) : List Bytes → Except StreamFault Place
  | [] => .ok here
  | piece :: rest =>
    if !tree.isFolder here then .error .notADirectory
    else if piece = [] ∨ piece = [FilePath.stop] then follow tree here rest
    else if piece = [FilePath.stop, FilePath.stop] then follow tree here.dropLast rest
    else if FilePath.maxNameLength < piece.length then .error .nameTooLong
    else if tree.isThere (here ++ [piece]) then follow tree (here ++ [piece]) rest
    else .error .notFound

/-- The place of a path as seen from a folder. -/
def locate (tree : FileTree) (path folder : FilePath) : Except StreamFault Place :=
  if path.contains FilePath.nul then .error .nulInPath
  else if path = [] then .error .notFound
  else tree.follow [] (FilePath.pieces (path.within folder))

/-- The content of the file at a place. -/
def read (tree : FileTree) (place : Place) : Except StreamFault Bytes :=
  match tree.file? place with
  | some content => .ok content
  | none => .error (if tree.isFolder place then .isADirectory else .notFound)

end FileTree

end FoldAtlas
