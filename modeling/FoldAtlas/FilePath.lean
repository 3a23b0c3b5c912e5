import FoldAtlas.Text.Utf8

/-!
# File paths

A path is a byte string in which `/` separates components. Empty components and
`.` between separators mean nothing; `..` is a component like any other until a
file system resolves it.
-/

namespace FoldAtlas

/-- A file path. -/
abbrev FilePath := Bytes

namespace FilePath

/-- The separator of components. -/
def separator : UInt8 := 0x2F

/-- The byte of a full stop. -/
def stop : UInt8 := 0x2E

/-- The byte that no path may hold. -/
def nul : UInt8 := 0

/-- How many bytes a name may have. -/
def maxNameLength : Nat := 255

/-- How many bytes a path may have as a whole when it is handed to the system. -/
def maxLength : Nat := 4095

/-- Whether a path starts at the root. -/
def isAbsolute (path : FilePath) : Bool := path.head? == some separator

/-- What stands between the separators of a path. -/
def pieces : FilePath → List Bytes
  | [] => [[]]
  | byte :: rest =>
    if byte = separator then [] :: pieces rest
    else match pieces rest with
      | [] => [[byte]]
      | piece :: others => (byte :: piece) :: others

/-- The components of a path that mean something. -/
def components (path : FilePath) : List Bytes :=
  (pieces path).filter fun piece => piece != [] && piece != [stop]

/-- A path as seen from a directory. -/
def within (path directory : FilePath) : FilePath :=
  if isAbsolute path then path
  else if directory.getLast? = some separator ∨ directory = [] then directory ++ path
  else directory ++ [separator] ++ path

/-- The last component of a path, unless that is `..` or there is none. -/
def fileName? (path : FilePath) : Option Bytes :=
  match (components path).getLast? with
  | some name => if name = [stop, stop] then none else some name
  | none => none

/-- The bytes behind the last full stop of a name, unless the name has none or
only begins with it. -/
def extension? (path : FilePath) : Option Bytes :=
  match fileName? path with
  | none => none
  | some name =>
    let behind := (name.reverse.takeWhile fun byte => byte != stop).reverse
    if behind.length + 1 < name.length then some behind else none

/-- The path of a list of components from the root. -/
def ofComponents (components : List Bytes) : FilePath :=
  if components = [] then [separator]
  else components.flatMap fun component => separator :: component

end FilePath

end FoldAtlas
