import FoldAtlas.FilePath
import FoldAtlas.Json.Variant

/-!
# Languages

The language of a document is told from the extension of its file name. Each
language has an identifier that servers know and a server that is started when
the settings name none.

Letters of an extension match in either case. Folding ASCII letters is enough:
the Kelvin sign is the only other character whose lower case is a single ASCII
letter, and no extension below contains a `k`.
-/

namespace FoldAtlas

/-- A language that servers are known for. -/
inductive Language where
  | python
  | rust
  | go
  | typeScript
  | javaScript
  | c
  | cpp
  /-- Any other language. -/
  | unknown
deriving DecidableEq, Repr, Inhabited

namespace Language

/-- Every language. -/
def all : List Language :=
  [.python, .rust, .go, .typeScript, .javaScript, .c, .cpp, .unknown]

/-- The extensions of the files of a language, in lower case. -/
def extensions : Language → List String
  | .python => ["py", "pyi"]
  | .rust => ["rs"]
  | .go => ["go"]
  | .typeScript => ["ts", "tsx", "mts", "cts"]
  | .javaScript => ["js", "jsx", "mjs", "cjs"]
  | .c => ["c", "h"]
  | .cpp => ["cpp", "cc", "cxx", "hpp", "hxx"]
  | .unknown => []

/-- The language of the files with an extension. -/
def ofExtension (extension : String) : Language :=
  let lower := String.ofList (extension.toList.map Char.toLower)
  (all.find? fun language => language.extensions.contains lower).getD .unknown

/-- The language of a file. -/
def ofPath (path : FilePath) : Language :=
  match path.extension?.bind Bytes.text? with
  | some extension => ofExtension extension
  | none => .unknown

/-- The identifier under which servers know a language. -/
def id : Language → String
  | .python => "python"
  | .rust => "rust"
  | .go => "go"
  | .typeScript => "typescript"
  | .javaScript => "javascript"
  | .c => "c"
  | .cpp => "cpp"
  | .unknown => "plaintext"

/-- The program that serves a language, and its arguments. -/
def server : Language → String × List String
  | .rust => ("rust-analyzer", [])
  | .go => ("gopls", [])
  | .typeScript | .javaScript => ("typescript-language-server", ["--stdio"])
  | .c | .cpp => ("clangd", [])
  | .python | .unknown => ("pylsp", [])

/-- The title of a language. -/
def title : Language → String
  | .python => "Python"
  | .rust => "Rust"
  | .go => "Go"
  | .typeScript => "TypeScript"
  | .javaScript => "JavaScript"
  | .c => "C"
  | .cpp => "Cpp"
  | .unknown => "Unknown"

/-- The name of a language in documents. -/
def name (language : Language) : String :=
  String.ofList (language.title.toList.map Char.toLower)

/-- Reading and writing a language. -/
def codec : Codec Language :=
  .variants .json (all.map fun language => (language.name, language)) name

end Language

end FoldAtlas
