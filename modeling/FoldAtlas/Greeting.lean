import FoldAtlas.Json.Record

/-!
# The greeting

What client and server tell each other before anything else: the client where
it works and what it understands, the server what it offers. The server's offer
is kept whole, though only two entries of it matter here.
-/

namespace FoldAtlas

/-- What a server offers. -/
structure ServerCapabilities where
  /-- Its offer to list the symbols of a document. -/
  symbolProvider : Option Json
  /-- Its offer to list the folding regions of a document. -/
  foldingProvider : Option Json
  /-- Every other entry, in increasing order of names. -/
  others : List (String × Json)
deriving Repr, Inhabited

namespace ServerCapabilities

/-- The name of the entry about symbols. -/
def symbolEntry : String := "documentSymbolProvider"

/-- The name of the entry about folding regions. -/
def foldingEntry : String := "foldingRangeProvider"

/-- An entry that is there and not `null`. -/
def present? (name : String) (members : List (String × Json)) : Option Json :=
  match List.lookup name members with
  | some .null => none
  | found => found

/-- Reading and writing an offer, which is an object and never an array. -/
def codec : Codec ServerCapabilities where
  decode
    | .object members =>
      .ok ⟨present? symbolEntry members, present? foldingEntry members,
        members.filter fun member =>
          member.1 != symbolEntry && member.1 != foldingEntry⟩
    | other => .error (.unlike other "struct ServerCapabilities")
  encode offer :=
    .object ((offer.symbolProvider.toList.map fun value => (symbolEntry, value)) ++
      (offer.foldingProvider.toList.map fun value => (foldingEntry, value)) ++
      offer.others)

/-- Whether an entry is an offer: anything but `null` and `false` is. -/
def offers : Option Json → Bool
  | none | some .null => false
  | some (.bool value) => value
  | some _ => true

/-- Whether the server offers to list symbols. -/
def supportsSymbols (offer : ServerCapabilities) : Bool := offers offer.symbolProvider

/-- Whether the server offers to list folding regions. -/
def supportsFolding (offer : ServerCapabilities) : Bool := offers offer.foldingProvider

/-- No offer at all. -/
def none : ServerCapabilities := ⟨Option.none, Option.none, []⟩

end ServerCapabilities

/-- Who a server is. -/
structure ServerInfo where
  name : String
  /-- Its version, if it tells it. -/
  version : Option String
deriving DecidableEq, Repr, Inhabited

namespace ServerInfo

/-- The members of a server's introduction. -/
def fields := Fields.cons (.required "name" .text) (.cons (.optional "version" .text) .nil)

/-- Reading and writing a server's introduction. -/
def codec : Codec ServerInfo :=
  fields.codec "ServerInfo" (fun (name, version, ()) => ⟨name, version⟩)
    (fun info => (info.name, info.version, ()))

end ServerInfo

/-- A server's side of the greeting. -/
structure Greeting where
  /-- What it offers. -/
  capabilities : ServerCapabilities
  /-- Who it is, if it tells it. -/
  serverInfo : Option ServerInfo
deriving Repr, Inhabited

namespace Greeting

/-- The members of a greeting; a server may leave all of them out. -/
def fields := Fields.cons (.defaulted "capabilities" ServerCapabilities.codec .none)
  (.cons (.optional "serverInfo" ServerInfo.codec) .nil)

/-- Reading and writing a greeting. -/
def codec : Codec Greeting :=
  fields.codec "InitializeResult" (fun (capabilities, info, ()) => ⟨capabilities, info⟩)
    (fun greeting => (greeting.capabilities, greeting.serverInfo, ()))

/-- The greeting of a server that tells nothing. -/
def silent : Greeting := ⟨.none, Option.none⟩

/-- The name that the client gives itself. -/
def clientName : String := "symfold"

/-- The version that the client gives itself. -/
def clientVersion : String := "0.1.0"

/-- The client's side of the greeting: its process, the root of its work, the
symbol kinds it knows, and that it wants neither trees of symbols nor folding by
whole lines only. -/
def clientParams (processId : Nat) (rootUri : String) : Json :=
  .object [
    ("capabilities", .object [
      ("textDocument", .object [
        ("documentSymbol", .object [
          ("hierarchicalDocumentSymbolSupport", .bool false),
          ("symbolKind", .object [
            ("valueSet", .array ((List.range 26).map fun code => .natural (code + 1)))])]),
        ("foldingRange", .object [("lineFoldingOnly", .bool false)])])]),
    ("clientInfo", .object [
      ("name", .string clientName), ("version", .string clientVersion)]),
    ("processId", .natural processId),
    ("rootUri", .string rootUri)]

end Greeting

end FoldAtlas
