import FoldAtlas.FilePath
import FoldAtlas.Text.Numeral

/-!
# File URIs

A file is named to a server by a URI: the scheme, then the absolute path as
text, in which every byte that is not a letter, a digit or one of `/.-_~` is
written as `%` and two hexadecimal digits. A backslash counts as a separator, and
a text that does not begin at the root is put behind it.
-/

namespace FoldAtlas

namespace Uri

/-- Whether a byte stands for itself. -/
def isPlain (byte : UInt8) : Bool :=
  (0x30 ≤ byte && byte ≤ 0x39) || (0x41 ≤ byte && byte ≤ 0x5A) ||
    (0x61 ≤ byte && byte ≤ 0x7A) || byte == 0x2F || byte == 0x2E || byte == 0x2D ||
    byte == 0x5F || byte == 0x7E

/-- How a byte is written. -/
def encodeByte (byte : UInt8) : List Char :=
  if isPlain byte then [Char.ofNat byte.toNat]
  else ['%', hexUpper (byte.toNat / 16), hexUpper (byte.toNat % 16)]

/-- How bytes are written. -/
def encode (bytes : Bytes) : List Char := bytes.flatMap encodeByte

/-- The bytes that an encoded text stands for. -/
def decode? : List Char → Option Bytes
  | [] => some []
  | '%' :: high :: low :: rest =>
    match hexDigit? high, hexDigit? low, decode? rest with
    | some high, some low, some bytes => some (UInt8.ofNat (16 * high + low) :: bytes)
    | _, _, _ => none
  | char :: rest =>
    if char = '%' ∨ 0x80 ≤ char.toNat then none
    else (decode? rest).map (UInt8.ofNat char.toNat :: ·)

/-- The text of an absolute path, with `/` as its only separator. -/
def pathText (path : FilePath) : String :=
  String.ofList ((Bytes.lossyText path).toList.map fun char =>
    if char = '\\' then '/' else char)

/-- The scheme of file URIs. -/
def scheme : String := "file://"

/-- A written path, put behind the root if it does not begin there. -/
def rooted : List Char → List Char
  | '/' :: rest => '/' :: rest
  | written => '/' :: written

/-- The URI of a path as seen from a directory. -/
def ofPath (path directory : FilePath) : String :=
  scheme ++ String.ofList (rooted (encode (Bytes.ofText (pathText (path.within directory)))))

end Uri

end FoldAtlas
