import ContentVault.BlobKey
import ContentVault.MediaType.ExtensionTable
import ContentVault.MediaType.Signature
import ContentVault.Text.Lowercase
import ContentVault.Text.Utf8

/-!
# Media types

What kind of content a payload is.

* the bytes decide first, then the file name's extension if it denotes a text
  format, then what the caller declared, and last `application/octet-stream`;
* extensions decide for text formats only, because a binary format worth trusting
  has a signature.
-/

namespace ContentVault.MediaType

/-- The media type of content about which nothing is known. -/
def octetStream : String := "application/octet-stream"

/-- Types outside `text/` that are text all the same. -/
def textualTypes : List String := [
  "application/json",
  "application/xml",
  "application/javascript",
  "application/x-javascript",
  "application/yaml",
  "application/x-yaml",
  "application/toml"]

/-- The type without its parameters, in lowercase. -/
def essence (mediaType : String) : String :=
  asciiLowercase (String.ofList (trimChars (mediaType.toList.takeWhile (· ≠ ';'))))

/-- Whether a media type denotes text that people read. -/
def isTextual (mediaType : String) : Bool :=
  let kind := essence mediaType
  kind.startsWith "text/" || kind.endsWith "+json" || kind.endsWith "+xml" ||
    textualTypes.contains kind

/-- The case folding of a character, as far as it can meet a known extension. -/
def foldChar (character : Char) : List Char :=
  match character.toNat with
  | 0xDF => ['s', 's']
  | 0x17F => ['s']
  | 0x1E9E => ['s', 's']
  | 0x212A => ['k']
  | 0xFB00 => ['f', 'f']
  | 0xFB01 => ['f', 'i']
  | 0xFB02 => ['f', 'l']
  | 0xFB03 => ['f', 'f', 'i']
  | 0xFB04 => ['f', 'f', 'l']
  | 0xFB05 => ['s', 't']
  | 0xFB06 => ['s', 't']
  | _ => [character.toLower]

/-- An extension with its letter case folded. -/
def foldExtension (extension : String) : String :=
  String.ofList (extension.toList.flatMap foldChar)

/-- The text format that a file name's extension denotes. -/
def textualOfName? (fileName : String) : Option String := do
  let extension ← pathExtension? (Utf8.encode fileName)
  let folded := foldExtension (Utf8.decodeBytesLossy extension)
  let entry ← textualExtensions.find? fun entry => entry.2.contains folded
  return entry.1

/-- The media type of a payload, from its bytes, its name and what the caller
says about it. -/
def classify (payload : ByteArray) (fileName : String) (declared : Option String) : String :=
  match sniff payload with
  | some mediaType => mediaType
  | none =>
      match textualOfName? fileName with
      | some mediaType => mediaType
      | none => (declared.bind nonBlank?).getD octetStream

end ContentVault.MediaType
