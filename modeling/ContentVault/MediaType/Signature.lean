import ContentVault.Text.Blank

/-!
# Content signatures

The first bytes of many formats tell the format.

* a signature is a list of byte strings at fixed offsets, all of which must be
  present; the first matching entry of the table wins;
* only when none matches, a document that starts like HTML is HTML, blanks before
  it and the letter case aside.
-/

namespace ContentVault.MediaType

/-- A byte string that must stand at an offset. -/
structure SignaturePart where
  offset : Nat
  magic : List UInt8
  deriving DecidableEq, Repr

/-- The parts that identify a media type. -/
structure Signature where
  parts : List SignaturePart
  mediaType : String
  deriving DecidableEq, Repr

/-- Whether a byte string stands at a position of a payload. -/
def holdsAt (payload : ByteArray) : Nat → List UInt8 → Bool
  | _, [] => true
  | position, byte :: rest =>
      payload[position]? == some byte && holdsAt payload (position + 1) rest

/-- Whether a part is present in a payload. -/
def SignaturePart.holds (part : SignaturePart) (payload : ByteArray) : Bool :=
  holdsAt payload part.offset part.magic

/-- Whether all parts are present in a payload. -/
def Signature.holds (signature : Signature) (payload : ByteArray) : Bool :=
  signature.parts.all fun part => part.holds payload

/-- A signature with one part at the start of the payload. -/
def leading (magic : List UInt8) (mediaType : String) : Signature :=
  ⟨[⟨0, magic⟩], mediaType⟩

/-- A signature of a container: its name, then the kind of its content behind
four bytes of length. -/
def riff (content : List UInt8) (mediaType : String) : Signature :=
  ⟨[⟨0, [0x52, 0x49, 0x46, 0x46]⟩, ⟨8, content⟩], mediaType⟩

/-- The known signatures in the order in which they are tried. -/
def signatures : List Signature := [
  leading [0x89, 0x50, 0x4E, 0x47, 0x0D, 0x0A, 0x1A, 0x0A] "image/png",
  leading [0xFF, 0xD8, 0xFF] "image/jpeg",
  leading [0x47, 0x49, 0x46, 0x38, 0x37, 0x61] "image/gif",
  leading [0x47, 0x49, 0x46, 0x38, 0x39, 0x61] "image/gif",
  riff [0x57, 0x45, 0x42, 0x50] "image/webp",
  leading [0x42, 0x4D] "image/bmp",
  leading [0x49, 0x49, 0x2A, 0x00] "image/tiff",
  leading [0x4D, 0x4D, 0x00, 0x2A] "image/tiff",
  leading [0x00, 0x00, 0x01, 0x00] "image/x-icon",
  leading [0x25, 0x50, 0x44, 0x46, 0x2D] "application/pdf",
  leading [0x25, 0x21, 0x50, 0x53, 0x2D, 0x41, 0x64, 0x6F, 0x62, 0x65, 0x2D]
    "application/postscript",
  leading [0x50, 0x4B, 0x03, 0x04] "application/zip",
  leading [0x1F, 0x8B, 0x08] "application/gzip",
  leading [0x42, 0x5A, 0x68] "application/x-bzip2",
  leading [0xFD, 0x37, 0x7A, 0x58, 0x5A, 0x00] "application/x-xz",
  leading [0x28, 0xB5, 0x2F, 0xFD] "application/zstd",
  leading [0x37, 0x7A, 0xBC, 0xAF, 0x27, 0x1C] "application/x-7z-compressed",
  leading [0x52, 0x61, 0x72, 0x21, 0x1A, 0x07] "application/vnd.rar",
  ⟨[⟨257, [0x75, 0x73, 0x74, 0x61, 0x72]⟩], "application/x-tar"⟩,
  riff [0x57, 0x41, 0x56, 0x45] "audio/wav",
  riff [0x41, 0x56, 0x49, 0x20] "video/x-msvideo",
  leading [0x49, 0x44, 0x33] "audio/mpeg",
  leading [0x4F, 0x67, 0x67, 0x53, 0x00] "application/ogg",
  leading [0x66, 0x4C, 0x61, 0x43] "audio/flac",
  ⟨[⟨4, [0x66, 0x74, 0x79, 0x70]⟩], "video/mp4"⟩,
  leading [0x1A, 0x45, 0xDF, 0xA3] "video/webm",
  leading [0x00, 0x61, 0x73, 0x6D] "application/wasm",
  leading [0x7F, 0x45, 0x4C, 0x46] "application/x-elf",
  leading [0x53, 0x51, 0x4C, 0x69, 0x74, 0x65, 0x20, 0x66, 0x6F, 0x72, 0x6D, 0x61, 0x74,
    0x20, 0x33, 0x00] "application/vnd.sqlite3",
  leading [0x3C, 0x3F, 0x78, 0x6D, 0x6C] "text/xml"]

/-- A byte with an ASCII capital made small. -/
def lowercaseByte (byte : UInt8) : UInt8 :=
  if 0x41 ≤ byte ∧ byte ≤ 0x5A then byte + 0x20 else byte

/-- Whether a byte string stands at a position, letter case aside; the string
itself is lowercase. -/
def holdsIgnoringCaseAt (payload : ByteArray) : Nat → List UInt8 → Bool
  | _, [] => true
  | position, byte :: rest =>
      payload[position]?.map lowercaseByte == some byte &&
        holdsIgnoringCaseAt payload (position + 1) rest

/-- The position of the first byte that is not blank, at most `remaining` further
on. -/
def skipBlanks (payload : ByteArray) : Nat → Nat → Nat
  | 0, position => position
  | remaining + 1, position =>
      match payload[position]? with
      | some byte =>
          if isAsciiBlank byte then skipBlanks payload remaining (position + 1) else position
      | none => position

/-- The two ways in which an HTML document starts, in lowercase. -/
def htmlOpenings : List (List UInt8) := [
  [0x3C, 0x21, 0x64, 0x6F, 0x63, 0x74, 0x79, 0x70, 0x65, 0x20, 0x68, 0x74, 0x6D, 0x6C],
  [0x3C, 0x68, 0x74, 0x6D, 0x6C]]

/-- Whether a payload starts like an HTML document. -/
def startsLikeHtml (payload : ByteArray) : Bool :=
  let start := skipBlanks payload payload.size 0
  htmlOpenings.any fun opening => holdsIgnoringCaseAt payload start opening

/-- The media type that the bytes of a payload reveal. -/
def sniff (payload : ByteArray) : Option String :=
  match signatures.find? fun signature => signature.holds payload with
  | some signature => some signature.mediaType
  | none => if startsLikeHtml payload then some "text/html" else none

end ContentVault.MediaType
