import ContentVault.Calendar
import ContentVault.Digest.Sha256
import ContentVault.Text.Hexadecimal

/-!
# Content addresses

A file is known by the SHA-256 digest of its first bytes.

* equal payloads have equal addresses, whoever stores them and when;
* the bytes of a file are stored under its owner, the month of the upload and the
  file's address.
-/

namespace ContentVault

/-- The largest payload that is accepted unless configured otherwise. -/
def defaultUploadLimit : UInt64 := 16777216

/-- The address of a payload: sixty-four lowercase hexadecimal digits. -/
def fileIdOf (payload : ByteArray) : String :=
  String.ofList (Hexadecimal.ofBytes (Digest.Sha256.digest payload))

/-- The path under which an owner's payload is stored. -/
def storagePath (owner : String) (uploadedAt : Timestamp) (fileId : String) : String :=
  owner ++ "/" ++ uploadedAt.yearMonth.text ++ "/" ++ fileId

end ContentVault
