import ContentVault.FileTree
import ContentVault.Text.Utf8

/-!
# Errors of a blob store

What a store says when it cannot do what it was asked.  The kinds tell what the
caller can do about it: absence is a kind of its own, and three kinds may pass on
a second attempt.
-/

namespace ContentVault

/-- Why a blob store refused or failed. -/
inductive BlobError where
  | notFound (path : String)
  | permissionDenied (path : String)
  | inputOutput (reason : String)
  | network (reason : String)
  | invalidPath (path : String)
  | backend (reason : String)
  deriving DecidableEq, Repr

namespace BlobError

/-- The text of an error. -/
def message : BlobError → String
  | .notFound path => "blob not found: " ++ path
  | .permissionDenied path => "permission denied: " ++ path
  | .inputOutput reason => "I/O error: " ++ reason
  | .network reason => "network error: " ++ reason
  | .invalidPath path => "invalid path: " ++ path
  | .backend reason => "backend error: " ++ reason

/-- Whether a second attempt might succeed. -/
def retryable : BlobError → Bool
  | .inputOutput _ | .network _ | .backend _ => true
  | .notFound _ | .permissionDenied _ | .invalidPath _ => false

/-- Whether the blob is absent, as opposed to out of reach. -/
def isNotFound : BlobError → Bool
  | .notFound _ => true
  | _ => false

/-- The error for a failure on files, about a path as it was asked for. -/
def ofFileFailure (path : List UInt8) : FileFailure → BlobError
  | .missing => .notFound (Utf8.decodeBytesLossy path)
  | failure => .inputOutput failure.message

/-- The error for a path without a key. -/
def ofBadPath (path : List UInt8) : BlobError :=
  .invalidPath (Utf8.decodeBytesLossy path)

end BlobError

/-- The key of a path, or the error that it has none. -/
def requireKey (path : List UInt8) : Except BlobError (List PathName) :=
  match blobKey? path with
  | some names => .ok names
  | none => .error (.ofBadPath path)

end ContentVault
