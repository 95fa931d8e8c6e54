import ContentVault.Blob.Basic

/-!
# Blobs in a bucket

A store that keeps its blobs as objects of a remote bucket, all of them under one
key prefix.

* the key of an object is the normal form of the prefix, a slash and the normal
  form of the path, so no path reaches an object outside the prefix;
* what the service does not answer, or refuses, is a network error;
* deleting an object that is not there succeeds, because the service cannot tell.
-/

namespace ContentVault

/-- An object of a bucket with what is recorded beside it. -/
structure BucketObject where
  content : ByteArray
  contentType : Option String
  storedAt : Timestamp

/-- What a request does and to what. -/
inductive BucketRequest where
  | headBucket
  | createBucket (location : Option String)
  | headObject (key : String)
  | getObject (key : String)
  | putObject (key : String)
  | deleteObject (key : String)
  deriving DecidableEq, Repr

/-- The HTTP method of a request. -/
def BucketRequest.method : BucketRequest → String
  | .headBucket | .headObject _ => "HEAD"
  | .getObject _ => "GET"
  | .createBucket _ | .putObject _ => "PUT"
  | .deleteObject _ => "DELETE"

/-- Whether a request is about the bucket itself. -/
def BucketRequest.isAboutBucket : BucketRequest → Bool
  | .headBucket | .createBucket _ => true
  | _ => false

/-- The remote service: one bucket and the ways in which the service misbehaves. -/
structure BucketService where
  /-- Whether requests get through to the service at all. -/
  reachable : Bool
  bucketExists : Bool
  objects : Table String BucketObject
  /-- Methods that are refused, with whether that is for the bucket itself. -/
  denied : List (String × Bool)
  /-- The code with which creating the bucket is refused. -/
  creationRefusal : Option String
  /-- The number of bytes after which the body of an object breaks off. -/
  truncateAfter : Option Nat
  /-- Whether an object is described without its size, type and date. -/
  bareDescriptions : Bool
  /-- The requests that were answered, newest first. -/
  requests : List BucketRequest

namespace BucketService

/-- A service that no request gets through to. -/
def unreachable : BucketService where
  reachable := false
  bucketExists := false
  objects := []
  denied := []
  creationRefusal := none
  truncateAfter := none
  bareDescriptions := false
  requests := []

/-- Note a request and say whether it is let through. -/
def receive (service : BucketService) (request : BucketRequest) : Bool × BucketService :=
  if service.reachable then
    (!service.denied.contains (request.method, request.isAboutBucket),
      { service with requests := request :: service.requests })
  else
    (false, service)

end BucketService

/-- A bucket of a service as a blob store. -/
structure BucketStore where
  service : BucketService
  region : String
  /-- The normal form of the key prefix. -/
  keyPrefix : Option String

namespace BucketStore

/-- The region whose buckets are created without a location. -/
def defaultRegion : String := "us-east-1"

/-- The error for a request that failed. -/
def requestFailed : BlobError := .network "the request failed"

/-- The normal form of a prefix.  A prefix of slashes alone is none. -/
def normalPrefix? (keyPrefix : Option String) : Except BlobError (Option String) :=
  match keyPrefix with
  | none => .ok none
  | some text =>
      if text.toList.all (· = '/') then
        .ok none
      else
        match normalPath? (Utf8.encode text) with
        | none => .error (.ofBadPath (Utf8.encode text))
        | some normal =>
            match Utf8.decode? (ByteArray.mk normal.toArray) with
            | none => .error (.ofBadPath normal)
            | some above => .ok (some above)

/-- A key below a prefix; slashes at the end of the prefix do not count. -/
def joinKey (keyPrefix : Option String) (key : String) : String :=
  match keyPrefix with
  | none => key
  | some above =>
      String.ofList (above.toList.reverse.dropWhile (· = '/')).reverse ++ "/" ++ key

/-- The key of the object for a path. -/
def fullKey (keyPrefix : Option String) (path : List UInt8) : Except BlobError String :=
  match normalPath? path with
  | none => .error (.ofBadPath path)
  | some normal =>
      match Utf8.decode? (ByteArray.mk normal.toArray) with
      | none => .error (.ofBadPath normal)
      | some key => .ok (joinKey keyPrefix key)

/-- Make sure that the bucket exists. -/
def ensureBucket (store : BucketStore) : Except BlobError Unit × BucketStore :=
  match store.service.receive .headBucket with
  | (false, service) => (.error requestFailed, { store with service })
  | (true, service) =>
      if service.bucketExists then
        (.ok (), { store with service })
      else
        let location := if store.region = defaultRegion then none else some store.region
        match service.receive (.createBucket location) with
        | (false, service) => (.error requestFailed, { store with service })
        | (true, service) =>
            match service.creationRefusal with
            | none =>
                (.ok (), { store with service := { service with bucketExists := true } })
            | some code =>
                if code = "BucketAlreadyOwnedByYou" ∨ code = "BucketAlreadyExists" then
                  (.ok (), { store with service })
                else
                  (.error requestFailed, { store with service })

/-- Describe a blob. -/
def stat (store : BucketStore) (path : List UInt8) (now : Timestamp) :
    Except BlobError BlobStat × BucketStore :=
  match fullKey store.keyPrefix path with
  | .error failure => (.error failure, store)
  | .ok key =>
      match store.service.receive (.headObject key) with
      | (false, service) => (.error requestFailed, { store with service })
      | (true, service) =>
          let after := { store with service }
          match service.objects.get? key with
          | none => (.error (.notFound (Utf8.decodeBytesLossy path)), after)
          | some object =>
              if service.bareDescriptions then
                (.ok ⟨path, 0, none, some now⟩, after)
              else
                (.ok ⟨path, object.content.size, object.contentType,
                  some object.storedAt.wholeSecond⟩, after)

/-- Open a blob for reading. -/
def reader (store : BucketStore) (path : List UInt8) :
    Except BlobError BlobStream × BucketStore :=
  match fullKey store.keyPrefix path with
  | .error failure => (.error failure, store)
  | .ok key =>
      match store.service.receive (.getObject key) with
      | (false, service) => (.error requestFailed, { store with service })
      | (true, service) =>
          let after := { store with service }
          match service.objects.get? key with
          | none => (.error (.notFound (Utf8.decodeBytesLossy path)), after)
          | some object =>
              match service.truncateAfter with
              | some kept =>
                  if kept < object.content.size then
                    (.ok ((chunksOf (object.content.extract 0 kept)).map Except.ok ++
                      [.error requestFailed]), after)
                  else
                    (.ok ((chunksOf object.content).map Except.ok), after)
              | none => (.ok ((chunksOf object.content).map Except.ok), after)

/-- The content type of an object that was stored without one. -/
def untyped : String := "application/octet-stream"

/-- Store a blob, in the place of an older one. -/
def write
    (store : BucketStore) (path : List UInt8) (content : ByteArray)
    (contentType : Option String) (storedAt : Timestamp) :
    Except BlobError Unit × BucketStore :=
  match fullKey store.keyPrefix path with
  | .error failure => (.error failure, store)
  | .ok key =>
      match store.service.receive (.putObject key) with
      | (false, service) => (.error requestFailed, { store with service })
      | (true, service) =>
          let object := ⟨content, some (contentType.getD untyped), storedAt⟩
          (.ok (), { store with
            service := { service with objects := service.objects.put key object } })

/-- Delete a blob, or nothing. -/
def delete (store : BucketStore) (path : List UInt8) :
    Except BlobError Unit × BucketStore :=
  match fullKey store.keyPrefix path with
  | .error failure => (.error failure, store)
  | .ok key =>
      match store.service.receive (.deleteObject key) with
      | (false, service) => (.error requestFailed, { store with service })
      | (true, service) =>
          (.ok (), { store with
            service := { service with objects := service.objects.erase key } })

end BucketStore

end ContentVault
