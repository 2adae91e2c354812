import JmapClient.Core
import JmapClient.ServerError

/-!
# Blobs

A blob is data that the server keeps under an identifier. Blobs are uploaded to an account
(`UploadResponse` is the server's answer) and copied from one account to another (`BlobCopy`).
-/

namespace JmapClient

open Json

/-- What a server tells of a blob that it has taken. -/
structure UploadResponse where
  accountId : Id
  blobId : Id
  mediaType : String
  /-- In octets. -/
  size : UInt64
deriving DecidableEq, Repr

namespace UploadResponse

open Record in
instance : Readable UploadResponse where
  read := Record.read "UploadResponse" <|
    UploadResponse.mk <$> required "accountId" <*> required "blobId" <*> required "type" <*>
      required "size"

instance : Writable UploadResponse where
  write u := writeRecord
    [member "accountId" u.accountId, member "blobId" u.blobId, member "type" u.mediaType,
      member "size" u.size]

end UploadResponse

/-- Copies blobs from one account to another. -/
structure BlobCopy where
  fromAccountId : Id
  accountId : Id
  blobIds : List Id
deriving DecidableEq, Repr

namespace BlobCopy

/-- The name of the method. -/
def methodName : String := "Blob/copy"

/-- The call that copies the blobs. -/
def call (c : BlobCopy) : MethodCall where
  name := methodName
  requires := [Core.uri]
  arguments := MethodCall.argumentsOf
    [member "fromAccountId" c.fromAccountId, member "accountId" c.accountId,
      member "blobIds" c.blobIds]

end BlobCopy

/-- Which blobs were copied. -/
structure BlobCopyResponse where
  fromAccountId : Id
  accountId : Id
  /-- The id of each copy, by the id of the blob that it is a copy of. -/
  copied : Option (SortedMap Id Id)
  notCopied : Option (SortedMap Id SetError)

namespace BlobCopyResponse

open Record in
instance : Readable BlobCopyResponse where
  read := Record.read "BlobCopyResponse" <|
    BlobCopyResponse.mk <$> required "fromAccountId" <*> required "accountId" <*>
      optional "copied" <*> optional "notCopied"

instance : Writable BlobCopyResponse where
  write c := writeRecord
    [member "fromAccountId" c.fromAccountId, member "accountId" c.accountId,
      optionalMember "copied" c.copied, optionalMember "notCopied" c.notCopied]

end BlobCopyResponse

end JmapClient
