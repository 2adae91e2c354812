import JmapClient.Id
import JmapClient.Json.Record

/-!
# Errors that a server reports

A `RequestError` refuses a whole request, a `MethodError` stands in place of one method's answer, and a
`SetError` tells what became of one record. Each has a type, which is a text: `ErrorType` lists those that
have a meaning of their own.
-/

namespace JmapClient

open Json

/-! ### Types -/

namespace ErrorType

/-! Types of errors of a whole request. -/

def unknownCapability : String := "urn:ietf:params:jmap:error:unknownCapability"
def notJson : String := "urn:ietf:params:jmap:error:notJSON"
def notRequest : String := "urn:ietf:params:jmap:error:notRequest"
def limit : String := "urn:ietf:params:jmap:error:limit"

/-- The types of errors of a whole request. -/
def ofRequests : List String := [unknownCapability, notJson, notRequest, limit]

/-- The type of error of a server that cannot answer now. -/
def serverUnavailable : String := "serverUnavailable"

/-- The types of errors of a method. -/
def ofMethods : List String :=
  [serverUnavailable, "serverFail", "serverPartialFail", "unknownMethod", "invalidArguments",
    "invalidResultReference", "forbidden", "accountNotFound", "accountNotSupportedByMethod",
    "accountReadOnly", "requestTooLarge", "cannotCalculateChanges", "stateMismatch",
    "fromAccountNotFound", "fromAccountNotSupportedByMethod", "anchorNotFound", "unsupportedSort",
    "unsupportedFilter", "tooManyChanges"]

/-- The types of errors of a record. -/
def ofRecords : List String :=
  ["overQuota", "tooLarge", "rateLimit", "notFound", "invalidPatch", "willDestroy",
    "invalidProperties", "singleton", "alreadyExists"]

end ErrorType

/-! ### Errors of a request -/

/-- A problem document: why a server refused a request. `ofRequests` lists the types that have a name here. -/
structure RequestError where
  type : String
  /-- The status that the document gives, or 0. -/
  status : UInt16
  detail : String
  /-- The limit that the request exceeds. -/
  limit : Option String
deriving DecidableEq, Repr

namespace RequestError

open Record in
instance : Readable RequestError where
  read := Record.read "RequestError" <|
    RequestError.mk <$> required "type" <*> defaulted "status" 0 <*> defaulted "detail" "" <*>
      nullable "limit"

instance : Writable RequestError where
  write e := writeRecord
    [member "type" e.type, member "status" e.status, member "detail" e.detail,
      optionalMember "limit" e.limit]

/-- The error in words. -/
def message (e : RequestError) : String :=
  e.type ++ ": " ++ e.detail ++ match e.limit with
    | some limit => " (" ++ limit ++ ")"
    | none => ""

end RequestError

/-! ### Errors of a method -/

/-- Why a server failed at one method call. -/
structure MethodError where
  type : String
  description : Option String
  /-- What else the server told. -/
  extra : SortedMap String Value

namespace MethodError

open Record in
instance : Readable MethodError where
  read d := do
    let ((type, description), extra) ← OpenRecord.read "MethodError"
      (Prod.mk <$> defaulted "type" "" <*> optional "description") d
    return ⟨type, description, extra⟩

instance : Writable MethodError where
  write e := writeRecord
    [member "type" e.type, optionalMember "description" e.description,
      .ok (Value.memberTrees e.extra)]

/-- The error in words. -/
def message (e : MethodError) : String :=
  "method error " ++ e.type ++ match e.description with
    | some description => ": " ++ description
    | none => ""

/-- A value as text: a string as it is, any other as JSON. -/
def textOf (v : Value) : String := v.string?.getD v.print

/-- What an error tells that is not well formed: the members of an object, or else a lone value. A type or
description that is no string is kept as its JSON text. -/
def salvage (v : Value) : MethodError :=
  let members := match v.members? with
    | some ms => ms
    | none => if v.isNull then ∅ else SortedMap.empty.insert "value" v
  { type := ((members.find? "type").map textOf).getD ""
    description := (members.find? "description").map textOf
    extra := (members.erase "type").erase "description" }

/-- The error that a server sent, however malformed it is (`salvage`). -/
def ofValue (v : Value) : MethodError :=
  match (v.read : Except Problem MethodError) with
  | .ok e => e
  | .error _ => salvage v

end MethodError

/-! ### Errors of a record -/

/-- Why a server did not create, change, destroy or copy a record. -/
structure SetError where
  type : String
  description : Option String
  /-- The properties that are at fault. -/
  properties : Option (List String)
deriving DecidableEq, Repr

namespace SetError

open Record in
instance : Readable SetError where
  read := Record.read "SetError" <|
    SetError.mk <$> required "type" <*> optional "description" <*> optional "properties"

instance : Writable SetError where
  write e := writeRecord
    [member "type" e.type, optionalMember "description" e.description,
      optionalMember "properties" e.properties]

/-- Whether the error is of `type`. -/
def hasType (e : SetError) (type : String) : Bool := e.type == type

/-- The error in words. -/
def message (e : SetError) : String :=
  let description := match e.description with
    | some description => ": " ++ description
    | none => ""
  let properties := match e.properties with
    | some properties => " [" ++ ", ".intercalate properties ++ "]"
    | none => ""
  e.type ++ description ++ properties

end SetError

end JmapClient
