import JmapClient.Utf8

/-!
# HTTP

What a client sends (`Http.Request`) and gets back: an answer, whatever its status (`Http.Response`), or a
failure to get one (`Http.Failure`).
-/

namespace JmapClient.Http

/-- What a client sends. -/
inductive Request
  | get (url : String)
  | post (url contentType : String) (body : List UInt8)
deriving DecidableEq, Repr

/-- Where a request goes. -/
def Request.url : Request → String
  | .get url => url
  | .post url _ _ => url

/-- The type of JSON bodies. -/
def jsonType : String := "application/json"

/-- The type of JSON bodies that tell of a problem. -/
def problemType : String := "application/problem+json"

/-- A failure to get an answer, or to read all of it. -/
structure Failure where
  /-- The status of an answer that began but could not be read to its end. -/
  status : Option UInt16
  message : String
deriving DecidableEq, Repr

/-- The failure in words. -/
def Failure.text (f : Failure) : String :=
  match f.status with
  | some status => "HTTP error " ++ toString status.toNat ++ ": " ++ f.message
  | none => "HTTP error: " ++ f.message

/-- An answer. -/
structure Response where
  status : UInt16
  contentType : Option String
  body : List UInt8
deriving DecidableEq, Repr

/-- What comes of a request. -/
abbrev Answer : Type := Except Failure Response

/-- The code points of white space. -/
def blanks : List (Nat × Nat) :=
  [(0x9, 0xD), (0x20, 0x20), (0x85, 0x85), (0xA0, 0xA0), (0x1680, 0x1680), (0x2000, 0x200A),
    (0x2028, 0x2029), (0x202F, 0x202F), (0x205F, 0x205F), (0x3000, 0x3000)]

/-- Whether `c` is white space. -/
def isBlank (c : Char) : Bool := blanks.any fun (low, high) => low ≤ c.toNat ∧ c.toNat ≤ high

/-- A text without white space at its ends. -/
def trim (cs : List Char) : List Char :=
  ((cs.dropWhile isBlank).reverse.dropWhile isBlank).reverse

/-- The media type in a content type: without parameters and surrounding space, in lower case. -/
def mediaType (contentType : String) : String :=
  String.ofList ((trim (contentType.toList.takeWhile (· ≠ ';'))).map Char.toLower)

namespace Response

/-- Whether the status is 200. -/
def isOk (r : Response) : Bool := r.status == 200

/-- Whether the status is one of success. -/
def isSuccess (r : Response) : Bool := 200 ≤ r.status ∧ r.status < 300

/-- Whether the body is JSON by its type: `jsonType` or `problemType`. -/
def isJson (r : Response) : Bool :=
  match r.contentType with
  | some contentType =>
    mediaType contentType == jsonType || mediaType contentType == problemType
  | none => false

/-- The body as text, with U+FFFD for what is not UTF-8 (`Utf8.decodeReplacing`). -/
def bodyText (r : Response) : String := Utf8.decodeReplacing r.body

end Response

end JmapClient.Http
