import JmapClient.Blob
import JmapClient.Records.Changes
import JmapClient.Records.Get
import JmapClient.Records.Query
import JmapClient.Records.Set

/-!
# Payloads

What a server answers to a method call has a type that depends on the method. A `Schema` lists the types
of data that an application knows besides those that every client knows; `PayloadType` are the types of
answers under a schema, and a `Payload` is an answer together with its type. `Payload.as?` takes an answer
to be of a given type.
-/

namespace JmapClient

open Json

/-- The types of data that an application knows. -/
structure Schema where
  /-- Names of the types of records. -/
  Records : Type
  /-- Names of further types of answers. -/
  Others : Type
  /-- Capabilities other than the core one, as they are decoded. -/
  Capability : Type
  Record : Records → Type
  Condition : Records → Type
  Other : Others → Type
  recordType : ∀ r, RecordType (Record r) (Condition r)
  readable : ∀ o, Readable (Other o)
  writable : ∀ o, Writable (Other o)
  decideRecords : DecidableEq Records
  decideOthers : DecidableEq Others

namespace Schema

attribute [instance] recordType readable writable decideRecords decideOthers

/-- What a client knows that has no types of its own. -/
def core : Schema where
  Records := Empty
  Others := Empty
  Capability := Empty
  Record := Empty.elim
  Condition := Empty.elim
  Other := Empty.elim
  recordType r := r.elim
  readable o := o.elim
  writable o := o.elim
  decideRecords := inferInstance
  decideOthers := inferInstance

end Schema

/-- The types of answers. -/
inductive PayloadType (S : Schema)
  | methodError
  | echo
  | blobCopy
  | get (r : S.Records)
  | changes (r : S.Records)
  | set (r : S.Records)
  | query (r : S.Records)
  | queryChanges (r : S.Records)
  | other (o : S.Others)
deriving DecidableEq

variable {S : Schema}

namespace PayloadType

/-- The answers of a type. -/
def Data : PayloadType S → Type
  | .methodError => MethodError
  | .echo => Echo
  | .blobCopy => BlobCopyResponse
  | .get r => GetResponse (S.Record r)
  | .changes _ => ChangesResponse
  | .set _ => SetResponse
  | .query _ => QueryResponse
  | .queryChanges _ => QueryChangesResponse
  | .other o => S.Other o

instance : ∀ t : PayloadType S, Readable t.Data
  | .methodError => inferInstanceAs (Readable MethodError)
  | .echo => inferInstanceAs (Readable Echo)
  | .blobCopy => inferInstanceAs (Readable BlobCopyResponse)
  | .get r => inferInstanceAs (Readable (GetResponse (S.Record r)))
  | .changes _ => inferInstanceAs (Readable ChangesResponse)
  | .set _ => inferInstanceAs (Readable SetResponse)
  | .query _ => inferInstanceAs (Readable QueryResponse)
  | .queryChanges _ => inferInstanceAs (Readable QueryChangesResponse)
  | .other o => inferInstanceAs (Readable (S.Other o))

instance : ∀ t : PayloadType S, Writable t.Data
  | .methodError => inferInstanceAs (Writable MethodError)
  | .echo => inferInstanceAs (Writable Echo)
  | .blobCopy => inferInstanceAs (Writable BlobCopyResponse)
  | .get r => inferInstanceAs (Writable (GetResponse (S.Record r)))
  | .changes _ => inferInstanceAs (Writable ChangesResponse)
  | .set _ => inferInstanceAs (Writable SetResponse)
  | .query _ => inferInstanceAs (Writable QueryResponse)
  | .queryChanges _ => inferInstanceAs (Writable QueryChangesResponse)
  | .other o => inferInstanceAs (Writable (S.Other o))

end PayloadType

/-- An answer and its type. -/
structure Payload (S : Schema) where
  type : PayloadType S
  data : type.Data

namespace Payload

instance : Writable (Payload S) where
  write p := write p.data

/-- The answer, if it is of type `t`. -/
def as? (t : PayloadType S) (p : Payload S) : Option t.Data :=
  if h : p.type = t then some (h ▸ p.data) else none

theorem as?_eq_some_iff {t : PayloadType S} {p : Payload S} {d : t.Data} :
    p.as? t = some d ↔ p = ⟨t, d⟩ := by
  obtain ⟨u, e⟩ := p
  constructor
  · intro h
    unfold as? at h
    split at h
    · rename_i hu
      subst hu
      simpa using h
    · cases h
  · intro h
    cases h
    simp [as?]

/-- Whether the answer is of type `t`. -/
def hasType (t : PayloadType S) (p : Payload S) : Bool := p.type == t

end Payload

end JmapClient
