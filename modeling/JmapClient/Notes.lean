import JmapClient.Registry
import JmapClient.Timestamp

/-!
# Notes

An application of the library to a small type of records: notes that lie in folders, with a method and a
capability of their own.
-/

namespace JmapClient.Notes

open Json

/-- The name of the capability of servers that keep notes. -/
def uri : Uri := ⟨"urn:example:notes"⟩

/-- A note. -/
structure Note where
  /-- Given by the server. -/
  id : Option Id
  title : String
  tags : List String
  createdAt : Option UtcDate
  dueAt : Option Date
  /-- The folders that the note lies in, each bound to `true`. -/
  folderIds : Option (SortedMap Id Bool)

namespace Note

open Record in
instance : Readable Note where
  read := Record.read "Note" <|
    Note.mk <$> nullable "id" <*> required "title" <*> defaulted "tags" [] <*>
      optional "createdAt" <*> optional "dueAt" <*> optional "folderIds"

instance : Writable Note where
  write n := writeRecord
    [optionalMember "id" n.id, member "title" n.title,
      if n.tags.isEmpty then .ok [] else member "tags" n.tags,
      optionalMember "createdAt" n.createdAt, optionalMember "dueAt" n.dueAt,
      optionalMember "folderIds" n.folderIds]

end Note

/-- A condition on notes. -/
structure NoteFilter where
  titleContains : Option String
  inFolder : Option Id
  minSize : Option UInt64
deriving DecidableEq, Repr, Inhabited

namespace NoteFilter

open Record in
instance : Readable NoteFilter where
  read := Record.read "NoteFilter" <|
    NoteFilter.mk <$> nullable "titleContains" <*> nullable "inFolder" <*> nullable "minSize"

instance : Writable NoteFilter where
  write f := writeRecord
    [optionalMember "titleContains" f.titleContains, optionalMember "inFolder" f.inFolder,
      optionalMember "minSize" f.minSize]

end NoteFilter

instance : RecordType Note NoteFilter where
  typeName := "Note"
  capabilities := [Core.uri, uri]

/-- A payload that counts. -/
structure Ping where
  count : UInt32
deriving DecidableEq, Repr

namespace Ping

open Record in
instance : Readable Ping where
  read := Record.read "Ping" <| Ping.mk <$> required "count"

instance : Writable Ping where
  write p := writeRecord [member "count" p.count]

end Ping

/-- A capability with one value. -/
structure TestCapability where
  testValue : UInt32
deriving DecidableEq, Repr

namespace TestCapability

/-- The name of the capability. -/
def uri : Uri := ⟨"test:jmap:capability"⟩

open Record in
instance : Readable TestCapability where
  read := Record.read "TestCapability" <| TestCapability.mk <$> required "testValue"

instance : Writable TestCapability where
  write c := writeRecord [member "testValue" c.testValue]

end TestCapability

/-- What a server may have besides the core capability. -/
inductive Feature
  | test (c : TestCapability)
  | flag (b : Bool)
deriving DecidableEq, Repr

/-- The types of data of the application. -/
def schema : Schema where
  Records := Unit
  Others := Unit
  Capability := Feature
  Record _ := Note
  Condition _ := NoteFilter
  Other _ := Ping
  recordType _ := inferInstance
  readable _ := inferInstance
  writable _ := inferInstance
  decideRecords := inferInstance
  decideOthers := inferInstance

/-- The types of answers, each with its name. -/
def answerTypes : List (String × PayloadType schema) :=
  [("Echo", .echo), ("BlobCopyResponse", .blobCopy), ("Ping", .other ()),
    ("MethodError", .methodError), ("GetResponse", .get ()), ("ChangesResponse", .changes ()),
    ("SetResponse", .set ()), ("QueryResponse", .query ()),
    ("QueryChangesResponse", .queryChanges ())]

/-- Decodes the capability with one value. -/
def registerTest (r : Registry schema) : Registry schema :=
  { r with capabilities :=
      r.capabilities.registerData TestCapability.uri fun c => .other (.test c) }

/-- Decodes the capability `uri` as whether it is an object. -/
def registerFlag (r : Registry schema) (uri : Uri) : Registry schema :=
  { r with capabilities :=
      r.capabilities.register uri fun v => .ok (.other (.flag v.members?.isSome)) }

/-- Refuses the capability `uri`. -/
def registerRefusal (r : Registry schema) (uri : Uri) (reason : String) : Registry schema :=
  { r with capabilities :=
      r.capabilities.register uri fun _ => .error (.here (.refused reason)) }

/-- The capability with one value among decoded ones. -/
def test? (cs : Capabilities schema) : Option TestCapability :=
  match cs.other? TestCapability.uri with
  | some (.test c) => some c
  | _ => none

/-- The flag `uri` among decoded capabilities. -/
def flag? (cs : Capabilities schema) (uri : Uri) : Option Bool :=
  match cs.other? uri with
  | some (.flag b) => some b
  | _ => none

end JmapClient.Notes
