import JmapClient.Error
import JmapClient.Schema

/-!
# Registries

A `Registry` tells how the answers to methods and the capabilities of servers are decoded. The last
registration of a name counts, so a registry is no more than a map from names to decoders.

An error that a server sends in place of an answer is decoded however malformed it is
(`AnswerDecoder.lenient`); other answers must be well formed.
-/

namespace JmapClient

open Json

variable {S : Schema}

/-! ### Answers to methods -/

/-- The name that stands in place of the method's when a server failed at a call. -/
def errorName : String := "error"

/-- How an answer is decoded. -/
inductive AnswerDecoder (S : Schema)
  /-- As an error, keeping what can be kept of a malformed one. -/
  | lenient
  /-- As data of type `t`. -/
  | strict (t : PayloadType S)
deriving DecidableEq

/-- Decodes an answer. -/
def AnswerDecoder.decode : AnswerDecoder S → Value → Except Problem (Payload S)
  | .lenient, v => .ok ⟨.methodError, MethodError.ofValue v⟩
  | .strict t, v => (v.read (α := t.Data)).map (Payload.mk t)

/-- How the answers to methods are decoded, by the methods' names. -/
structure MethodRegistry (S : Schema) where
  decoders : SortedMap String (AnswerDecoder S)
deriving DecidableEq

namespace MethodRegistry

/-- Knows errors only. -/
def empty : MethodRegistry S := ⟨SortedMap.empty.insert errorName .lenient⟩

/-- Decodes answers under a name as data of a type. -/
def register (m : MethodRegistry S) (name : String) (t : PayloadType S) : MethodRegistry S :=
  ⟨m.decoders.insert name (.strict t)⟩

/-- Whether answers under `name` can be decoded. -/
def contains (m : MethodRegistry S) (name : String) : Bool := m.decoders.contains name

/-- The names under which answers can be decoded, in increasing order. -/
def names (m : MethodRegistry S) : List String := m.decoders.keys

/-- Decodes the answer `arguments` to the call `callId`, by its `name`. -/
def decode (m : MethodRegistry S) (name callId : String) (arguments : Value) :
    Except Error (Payload S) :=
  match m.decoders.find? name with
  | none => .error (.unknownMethod name)
  | some decoder =>
    match decoder.decode arguments with
    | .ok p => .ok p
    | .error problem => .error (.undecodableArguments name callId problem)

end MethodRegistry

/-! ### Capabilities -/

/-- A decoded capability. -/
inductive Capability (S : Schema)
  | core (c : CoreCapability)
  | other (c : S.Capability)

/-- Decoded capabilities by their names. -/
abbrev Capabilities (S : Schema) : Type := SortedMap Uri (Capability S)

/-- The core capability among decoded ones. -/
def Capabilities.core? (cs : Capabilities S) : Option CoreCapability :=
  match cs.find? Core.uri with
  | some (.core c) => some c
  | _ => none

/-- The capability `uri`, other than the core one, among decoded ones. -/
def Capabilities.other? (cs : Capabilities S) (uri : Uri) : Option S.Capability :=
  match cs.find? uri with
  | some (.other c) => some c
  | _ => none

/-- How capabilities are decoded, by their names. -/
structure CapabilityRegistry (S : Schema) where
  decoders : SortedMap Uri (Value → Except Problem (Capability S))

namespace CapabilityRegistry

/-- Knows no capability. -/
def empty : CapabilityRegistry S := ⟨∅⟩

/-- Decodes the capability `uri` by `decoder`. -/
def register (c : CapabilityRegistry S) (uri : Uri) (decoder : Value → Except Problem (Capability S)) :
    CapabilityRegistry S :=
  ⟨c.decoders.insert uri decoder⟩

/-- Decodes the capability `uri` as data of type `α`. -/
def registerData {α : Type} [Readable α] (c : CapabilityRegistry S) (uri : Uri)
    (wrap : α → Capability S) : CapabilityRegistry S :=
  c.register uri fun v => (v.read (α := α)).map wrap

/-- Decodes the core capability. -/
def registerCore (c : CapabilityRegistry S) : CapabilityRegistry S :=
  c.registerData Core.uri Capability.core

/-- Whether the capability `uri` can be decoded. -/
def contains (c : CapabilityRegistry S) (uri : Uri) : Bool := c.decoders.contains uri

/-- The names of the capabilities that can be decoded, in increasing order. -/
def uris (c : CapabilityRegistry S) : List Uri := c.decoders.keys

/-- Decodes each capability of a list that can be decoded and passes over the others. -/
def decodeEntries (c : CapabilityRegistry S) :
    List (Uri × Value) → Except Error (List (Uri × Capability S))
  | [] => .ok []
  | (uri, v) :: rest =>
    match c.decoders.find? uri with
    | none => c.decodeEntries rest
    | some decoder =>
      match decoder v with
      | .error problem => .error (.undecodableCapability uri problem)
      | .ok capability => (c.decodeEntries rest).map ((uri, capability) :: ·)

/-- Decodes the capabilities that can be decoded. -/
def decode (c : CapabilityRegistry S) (raw : SortedMap Uri Value) :
    Except Error (Capabilities S) :=
  (c.decodeEntries raw.entries).map .ofList

end CapabilityRegistry

/-! ### Both together -/

/-- How what a server sends is decoded. -/
structure Registry (S : Schema) where
  methods : MethodRegistry S
  capabilities : CapabilityRegistry S

namespace Registry

/-- Knows errors only. -/
def empty : Registry S := ⟨.empty, .empty⟩

/-- Decodes answers under a name as data of a type. -/
def registerMethod (r : Registry S) (name : String) (t : PayloadType S) : Registry S :=
  { r with methods := r.methods.register name t }

/-- Decodes the core capability. -/
def registerCore (r : Registry S) : Registry S :=
  { r with capabilities := r.capabilities.registerCore }

/-- Decodes the answers of the standard methods on `records` of a type. -/
def registerRecords (r : Registry S) (records : S.Records) : Registry S :=
  let name := RecordType.methodName (S.Record records)
  r.registerMethod (name Get.method) (.get records)
    |>.registerMethod (name Changes.method) (.changes records)
    |>.registerMethod (name SetRecords.method) (.set records)
    |>.registerMethod (name Query.method) (.query records)
    |>.registerMethod (name QueryChanges.method) (.queryChanges records)

/-- Knows the core capability and its methods. -/
def core : Registry S :=
  (empty.registerCore.registerMethod Echo.methodName .echo).registerMethod BlobCopy.methodName
    .blobCopy

end Registry

end JmapClient
