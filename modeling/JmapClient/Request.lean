import JmapClient.Hex
import JmapClient.Invocation
import JmapClient.Reference

/-!
# Batches of calls

A `Request` is a batch of method calls, and grows by one call at a time (`Request.invoke`,
`Request.invokeAs`). Each call has an id of its own, by which its answer is found and to which later calls
can refer (`Request.reference`).
-/

namespace JmapClient

open Json

/-- A batch of method calls. -/
structure Request where
  /-- The capabilities that the calls need, in the order in which they are first needed. -/
  uses : List Uri
  calls : List (Invocation Value)
  /-- The ids that the server gave to records created earlier, by the ids that the client chose. -/
  createdIds : Option (SortedMap Id Id)

namespace Request

open Record in
instance : Readable Request where
  read := Record.read "Request" <|
    Request.mk <$> required "using" <*> required "methodCalls" <*> optional "createdIds"

instance : Writable Request where
  write r := writeRecord
    [member "using" r.uses, member "methodCalls" r.calls, optionalMember "createdIds" r.createdIds]

/-- The batch without calls. -/
def empty : Request := ⟨[], [], none⟩

instance : EmptyCollection Request := ⟨empty⟩

/-- Tells the server of records created earlier, by `ids`. -/
def withCreatedIds (r : Request) (ids : SortedMap Id Id) : Request := { r with createdIds := some ids }

/-- Whether a call has the id `callId`. -/
def hasCall (r : Request) (callId : String) : Bool := r.calls.any (·.callId == callId)

/-- The first of `fuel` numbers from `n` on whose numeral is not taken. -/
def firstFree (taken : String → Bool) (n : Nat) : Nat → Nat
  | 0 => n
  | fuel + 1 => if taken (hexNumeral n) then firstFree taken (n + 1) fuel else n

/-- The number of the next call: its place in the batch, or the first number behind it that is no call's
id. Among one more numbers than there are calls there is always such a one. -/
def nextNumber (r : Request) : Nat := firstFree r.hasCall r.calls.length (r.calls.length + 1)

/-- Adds those of `more` to `uses` that are not there yet. -/
def addUses (uses : List Uri) (more : List Uri) : List Uri :=
  more.foldl (fun us u => if us.contains u then us else us ++ [u]) uses

/-- The first of `arguments` that is given both as a value and as a reference, if there is one. -/
def conflict? (arguments : Value) : Option String := do
  let members ← arguments.members?
  members.keys.findSome? fun key =>
    match key.toList with
    | '#' :: rest =>
      let name := String.ofList rest
      match members.find? name with
      | some v => if v.isNull then none else some name
      | none => none
    | _ => none

/-- Adds the call `m` under `callId`. The second part is the id. -/
def invokeAs (r : Request) (callId : String) (m : MethodCall) : Except Error (Request × String) :=
  if r.hasCall callId then .error (.duplicateCallId callId)
  else match m.arguments with
    | .error problem => .error (.json problem)
    | .ok arguments =>
      match conflict? arguments with
      | some name => .error (.conflictingArgument name)
      | none =>
        .ok ({ r with
          uses := addUses r.uses m.requires
          calls := r.calls ++ [⟨m.name, arguments, callId⟩] }, callId)

/-- Adds the call `m` under an id of its own. The second part is the id. -/
def invoke (r : Request) (m : MethodCall) : Except Error (Request × String) :=
  r.invokeAs (hexNumeral r.nextNumber) m

/-- Refers to the part `path` of the answer to the call `callId` in the batch. -/
def reference (r : Request) (callId path : String) : Except Error ResultReference :=
  match r.calls.find? (·.callId == callId) with
  | some call => .ok ⟨callId, call.name, path⟩
  | none => .error (.unknownCallId callId)

end Request

end JmapClient
