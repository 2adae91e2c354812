import JmapClient.RecordType
import JmapClient.Reference
import JmapClient.ServerError

/-!
# Changing records

`SetRecords` creates, changes and destroys records, and `SetResponse` tells what became of each.
-/

namespace JmapClient

open Json

/-- New values of a record's properties, by the path to each. A value of `null` resets a property. -/
abbrev Patch : Type := SortedMap String Value

/-- Creates, changes and destroys records. -/
structure SetRecords (τ : Type) where
  accountId : Id
  /-- The state in which the type must be. -/
  ifInState : Option String
  /-- The records to create, each by an id that the client chooses for it. -/
  create : SortedMap String τ
  update : SortedMap Id Patch
  destroy : Option (Argument (List Id))

namespace SetRecords

variable {τ : Type}

/-- Changes nothing yet. -/
def of (accountId : Id) : SetRecords τ := ⟨accountId, none, ∅, ∅, none⟩

/-- Changes something only if the type is in `state`. -/
def withState (s : SetRecords τ) (state : String) : SetRecords τ := { s with ifInState := some state }

/-- Creates `record` under `creationId`. -/
def creating (s : SetRecords τ) (creationId : String) (record : τ) : SetRecords τ :=
  { s with create := s.create.insert creationId record }

/-- Changes the record `id` by `patch`. -/
def updating (s : SetRecords τ) (id : Id) (patch : Patch) : SetRecords τ :=
  { s with update := s.update.insert id patch }

/-- Destroys the records with `ids`. -/
def destroying (s : SetRecords τ) (ids : Argument (List Id)) : SetRecords τ := { s with destroy := some ids }

/-- The name of the method. -/
def method : String := "set"

/-- The member `name` of a map, left out if there is nothing in the map. -/
def mapMember {κ ν : Type} [TextKey κ] [WritableKey κ] [Writable ν] (name : String)
    (m : SortedMap κ ν) : Except Problem (List (String × Tree)) :=
  if m.isEmpty then .ok [] else member name m

/-- The call that changes records of type `τ`. -/
def call {C : Type} [RecordType τ C] (s : SetRecords τ) : MethodCall :=
  RecordType.call τ method
    [member "accountId" s.accountId, optionalMember "ifInState" s.ifInState,
      mapMember "create" s.create, mapMember "update" s.update,
      optionalArgument "destroy" s.destroy]

end SetRecords

/-- What became of the records. -/
structure SetResponse where
  accountId : Id
  oldState : Option String
  newState : String
  /-- What the server chose for each record that it created. -/
  created : Option (SortedMap String (SortedMap String Value))
  /-- What else the server changed in each record. -/
  updated : Option (SortedMap Id (Option (SortedMap String Value)))
  destroyed : Option (List Id)
  notCreated : Option (SortedMap String SetError)
  notUpdated : Option (SortedMap Id SetError)
  notDestroyed : Option (SortedMap Id SetError)

namespace SetResponse

open Record in
instance : Readable SetResponse where
  read := Record.read "SetResponse" <|
    SetResponse.mk <$> required "accountId" <*> optional "oldState" <*> required "newState" <*>
      optional "created" <*> optional "updated" <*> optional "destroyed" <*>
      optional "notCreated" <*> optional "notUpdated" <*> optional "notDestroyed"

instance : Writable SetResponse where
  write s := writeRecord
    [member "accountId" s.accountId, optionalMember "oldState" s.oldState,
      member "newState" s.newState, optionalMember "created" s.created,
      optionalMember "updated" s.updated, optionalMember "destroyed" s.destroyed,
      optionalMember "notCreated" s.notCreated, optionalMember "notUpdated" s.notUpdated,
      optionalMember "notDestroyed" s.notDestroyed]

/-- The id that the server gave to the record created under `creationId`. -/
def createdId (s : SetResponse) (creationId : String) : Option Id := do
  let created ← s.created
  let record ← created.find? creationId
  let id ← record.find? "id"
  id.string?.map Id.mk

end SetResponse

end JmapClient
