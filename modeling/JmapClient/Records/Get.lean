import JmapClient.RecordType
import JmapClient.Reference

/-!
# Fetching records

`Get` asks for records by their ids, or for all of them, and `GetResponse` brings them.
-/

namespace JmapClient

open Json

/-- Asks for records. -/
structure Get where
  accountId : Id
  /-- The records wanted; without it, all of them. -/
  ids : Option (Argument (List Id))
  /-- The properties wanted; without it, all of them. -/
  properties : Option (Argument (List String))

namespace Get

/-- Asks for all records of the account `accountId`. -/
def all (accountId : Id) : Get := ⟨accountId, none, none⟩

/-- Asks for the records with `ids` only. -/
def withIds (g : Get) (ids : Argument (List Id)) : Get := { g with ids := some ids }

/-- Asks for `properties` of the records only. -/
def withProperties (g : Get) (properties : Argument (List String)) : Get :=
  { g with properties := some properties }

/-- The name of the method. -/
def method : String := "get"

/-- The call that asks for records of type `τ`. -/
def call (τ : Type) {C : Type} [RecordType τ C] (g : Get) : MethodCall :=
  RecordType.call τ method
    [member "accountId" g.accountId, optionalArgument "ids" g.ids,
      optionalArgument "properties" g.properties]

end Get

/-- The records asked for. -/
structure GetResponse (τ : Type) where
  accountId : Id
  /-- Changes whenever a record of the type does. -/
  state : String
  list : List τ
  /-- The ids of which there is no record. -/
  notFound : List Id

namespace GetResponse

variable {τ : Type}

open Record in
instance [Readable τ] : Readable (GetResponse τ) where
  read := Record.read "GetResponse" <|
    GetResponse.mk <$> required "accountId" <*> required "state" <*> required "list" <*>
      defaulted "notFound" []

instance [Writable τ] : Writable (GetResponse τ) where
  write g := writeRecord
    [member "accountId" g.accountId, member "state" g.state, member "list" g.list,
      member "notFound" g.notFound]

end GetResponse

end JmapClient
