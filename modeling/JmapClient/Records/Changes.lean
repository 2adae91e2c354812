import JmapClient.RecordType

/-!
# Changes since a state

`Changes` asks which records have changed since the type was in a state, and `ChangesResponse` tells.
-/

namespace JmapClient

open Json

/-- Asks which records have changed. -/
structure Changes where
  accountId : Id
  sinceState : String
  /-- The most changes to be told. -/
  maxChanges : Option UInt64
deriving DecidableEq, Repr

namespace Changes

/-- Asks for all changes since `state`. -/
def since (accountId : Id) (state : String) : Changes := ⟨accountId, state, none⟩

/-- Asks for `n` changes at most. -/
def withMaxChanges (c : Changes) (n : UInt64) : Changes := { c with maxChanges := some n }

/-- The name of the method. -/
def method : String := "changes"

/-- The call that asks for changes of records of type `τ`. -/
def call (τ : Type) {C : Type} [RecordType τ C] (c : Changes) : MethodCall :=
  RecordType.call τ method
    [member "accountId" c.accountId, member "sinceState" c.sinceState,
      optionalMember "maxChanges" c.maxChanges]

end Changes

/-- The records that have changed. -/
structure ChangesResponse where
  accountId : Id
  oldState : String
  newState : String
  /-- Whether there are changes beyond the new state. -/
  hasMoreChanges : Bool
  created : List Id
  updated : List Id
  destroyed : List Id
deriving DecidableEq, Repr

namespace ChangesResponse

open Record in
instance : Readable ChangesResponse where
  read := Record.read "ChangesResponse" <|
    ChangesResponse.mk <$> required "accountId" <*> required "oldState" <*> required "newState" <*>
      required "hasMoreChanges" <*> defaulted "created" [] <*> defaulted "updated" [] <*>
      defaulted "destroyed" []

instance : Writable ChangesResponse where
  write c := writeRecord
    [member "accountId" c.accountId, member "oldState" c.oldState, member "newState" c.newState,
      member "hasMoreChanges" c.hasMoreChanges, member "created" c.created,
      member "updated" c.updated, member "destroyed" c.destroyed]

end ChangesResponse

end JmapClient
