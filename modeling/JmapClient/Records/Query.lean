import JmapClient.Comparator
import JmapClient.RecordType

/-!
# Searching records

`Query` searches the records of a type, and `QueryResponse` lists the ids of those found. `QueryChanges`
asks how the results of an earlier search have changed.
-/

namespace JmapClient

open Json

/-- A search, where `C` is the type of its conditions. -/
structure Query (C : Type) where
  accountId : Id
  filter : Option (Filter C)
  sort : Option (List Comparator)
  /-- The index of the first result wanted. -/
  position : Option Int64
  /-- A record in the results that takes the place of the `position`. -/
  anchor : Option Id
  /-- The index of the first result wanted, seen from the `anchor`. -/
  anchorOffset : Option Int64
  /-- The most results wanted. -/
  limit : Option UInt64
  /-- Whether the number of all results is wanted. -/
  calculateTotal : Option Bool

namespace Query

variable {C : Type}

/-- Finds all records of the account `accountId`. -/
def all (accountId : Id) : Query C := ⟨accountId, none, none, none, none, none, none, none⟩

/-- Finds what the filter `f` lets through. -/
def withFilter (q : Query C) (f : Filter C) : Query C := { q with filter := some f }

/-- Sorts the results by `cs`, the first of them first. -/
def sortedBy (q : Query C) (cs : List Comparator) : Query C := { q with sort := some cs }

/-- Wants results from the position `n` on. -/
def startingAt (q : Query C) (n : Int64) : Query C := { q with position := some n }

/-- Wants results from a place on that lies `offset` behind the record `id`. -/
def anchoredAt (q : Query C) (id : Id) (offset : Int64) : Query C :=
  { q with anchor := some id, anchorOffset := some offset }

/-- Wants `n` results at most. -/
def withLimit (q : Query C) (n : UInt64) : Query C := { q with limit := some n }

/-- Wants the number of all results, or does not. -/
def countingTotal (q : Query C) (b : Bool) : Query C := { q with calculateTotal := some b }

/-- The name of the method. -/
def method : String := "query"

/-- The call that searches records of type `τ`. -/
def call (τ : Type) [RecordType τ C] [Writable C] (q : Query C) : MethodCall :=
  RecordType.call τ method
    [member "accountId" q.accountId, optionalMember "filter" q.filter,
      optionalMember "sort" q.sort, optionalMember "position" q.position,
      optionalMember "anchor" q.anchor, optionalMember "anchorOffset" q.anchorOffset,
      optionalMember "limit" q.limit, optionalMember "calculateTotal" q.calculateTotal]

end Query

/-- What a search has found. -/
structure QueryResponse where
  accountId : Id
  /-- Changes whenever the results do. -/
  queryState : String
  /-- Whether the server can tell how these results change. -/
  canCalculateChanges : Bool
  /-- The index of the first id. -/
  position : UInt64
  ids : List Id
  total : Option UInt64
  /-- The limit that the server has set to the number of results. -/
  limit : Option UInt64
deriving DecidableEq, Repr

namespace QueryResponse

open Record in
instance : Readable QueryResponse where
  read := Record.read "QueryResponse" <|
    QueryResponse.mk <$> required "accountId" <*> required "queryState" <*>
      required "canCalculateChanges" <*> required "position" <*> required "ids" <*>
      optional "total" <*> optional "limit"

instance : Writable QueryResponse where
  write q := writeRecord
    [member "accountId" q.accountId, member "queryState" q.queryState,
      member "canCalculateChanges" q.canCalculateChanges, member "position" q.position,
      member "ids" q.ids, optionalMember "total" q.total, optionalMember "limit" q.limit]

end QueryResponse

/-- Asks how the results of a search have changed. -/
structure QueryChanges (C : Type) where
  accountId : Id
  filter : Option (Filter C)
  sort : Option (List Comparator)
  sinceQueryState : String
  /-- The most changes to be told. -/
  maxChanges : Option UInt64
  /-- The last record whose place among the results matters. -/
  upToId : Option Id
  calculateTotal : Option Bool

namespace QueryChanges

variable {C : Type}

/-- Asks how the results of `q` have changed since `sinceQueryState`. -/
def of (q : Query C) (sinceQueryState : String) : QueryChanges C :=
  ⟨q.accountId, q.filter, q.sort, sinceQueryState, none, none, none⟩

/-- Asks for `n` changes at most. -/
def withMaxChanges (q : QueryChanges C) (n : UInt64) : QueryChanges C :=
  { q with maxChanges := some n }

/-- Asks for changes up to the record `id`. -/
def upTo (q : QueryChanges C) (id : Id) : QueryChanges C := { q with upToId := some id }

/-- The name of the method. -/
def method : String := "queryChanges"

/-- The call that asks how the results of a search for records of type `τ` have changed. -/
def call (τ : Type) [RecordType τ C] [Writable C] (q : QueryChanges C) : MethodCall :=
  RecordType.call τ method
    [member "accountId" q.accountId, optionalMember "filter" q.filter,
      optionalMember "sort" q.sort, member "sinceQueryState" q.sinceQueryState,
      optionalMember "maxChanges" q.maxChanges, optionalMember "upToId" q.upToId,
      optionalMember "calculateTotal" q.calculateTotal]

end QueryChanges

/-- How the results of a search have changed. -/
structure QueryChangesResponse where
  accountId : Id
  oldQueryState : String
  newQueryState : String
  total : Option UInt64
  removed : List Id
  added : List AddedItem
deriving DecidableEq, Repr

namespace QueryChangesResponse

open Record in
instance : Readable QueryChangesResponse where
  read := Record.read "QueryChangesResponse" <|
    QueryChangesResponse.mk <$> required "accountId" <*> required "oldQueryState" <*>
      required "newQueryState" <*> optional "total" <*> defaulted "removed" [] <*>
      defaulted "added" []

instance : Writable QueryChangesResponse where
  write q := writeRecord
    [member "accountId" q.accountId, member "oldQueryState" q.oldQueryState,
      member "newQueryState" q.newQueryState, optionalMember "total" q.total,
      member "removed" q.removed, member "added" q.added]

end QueryChangesResponse

end JmapClient
