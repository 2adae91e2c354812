import JmapClient.Id
import JmapClient.Json.Record

/-!
# Sorting and positions in a query

A `Comparator` is one criterion by which a query sorts, and an `AddedItem` tells where a record came into
its results.
-/

namespace JmapClient

open Json

/-- Compares records by one property. -/
structure Comparator where
  property : String
  isAscending : Bool
  /-- The rule by which texts are compared. -/
  collation : Option String
deriving DecidableEq, Repr

namespace Comparator

open Record in
instance : Readable Comparator where
  read := Record.read "Comparator" <|
    Comparator.mk <$> required "property" <*> defaulted "isAscending" true <*> optional "collation"

instance : Writable Comparator where
  write c := writeRecord
    [member "property" c.property, member "isAscending" c.isAscending,
      optionalMember "collation" c.collation]

/-- Sorts by `property`, least first. -/
def ascending (property : String) : Comparator := ⟨property, true, none⟩

/-- Sorts the other way, greatest first. -/
def descending (c : Comparator) : Comparator := { c with isAscending := false }

/-- Compares texts by the rule `collation`. -/
def withCollation (c : Comparator) (collation : String) : Comparator :=
  { c with collation := some collation }

end Comparator

namespace Collation

/-- Compares unsigned decimal integers. -/
def asciiNumeric : String := "i;ascii-numeric"

/-- Compares without regard to the case of the letters A to Z. -/
def asciiCasemap : String := "i;ascii-casemap"

/-- Compares without regard to the case of any letter. -/
def unicodeCasemap : String := "i;unicode-casemap"

/-- The rules that have a name here. -/
def all : List String := [asciiNumeric, asciiCasemap, unicodeCasemap]

end Collation

/-- A record that came into the results of a query, and its index there. -/
structure AddedItem where
  id : Id
  index : UInt64
deriving DecidableEq, Repr

namespace AddedItem

open Record in
instance : Readable AddedItem where
  read := Record.read "AddedItem" <| AddedItem.mk <$> required "id" <*> required "index"

instance : Writable AddedItem where
  write a := writeRecord [member "id" a.id, member "index" a.index]

end AddedItem

end JmapClient
