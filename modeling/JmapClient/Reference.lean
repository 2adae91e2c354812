import JmapClient.Id
import JmapClient.Json.Record

/-!
# References to earlier results

An argument of a method call may point to a part of an earlier answer in the same batch. It is then
written under its name with a `#` in front (`Argument.members`), so it is never given both ways.
-/

namespace JmapClient

open Json

/-- A part of the answer to an earlier call of the same batch. -/
structure ResultReference where
  /-- The id of the earlier call. -/
  resultOf : String
  /-- The method that it calls. -/
  name : String
  /-- A pointer into its answer. -/
  path : String
deriving DecidableEq, Repr

namespace ResultReference

open Record in
instance : Readable ResultReference where
  read := Record.read "ResultReference" <|
    ResultReference.mk <$> required "resultOf" <*> required "name" <*> required "path"

instance : Writable ResultReference where
  write r := writeRecord
    [member "resultOf" r.resultOf, member "name" r.name, member "path" r.path]

end ResultReference

/-- An argument given as it is or as a reference. -/
inductive Argument (α : Type)
  | value (a : α)
  | reference (r : ResultReference)
deriving DecidableEq, Repr

/-- The member that gives the argument `name`: a reference under `#name`. -/
def Argument.members {α : Type} [Writable α] (name : String) :
    Argument α → Except Problem (List (String × Tree))
  | .value a => member name a
  | .reference r => member ("#" ++ name) r

/-- The member that gives the argument `name`, left out if it is not given. -/
def optionalArgument {α : Type} [Writable α] (name : String) :
    Option (Argument α) → Except Problem (List (String × Tree))
  | some a => a.members name
  | none => .ok []

end JmapClient
