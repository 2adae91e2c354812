import JmapClient.Json.Readable

/-!
# Records

A `Record α` describes how the fields of a record are read, and `Record.read` reads one: from an object,
whose members may come in any order, or from an array of the fields in the order in which they are
declared. Descriptions are put together with `<$>` and `<*>`.

Members of an object are looked at in the order of the text: one that is no field is passed over, a field
given twice is refused, and so is one whose value cannot be read. Only then are fields missed, in the
order in which they are declared. `OpenRecord` is the same for records that keep the members that are no
fields; they are read from objects only.
-/

namespace JmapClient.Json

/-- What is left of an array whose items are the fields of a record: the number of fields passed and the
items that remain. -/
structure Row where
  index : Nat
  items : List Draft
  cut : Option Cut

/-- The item of the next field, if there is one, and the row behind it. -/
def Row.next (r : Row) : Except Problem (Option Draft × Row) :=
  match r.items with
  | d :: ds => .ok (some d, { r with index := r.index + 1, items := ds })
  | [] => ofFault (Cut.stop r.cut (none, { r with index := r.index + 1 }))

/-- A reader of a record's fields. -/
structure Record (α : Type) where
  /-- For each field its name and a test of its value. -/
  fields : List (String × (Draft → Except Problem Unit))
  /-- The record made of the members with given values. -/
  ofMembers : (String → Option Draft) → Except Problem α
  /-- The record made of an array's items, for one described by a text. -/
  ofRow : String → Row → Except Problem (α × Row)

namespace Record

instance : Functor Record where
  map f r :=
    { fields := r.fields
      ofMembers := fun m => f <$> r.ofMembers m
      ofRow := fun what row => do
        let (a, row) ← r.ofRow what row
        return (f a, row) }

instance : Pure Record where
  pure a := ⟨[], fun _ => .ok a, fun _ row => .ok (a, row)⟩

instance : Seq Record where
  seq r s :=
    let s := s ()
    { fields := r.fields ++ s.fields
      ofMembers := fun m => do
        let f ← r.ofMembers m
        let a ← s.ofMembers m
        return f a
      ofRow := fun what row => do
        let (f, row) ← r.ofRow what row
        let (a, row) ← s.ofRow what row
        return (f a, row) }

variable {α : Type} [Readable α]

/-- Reads the value of a field. -/
def valueOf (s : Segment) (d : Draft) : Except Problem α :=
  match (Json.read d : Except Problem α) with
  | .ok a => .ok a
  | .error p => .error (p.under s)

/-- What becomes of a field that is not there, in an object and at the end of an array. -/
structure Absence (α : Type) where
  fromMembers : Except Problem α
  fromRow : String → Nat → Except Problem α

/-- The field `name`. -/
def field (name : String) (absence : Absence α) : Record α where
  fields := [(name, fun d => (valueOf (α := α) (.field name) d).map fun _ => ())]
  ofMembers m := match m name with
    | some d => valueOf (.field name) d
    | none => absence.fromMembers
  ofRow what row := do
    match ← row.next with
    | (some d, rest) => return (← valueOf (.index row.index) d, rest)
    | (none, rest) => return (← absence.fromRow what row.index, rest)

/-- A field that must be there. -/
def required (name : String) : Record α :=
  field name
    { fromMembers := .error (.here (.missingField name))
      fromRow := fun what n => .error (.here (.tooFew n what)) }

/-- A field that stands for `a` where it is not there. -/
def defaulted (name : String) (a : α) : Record α :=
  field name ⟨.ok a, fun _ _ => .ok a⟩

/-- A field that may be null or not there. -/
def optional (name : String) : Record (Option α) := defaulted name none

/-- A field that may be null, or not there if the record is an object. -/
def nullable (name : String) : Record (Option α) :=
  field name ⟨.ok none, fun what n => .error (.here (.tooFew n what))⟩

/-- Looks at members in their order. `seen` holds the fields met so far, and `other` says what becomes of
a member that is no field. -/
def checkMembers (fields : List (String × (Draft → Except Problem Unit)))
    (other : Draft → Except Problem Unit) (seen : List String) :
    List (Except Fault String × Draft) → Except Problem Unit
  | [] => .ok ()
  | (.error f, _) :: _ => .error (.fault f)
  | (.ok k, d) :: ms =>
    match fields.find? (·.1 == k) with
    | some f =>
      if seen.contains k then .error (.here (.duplicateField k))
      else do
        f.2 d
        checkMembers fields other (k :: seen) ms
    | none => do
      other d
      checkMembers fields other seen ms

/-- The value of the first member with a name. -/
def member? (ms : List (Except Fault String × Draft)) (name : String) : Option Draft :=
  (ms.find? fun m => match m.1 with
    | .ok k => k == name
    | .error _ => false).map (·.2)

/-- Passes over a draft. -/
def pass (d : Draft) : Except Problem Unit :=
  match d.skipFault with
  | none => .ok ()
  | some f => .error (.fault f)

end Record

/-- Reads the items of an array as the fields of a record. -/
def Record.readRow {α : Type} (r : Record α) (what : String) (items : List Draft)
    (cut : Option Cut) : Except Problem α := do
  let (a, row) ← r.ofRow what ⟨0, items, cut⟩
  if row.items.isEmpty then ofFault (Cut.stop cut a) else .error (.here (.tooMany items.length))

/-- Reads a record called `name`. -/
def Record.read {α : Type} (name : String) (r : Record α) : Draft → Except Problem α
  | .object deep members cut =>
    if deep then .error (.fault .malformed) else do
      checkMembers r.fields pass [] members
      ofFault (Cut.stop cut ())
      r.ofMembers (member? members)
  | .array deep items cut =>
    if deep then .error (.fault .malformed) else
      let what := "struct " ++ name ++ " with " ++ toString r.fields.length ++ " element"
        ++ if r.fields.length = 1 then "" else "s"
      r.readRow what items cut
  | d => .error (d.unlike ("struct " ++ name))

/-- Reads an array of exactly the fields of a record, described by a text. -/
def Record.readTuple {α : Type} (what : String) (r : Record α) : Draft → Except Problem α
  | .array deep items cut =>
    if deep then .error (.fault .malformed) else r.readRow what items cut
  | d => .error (d.unlike what)

/-- Reads a draft in passing, to see whether it can be kept. -/
def keep (d : Draft) : Except Problem Unit := (ofFault d.tree?).map fun _ => ()

/-- Reads a record called `name` together with the members that are none of its fields. -/
def OpenRecord.read {α : Type} (name : String) (r : Record α) :
    Draft → Except Problem (α × SortedMap String Value)
  | .object deep members cut =>
    if deep then .error (.fault .malformed) else do
      Record.checkMembers r.fields keep [] members
      ofFault (Cut.stop cut ())
      let others := members.filter fun m => match m.1 with
        | .ok k => !r.fields.any (·.1 == k)
        | .error _ => false
      let a ← r.ofMembers (Record.member? members)
      let es ← readEntries others
      return (a, .ofList es)
  | d => .error (d.unlike ("struct " ++ name))

/-! ### Writing records -/

/-- The member of a record's field. -/
def member {α : Type} [Writable α] (name : String) (a : α) :
    Except Problem (List (String × Tree)) := do
  let t ← write a
  return [(name, t)]

/-- The member of a record's field, left out if there is no value. -/
def optionalMember {α : Type} [Writable α] (name : String) :
    Option α → Except Problem (List (String × Tree))
  | some a => member name a
  | none => .ok []

/-- The object with given members. -/
def writeRecord (parts : List (Except Problem (List (String × Tree)))) : Except Problem Tree := do
  let ms ← parts.mapM id
  return .object ms.flatten

end JmapClient.Json
