import JmapClient.Json.Readable

/-!
# Identifiers

An `Id` names a record, a blob or an account. Any text is taken when one is read, but only a valid one,
of 1 to 255 octets among letters, digits, `-` and `_`, is ever written (`Id.fault?`). A `Uri` names a
capability and may be any text.
-/

namespace JmapClient

open Json

/-- An identifier given by the server. -/
structure Id where
  text : String
deriving DecidableEq, Repr, Inhabited

/-- What is wrong with an identifier. -/
inductive IdFault
  | empty
  | tooLong (octets : Nat)
  | badCharacter (c : Char)
deriving DecidableEq, Repr

/-- The wording of what is wrong with an identifier. -/
def IdFault.message : IdFault → String
  | .empty => "invalid ID: too short"
  | .tooLong octets => "invalid ID: too long (" ++ toString octets ++ " octets)"
  | .badCharacter c => "invalid ID: invalid character " ++ Quoted.char c

namespace Id

instance : TextKey Id where
  text := Id.text
  ofText := Id.mk
  text_ofText _ := rfl
  ofText_text _ := rfl

/-- The most octets that an identifier may have. -/
def maxOctets : Nat := 255

/-- The characters of valid identifiers. -/
def isLegal (c : Char) : Bool := c.isAlphanum || c == '-' || c == '_'

/-- What is wrong with an identifier: that it is empty, or else too long, or else its first character that is not
`isLegal`. -/
def fault? (id : Id) : Option IdFault :=
  if id.text.isEmpty then some .empty
  else if maxOctets < id.text.utf8ByteSize then some (.tooLong id.text.utf8ByteSize)
  else (id.text.toList.find? (!isLegal ·)).map .badCharacter

/-- A valid identifier has 1 to `maxOctets` octets, all of legal characters. -/
def Valid (id : Id) : Prop :=
  1 ≤ id.text.utf8ByteSize ∧ id.text.utf8ByteSize ≤ maxOctets ∧ ∀ c ∈ id.text.toList, isLegal c

/-- Fails if the identifier is not `Valid`. -/
def check (id : Id) : Except IdFault Unit :=
  match id.fault? with
  | none => .ok ()
  | some f => .error f

/-- The identifier with `text`, if that is `Valid`. -/
def ofText? (text : String) : Except IdFault Id := do
  let id : Id := ⟨text⟩
  id.check
  return id

instance : Readable Id where
  read d := (read d).map Id.mk

/-- The text of an identifier, which must be `Valid`. -/
def writtenText (id : Id) : Except Problem String :=
  match id.fault? with
  | none => .ok id.text
  | some f => .error (.here (.refused f.message))

instance : Writable Id where
  write id := id.writtenText.map .string

instance : WritableKey Id where
  writeKey := writtenText

end Id

/-- The name of a capability. -/
structure Uri where
  text : String
deriving DecidableEq, Repr, Inhabited

namespace Uri

instance : TextKey Uri where
  text := Uri.text
  ofText := Uri.mk
  text_ofText _ := rfl
  ofText_text _ := rfl

instance : Readable Uri where
  read d := (read d).map Uri.mk

instance : Writable Uri where
  write uri := .ok (.string uri.text)

instance : WritableKey Uri where
  writeKey uri := .ok uri.text

end Uri

end JmapClient
