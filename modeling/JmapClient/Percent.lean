import JmapClient.Hex
import JmapClient.Utf8

/-!
# Percent encoding

A text becomes part of a URL byte by byte: bytes of characters that may stand there stay, and any other is
written as `%` and two hexadecimal digits. `unreserved` keeps what stands for itself everywhere in a URL.
`reserved` keeps the punctuation of URLs too, and takes a `%` before two digits for one that encodes a
byte already. `decode` gives the bytes back.
-/

namespace JmapClient.Percent

/-- The encoding of a byte. -/
def escape (b : UInt8) : List Char :=
  ['%', upperHexDigit (b.toNat / 16), upperHexDigit (b.toNat % 16)]

/-- A byte where the characters that `keep` holds of stay. -/
def encodeByte (keep : Char → Bool) (b : UInt8) : List Char :=
  let c := Char.ofNat b.toNat
  if b < 0x80 ∧ keep c then [c] else escape b

/-- A text where the characters that `keep` holds of stay. -/
def encode (keep : Char → Bool) (s : String) : List Char :=
  (Utf8.encode s).flatMap (encodeByte keep)

/-- The bytes of a text where each `%` before two hexadecimal digits encodes one. -/
def decode : List Char → List UInt8
  | '%' :: h :: l :: cs =>
    match hexValue? h, hexValue? l with
    | some h, some l => (h * 16 + l).toUInt8 :: decode cs
    | _, _ => 0x25 :: decode (h :: l :: cs)
  | c :: cs => Utf8.encode (String.singleton c) ++ decode cs
  | [] => []

/-- The characters that stand for themselves everywhere. -/
def isUnreserved (c : Char) : Bool :=
  c.isAlphanum || c == '-' || c == '.' || c == '_' || c == '~'

/-- The characters that have a meaning of their own in URLs. -/
def delimiters : List Char :=
  [':', '/', '?', '#', '[', ']', '@', '!', '$', '&', '\'', '(', ')', '*', '+', ',', ';', '=']

/-- The characters that may stand in a URL. -/
def isReserved (c : Char) : Bool := isUnreserved c || delimiters.contains c

/-- Turns each encoded `%` before two hexadecimal digits back. -/
def restore : List Char → List Char
  | '%' :: '2' :: '5' :: h :: l :: cs =>
    if isHexDigit h && isHexDigit l then '%' :: h :: l :: restore cs
    else '%' :: restore ('2' :: '5' :: h :: l :: cs)
  | c :: cs => c :: restore cs
  | [] => []

/-- Keeps only what stands for itself. -/
def unreserved (s : String) : List Char := encode isUnreserved s

/-- Keeps what may stand in a URL. -/
def reserved (s : String) : List Char := restore (encode isReserved s)

end JmapClient.Percent
