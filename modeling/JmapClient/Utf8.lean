/-!
# UTF-8

`pieces` reads bytes as UTF-8: each character in turn, and one `none` for every longest run of bytes
that begins a character without completing it (or can begin none). `decode?` accepts what has no such
run; `decodeReplacing` writes U+FFFD for each.
-/

namespace JmapClient.Utf8

/-- A character begun: how many bytes are still `missing`, the range of the next of them, and the bits read so far. -/
structure Pending where
  missing : Nat
  low : UInt8
  high : UInt8
  bits : Nat

/-- What a byte at the start of a character announces. -/
inductive Lead
  | ascii (c : Char)
  | longer (p : Pending)
  | invalid

/-- The character or the run that `b` begins. The range of the second byte leaves out overlong forms, surrogates and
what lies beyond U+10FFFF. -/
def Lead.ofByte (b : UInt8) : Lead :=
  let n := b.toNat
  if n < 0x80 then .ascii (Char.ofNat n)
  else if n < 0xC2 then .invalid
  else if n < 0xE0 then .longer ⟨1, 0x80, 0xBF, n - 0xC0⟩
  else if n = 0xE0 then .longer ⟨2, 0xA0, 0xBF, 0⟩
  else if n = 0xED then .longer ⟨2, 0x80, 0x9F, 0xD⟩
  else if n < 0xF0 then .longer ⟨2, 0x80, 0xBF, n - 0xE0⟩
  else if n = 0xF0 then .longer ⟨3, 0x90, 0xBF, 0⟩
  else if n < 0xF4 then .longer ⟨3, 0x80, 0xBF, n - 0xF0⟩
  else if n = 0xF4 then .longer ⟨3, 0x80, 0x8F, 4⟩
  else .invalid

/-- The pieces of the bytes that follow what is pending. -/
def piecesFrom : Option Pending → List UInt8 → List (Option Char)
  | none, [] => []
  | some _, [] => [none]
  | none, b :: bs =>
    match Lead.ofByte b with
    | .ascii c => some c :: piecesFrom none bs
    | .longer p => piecesFrom (some p) bs
    | .invalid => none :: piecesFrom none bs
  | some p, b :: bs =>
    if p.low ≤ b ∧ b ≤ p.high then
      let bits := p.bits * 64 + b.toNat % 64
      if p.missing ≤ 1 then some (Char.ofNat bits) :: piecesFrom none bs
      else piecesFrom (some ⟨p.missing - 1, 0x80, 0xBF, bits⟩) bs
    else
      none :: match Lead.ofByte b with
        | .ascii c => some c :: piecesFrom none bs
        | .longer q => piecesFrom (some q) bs
        | .invalid => none :: piecesFrom none bs

/-- The characters of `bs`, and a `none` for every part that is not UTF-8. -/
def pieces (bs : List UInt8) : List (Option Char) := piecesFrom none bs

/-- The text that `bs` spells, if it is UTF-8 throughout. -/
def decode? (bs : List UInt8) : Option String := (pieces bs).mapM id |>.map String.ofList

/-- The text that `bs` spells, with U+FFFD for every part that is not UTF-8. -/
def decodeReplacing (bs : List UInt8) : String :=
  String.ofList ((pieces bs).map (·.getD (Char.ofNat 0xFFFD)))

/-- The bytes of the text `s`. -/
def encode (s : String) : List UInt8 := s.toUTF8.toList

end JmapClient.Utf8
