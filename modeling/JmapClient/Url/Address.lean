import JmapClient.Hex

/-!
# Addresses of hosts

An IPv4 address has four bytes. It is read from up to four numbers with full stops between them, the last
of which stands for all bytes that are left, and written with one number for each byte. An IPv6 address has
eight groups of 16 bits. It is written in hexadecimal with colons between the groups, and two colons stand
for groups that are zero.
-/

namespace JmapClient.Url

/-- The number that digits write in a base; `none` if one of them is no digit of it. -/
def number? (base : Nat) (cs : List Char) : Option Nat :=
  cs.foldlM (fun n c => (hexValue? c).bind fun d => if d < base then some (n * base + d) else none) 0

/-- The numbers as one text with a separator in between. -/
def separated (separator : String) (numerals : List String) : String := separator.intercalate numerals

/-! ### IPv4 -/

/-- A number of an IPv4 address: hexadecimal after `0x`, octal after any other zero, else decimal. Nothing
after `0x` is zero. -/
def ipv4Number? : List Char → Option Nat
  | [] => none
  | '0' :: 'x' :: cs => number? 16 cs
  | '0' :: 'X' :: cs => number? 16 cs
  | '0' :: c :: cs => number? 8 (c :: cs)
  | cs => number? 10 cs

/-- The parts of a name between full stops. One full stop may end it. -/
def labels (name : List Char) : List (List Char) :=
  let parts := name.splitOn '.'
  if parts.length > 1 ∧ parts.getLast? = some [] then parts.dropLast else parts

/-- Whether a name is meant for an IPv4 address: the last label is a number or has only digits. -/
def endsInNumber (name : List Char) : Bool :=
  match (labels name).getLast? with
  | none | some [] => false
  | some last => last.all Char.isDigit || (ipv4Number? last).isSome

/-- The bytes of a number below `256 ^ length`, the highest first. -/
def bytes (length n : Nat) : List Nat :=
  match length with
  | 0 => []
  | length + 1 => bytes length (n / 256) ++ [n % 256]

/-- The bytes of an IPv4 address given by numbers. -/
def ipv4OfNumbers? : List Nat → Option (List Nat)
  | [] => none
  | [last] => if last < 256 * 256 * 256 * 256 then some (bytes 4 last) else none
  | [a, last] => if a < 256 ∧ last < 256 * 256 * 256 then some (a :: bytes 3 last) else none
  | [a, b, last] => if a < 256 ∧ b < 256 ∧ last < 256 * 256 then some (a :: b :: bytes 2 last) else none
  | [a, b, c, last] => if a < 256 ∧ b < 256 ∧ c < 256 ∧ last < 256 then some [a, b, c, last] else none
  | _ => none

/-- The bytes of an IPv4 address. -/
def ipv4? (name : List Char) : Option (List Nat) := do ipv4OfNumbers? (← (labels name).mapM ipv4Number?)

/-- The text of an IPv4 address. -/
def ipv4Text (bytes : List Nat) : String := separated "." (bytes.map toString)

/-! ### IPv6 -/

/-- A group of an IPv6 address: up to four digits. -/
def group? (cs : List Char) : Option Nat :=
  if cs.isEmpty || cs.length > 4 then none else number? 16 cs

/-- A byte in decimal, without zeros in front. -/
def byte? : List Char → Option Nat
  | [] => none
  | ['0'] => some 0
  | '0' :: _ => none
  | cs => (number? 10 cs).filter (· < 256)

/-- The two groups that four bytes make, at the end of an IPv6 address. -/
def dottedGroups? (cs : List Char) : Option (List Nat) := do
  match ← (cs.splitOn '.').mapM byte? with
  | [a, b, c, d] => some [a * 256 + b, c * 256 + d]
  | _ => none

/-- The groups at the end of an IPv6 address, where the last two may be written as bytes. -/
def lastGroups? : List (List Char) → Option (List Nat)
  | [] => some []
  | [s] => if s.contains '.' then dottedGroups? s else (group? s).map ([·])
  | s :: ss => do return (← group? s) :: (← lastGroups? ss)

/-- What stands before and after the first two colons. -/
def splitAtGap? : List Char → Option (List Char × List Char)
  | ':' :: ':' :: cs => some ([], cs)
  | c :: cs => (splitAtGap? cs).map fun (before, after) => (c :: before, after)
  | [] => none

/-- The parts between colons; none if there is no text. -/
def groupTexts (cs : List Char) : List (List Char) := if cs.isEmpty then [] else cs.splitOn ':'

/-- The groups of an IPv6 address. Two colons stand for at least one. -/
def ipv6? (cs : List Char) : Option (List Nat) :=
  match splitAtGap? cs with
  | none => do
    let groups ← lastGroups? (groupTexts cs)
    if groups.length = 8 then some groups else none
  | some (before, after) => do
    let before ← (groupTexts before).mapM group?
    let after ← lastGroups? (groupTexts after)
    let length := before.length + after.length
    if length < 8 then some (before ++ List.replicate (8 - length) 0 ++ after) else none

/-- How many of the groups from a place on are zero before another follows. -/
def zerosFrom (groups : List Nat) (start : Nat) : Nat := ((groups.drop start).takeWhile (· = 0)).length

/-- The place where the longest run of zeros begins, the first of several. -/
def longestZeros (groups : List Nat) : Nat :=
  (List.range groups.length).foldl
    (fun best start => if zerosFrom groups best < zerosFrom groups start then start else best) 0

/-- The text of an IPv6 address. The longest run of at least two zeros is written as two colons. -/
def ipv6Text (groups : List Nat) : String :=
  let text (groups : List Nat) := separated ":" (groups.map hexNumeral)
  let start := longestZeros groups
  let length := zerosFrom groups start
  if length < 2 then text groups
  else text (groups.take start) ++ "::" ++ text (groups.drop (start + length))

end JmapClient.Url
