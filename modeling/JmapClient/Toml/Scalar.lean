import JmapClient.Calendar
import JmapClient.Hex
import JmapClient.Toml.Value

/-!
# Numbers, dates and times in TOML

`scalar?` tells what a word without quotes is: a truth value, a number, or a date, a time or both.
-/

namespace JmapClient.Toml

/-! ### Numbers -/

/-- What follows a run of digits. A single underscore may stand between two of them. -/
def afterDigits (isDigit : Char → Bool) : List Char → Option (List Char)
  | '_' :: _ => none
  | [] => none
  | c :: rest => if isDigit c then more rest else none
where
  more : List Char → Option (List Char)
    | [] => some []
    | '_' :: c :: rest => if isDigit c then more rest else none
    | c :: rest => if isDigit c then more rest else some (c :: rest)

/-- Whether the characters are a run of digits. -/
def areDigits (isDigit : Char → Bool) (cs : List Char) : Bool :=
  afterDigits isDigit cs == some []

/-- The characters without a sign before them. -/
def unsigned : List Char → List Char
  | '+' :: rest => rest
  | '-' :: rest => rest
  | cs => cs

/-- What follows the digits of a whole number. It has no zero before other digits. -/
def afterWhole : List Char → Option (List Char)
  | '0' :: c :: rest => if c.isDigit ∨ c = '_' then none else some (c :: rest)
  | cs => afterDigits Char.isDigit cs

/-- Whether the characters are a mark of an exponent and the exponent. -/
def isExponent : List Char → Bool
  | c :: rest => (c = 'e' ∨ c = 'E') && areDigits Char.isDigit (unsigned rest)
  | [] => false

/-- Whether a word is a number with a fraction or an exponent, or beyond all numbers, or none. -/
def isFloat (cs : List Char) : Bool :=
  let cs := unsigned cs
  cs = ['i', 'n', 'f'] || cs = ['n', 'a', 'n'] ||
    match afterWhole cs with
    | some ('.' :: rest) =>
      match afterDigits Char.isDigit rest with
      | some [] => true
      | some rest => isExponent rest
      | none => false
    | some rest => isExponent rest
    | none => false

/-- The number that digits spell, between which there may be underscores. -/
def numeral (base : Nat) (cs : List Char) : Nat :=
  cs.foldl (fun n c => (hexValue? c).elim n (n * base + ·)) 0

/-- A number with the sign that goes before its digits. -/
def signed (cs : List Char) (n : Nat) : Int := if cs.head? = some '-' then -n else n

/-- The integer that a word spells. -/
def integer? : List Char → Option Int
  | '0' :: 'x' :: rest => if areDigits isHexDigit rest then some (numeral 16 rest) else none
  | '0' :: 'o' :: rest =>
    if areDigits (fun c => '0' ≤ c ∧ c ≤ '7') rest then some (numeral 8 rest) else none
  | '0' :: 'b' :: rest =>
    if areDigits (fun c => c = '0' ∨ c = '1') rest then some (numeral 2 rest) else none
  | cs =>
    let digits := unsigned cs
    if afterWhole digits = some [] then some (signed cs (numeral 10 digits)) else none

/-- The number with a fraction or an exponent that a word spells. -/
def quantity? (cs : List Char) : Option Quantity :=
  if !isFloat cs then none
  else
    let (front, exponent) := (unsigned cs).span fun c => c ≠ 'e' ∧ c ≠ 'E'
    let (whole, fraction) := front.span (· ≠ '.')
    if (whole.head?.map Char.isDigit).getD false then
      let power := exponent.drop 1
      let places := (fraction.filter Char.isDigit).length
      some (.decimal (cs.head? = some '-') (numeral 10 (whole ++ fraction.drop 1))
        (signed power (numeral 10 (unsigned power)) - places))
    else some .word

/-! ### Dates and times -/

/-- Reads a number of exactly `n` digits. -/
def number? (n : Nat) (cs : List Char) : Option (Nat × List Char) :=
  let digits := cs.take n
  if digits.length = n ∧ digits.all Char.isDigit then
    some (digits.foldl (fun value c => value * 10 + (c.toNat - '0'.toNat)) 0, cs.drop n)
  else none

/-- Reads a number of two digits that is no more than `most`. -/
def twoDigits? (most : Nat) (cs : List Char) : Option (Nat × List Char) := do
  let (n, rest) ← number? 2 cs
  if n ≤ most then some (n, rest) else none

/-- What follows a character. -/
def after? (c : Char) : List Char → Option (List Char)
  | d :: rest => if d = c then some rest else none
  | [] => none

/-- What follows a date of the calendar. -/
def afterDate? (cs : List Char) : Option (List Char) := do
  let (year, rest) ← number? 4 cs
  let (month, rest) ← number? 2 (← after? '-' rest)
  let (day, rest) ← number? 2 (← after? '-' rest)
  if (Calendar.Day.mk year month day).exists then some rest else none

/-- What follows the fraction of a second. -/
def afterFraction? : List Char → Option (List Char)
  | '.' :: c :: rest => if c.isDigit then some (rest.dropWhile Char.isDigit) else none
  | cs => some cs

/-- What follows a time of day. The seconds may be left out. -/
def afterTime? (cs : List Char) : Option (List Char) := do
  let (_, rest) ← twoDigits? 23 cs
  let (_, rest) ← twoDigits? 59 (← after? ':' rest)
  match rest with
  | ':' :: rest => do
    let (_, rest) ← twoDigits? 60 rest
    afterFraction? rest
  | rest => some rest

/-- Whether the characters are an offset from UTC. -/
def isOffset : List Char → Bool
  | ['Z'] | ['z'] => true
  | c :: rest =>
    (c = '+' ∨ c = '-') &&
      match twoDigits? 23 rest with
      | some (_, ':' :: rest) => (twoDigits? 59 rest).any (·.2.isEmpty)
      | _ => false
  | [] => false

/-- Whether a word is a date, a time or both. -/
def isMoment (cs : List Char) : Bool :=
  match afterDate? cs with
  | some [] => true
  | some (c :: rest) =>
    (c = 'T' ∨ c = 't' ∨ c = ' ') &&
      match afterTime? rest with
      | some rest => rest.isEmpty || isOffset rest
      | none => false
  | none => afterTime? cs = some []

/-! ### Words -/

/-- Whether a character may stand in a word. -/
def isWordChar (c : Char) : Bool :=
  c.isAlphanum ∨ c = '+' ∨ c = '-' ∨ c = '_' ∨ c = '.' ∨ c = ':'

/-- The word at the beginning of a text, and what follows it. A time may follow a date behind a space. -/
def word (cs : List Char) : List Char × List Char :=
  let first := cs.takeWhile isWordChar
  match afterDate? first, cs.dropWhile isWordChar with
  | some [], ' ' :: c :: rest =>
    if c.isDigit then
      (first ++ ' ' :: (c :: rest).takeWhile isWordChar, (c :: rest).dropWhile isWordChar)
    else (first, ' ' :: c :: rest)
  | _, rest => (first, rest)

/-- The value of a word, if it has one. -/
def scalar? (cs : List Char) : Option Value :=
  if cs = ['t', 'r', 'u', 'e'] then some (.bool true)
  else if cs = ['f', 'a', 'l', 's', 'e'] then some (.bool false)
  else if isMoment cs then some (.moment (String.ofList cs))
  else (integer? cs).map .integer <|> (quantity? cs).map .quantity

end JmapClient.Toml
