import JmapClient.Idna.Composition.Table
import JmapClient.Idna.Mapping

/-!
# Composed text

A letter and the marks on it can be written as one character or as several, and the marks in several
orders. `composed` gives the form where as few characters as possible are used: every character is taken
apart, marks are put in the order of their combining classes, and all that fit together are joined again.
-/

namespace JmapClient.Idna.Composition

/-- The combining class of `c`: zero for one that stands for itself. -/
def combiningClass (c : Char) : Nat :=
  match combiningClasses.find? fun k => k.2.any fun r => r.1 ≤ c.toNat && c.toNat ≤ r.2 with
  | some k => k.1
  | none => 0

/-- Two characters and the one that they become. -/
structure Pair where
  first : Char
  second : Char
  composite : Char
deriving DecidableEq, Repr

/-- All pairs of the table `composites`. -/
def pairs : List Pair :=
  composites.flatMap fun (second, firsts) =>
    (firsts.toList.splitOn ' ').filterMap fun word =>
      match Mapping.characters word with
      | [first, composite] => some ⟨first, Char.ofNat second, composite⟩
      | _ => none

/-! ### Hangul

A syllable is numbered by its parts: one of 19 leading consonants, one of 21 vowels, and one of 27
trailing consonants or none.
-/

/-- The code point of the first syllable. -/
def syllables : Nat := 0xAC00

/-- The code point of the first leading consonant. -/
def leads : Nat := 0x1100

/-- The code point of the first vowel. -/
def vowels : Nat := 0x1161

/-- The code point before the first trailing consonant. -/
def trails : Nat := 0x11A7

/-- The two parts of a syllable. A trailing consonant is parted from what is before it, and a syllable
without one into its consonant and its vowel. -/
def splitSyllable? (c : Char) : Option (List Char) :=
  let n := c.toNat - syllables
  if c.toNat < syllables ∨ 19 * 21 * 28 ≤ n then none
  else if n % 28 = 0 then some [Char.ofNat (leads + n / 588), Char.ofNat (vowels + n % 588 / 28)]
  else some [Char.ofNat (c.toNat - n % 28), Char.ofNat (trails + n % 28)]

/-- The syllable that `a` and `b` become. -/
def joinSyllable? (a b : Char) : Option Char :=
  let lead := a.toNat - leads
  let vowel := b.toNat - vowels
  let trail := b.toNat - trails
  let whole := a.toNat - syllables
  if leads ≤ a.toNat ∧ lead < 19 ∧ vowels ≤ b.toNat ∧ vowel < 21 then
    some (Char.ofNat (syllables + (lead * 21 + vowel) * 28))
  else if syllables ≤ a.toNat ∧ whole < 19 * 21 * 28 ∧ whole % 28 = 0 ∧ trails < b.toNat ∧ trail < 28 then
    some (Char.ofNat (a.toNat + trail))
  else none

/-! ### Taking apart and joining -/

/-- The two characters that `c` is composed of, or `c` itself. -/
def split (c : Char) : List Char :=
  if c.toNat < 0x80 then [c]
  else
    match pairs.find? (·.composite = c) with
    | some p => [p.first, p.second]
    | none => (splitSyllable? c).getD [c]

/-- The character that `a` and `b` become. -/
def join? (a b : Char) : Option Char :=
  match pairs.find? fun p => p.first = a ∧ p.second = b with
  | some p => some p.composite
  | none => joinSyllable? a b

/-- Puts `c` before the marks of higher classes that follow it, if it is a mark, and in front otherwise. -/
def place (c : Char) : List Char → List Char
  | [] => [c]
  | d :: ds =>
    if combiningClass d ≠ 0 ∧ combiningClass d < combiningClass c then d :: place c ds else c :: d :: ds

/-- Marks in the order of their classes, those of one class in the order given. -/
def ordered (cs : List Char) : List Char := cs.foldr place []

/-- Joins what follows `base` to it. The marks of `between`, the last first, stand in between and did not
join; a mark of the class of the last of them, or of a lower one, is kept off by it. -/
def joined (base : Char) (between : List Char) : List Char → List Char
  | [] => base :: between.reverse
  | c :: cs =>
    let isFree := between.all fun m => combiningClass m < combiningClass c
    match (if isFree then join? base c else none) with
    | some whole => joined whole between cs
    | none =>
      if combiningClass c = 0 then base :: (between.reverse ++ joined c [] cs)
      else joined base (c :: between) cs

/-- A text in composed form. No character is composed of more than two that are composed in turn. -/
def composed (cs : List Char) : List Char :=
  match ordered ((cs.flatMap split).flatMap split) with
  | [] => []
  | c :: cs => joined c [] cs

end JmapClient.Idna.Composition
