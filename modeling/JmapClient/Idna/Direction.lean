import JmapClient.Idna.Characters

/-!
# Labels in one direction

A name with a letter that is written from right to left stays readable only if each of its labels keeps to
one direction from its first character to its last. `isUniform` states when a label does.
-/

namespace JmapClient.Idna

/-- What a character does to the direction of the text around it. -/
inductive Direction
  | leftToRight
  | rightToLeft
  | arabicNumber
  | europeanNumber
  | mark
  | neutral
deriving DecidableEq, Repr

/-- What a character does to the direction of the text around it. -/
def direction (c : Char) : Direction :=
  if neutral.has c then .neutral
  else if europeanNumbers.has c then .europeanNumber
  else if nonspacing.has c then .mark
  else if rightToLeft.has c then .rightToLeft
  else if arabicNumbers.has c then .arabicNumber
  else .leftToRight

/-- Whether `label` has a character that is written from right to left. -/
def runsLeft (label : List Char) : Bool :=
  label.any fun c => direction c = .rightToLeft ∨ direction c = .arabicNumber

/-- Whether `label` keeps to the direction of its first character, which must be a letter: no letter of the other, a
letter or a number at the end before its marks, and numbers of one kind only. -/
def isUniform (label : List Char) : Bool :=
  let directions := label.map direction
  let last := (directions.reverse.dropWhile (· = .mark)).head?
  match directions with
  | [] => true
  | .leftToRight :: _ =>
    !directions.contains .rightToLeft && !directions.contains .arabicNumber && last ≠ some .neutral
  | .rightToLeft :: _ =>
    !directions.contains .leftToRight && last ≠ some .neutral &&
      !(directions.contains .arabicNumber && directions.contains .europeanNumber)
  | _ => false

end JmapClient.Idna
