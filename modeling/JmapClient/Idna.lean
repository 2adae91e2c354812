import JmapClient.Idna.Composition
import JmapClient.Idna.Direction
import JmapClient.Idna.Punycode

/-!
# Names of hosts in many scripts

The name of a host is sent in ASCII, whatever script it is written in. `ascii?` brings a name into the one
spelling that stands for it and writes each of its labels that is not in ASCII as `xn--` and its Punycode.
A label that begins with `xn--` must be one that could have been written so.
-/

namespace JmapClient.Idna

/-- What begins a label that is written in Punycode: `xn--`. -/
def mark : List Char := "xn--".toList

/-- Whether `c` between `before`, the nearest first, and `after` is no joiner or has a use there: a joiner behind a
virama, whose combining class is 9, and a non-joiner there or between letters that would join across it. -/
def isInPlace (before : List Char) (c : Char) (after : List Char) : Bool :=
  let followsVirama := before.head?.any fun b => Composition.combiningClass b = 9
  let nearest (cs : List Char) := cs.find? fun d => !nonspacing.has d
  if c = Char.ofNat 0x200D then followsVirama
  else if c = Char.ofNat 0x200C then
    followsVirama ||
      (nearest before).any (fun d => joinsBoth.has d || joinsLeft.has d) &&
        (nearest after).any (fun d => joinsBoth.has d || joinsRight.has d)
  else true

/-- Whether all joiners of a label that follows `before` have a use. -/
def joinersFit (before : List Char) : List Char → Bool
  | [] => true
  | c :: cs => isInPlace before c cs && joinersFit (c :: before) cs

/-- Whether `label` is in the spelling that stands for it and may be part of a name. -/
def isValid (label : List Char) : Bool :=
  label.all (standing · = .valid) && Composition.composed label = label && !label.head?.any marks.has &&
    !mark.isPrefixOf label && joinersFit [] label

/-- A label with its Punycode read, if it is written so. -/
def label? (cs : List Char) : Option (List Char) :=
  if mark.isPrefixOf cs then do
    let label ← Punycode.decode? (cs.drop mark.length)
    if label.all Punycode.isAscii || !isValid label then none else some label
  else if cs.all Punycode.isAscii || isValid cs then some cs
  else none

/-- The ASCII form of `label`, with the `mark` before it if it needs Punycode. -/
def asciiLabel (label : List Char) : List Char :=
  if label.all Punycode.isAscii then label else mark ++ Punycode.encode label

/-- The `name` of a host in ASCII. -/
def ascii? (name : List Char) : Option (List Char) := do
  let mapped ← mapped? name
  let labels ← ((Composition.composed mapped).splitOn '.').mapM label?
  if labels.any runsLeft && !labels.all isUniform then none
  else some (['.'].intercalate (labels.map asciiLabel))

end JmapClient.Idna
