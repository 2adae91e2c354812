import JmapClient.Json.Draft
import JmapClient.Utf8

/-!
# Reading JSON text

`Draft.ofBytes` reads bytes as the draft of one document. The strings and numbers are scanned first:
`scanString` and `scanNumeral` tell what a string or numeral holds, or how it fails, and where it ends.
Every reader returns what is left of the bytes together with the fact that something was used up
(`Rest`), and that is why the reading ends.
-/

namespace JmapClient.Json

/-! ### What is left of a text -/

/-- What is left of `s` after something was read from it. -/
abbrev Rest (s : List UInt8) : Type := { r : List UInt8 // r.length < s.length }

/-- Part of `s`, or all of it. -/
abbrev Tail (s : List UInt8) : Type := { r : List UInt8 // r.length ≤ s.length }

namespace Tail

variable {s : List UInt8}

/-- All of a text. -/
def all (s : List UInt8) : Tail s := ⟨s, Nat.le_refl _⟩

/-- Part of a text is part of the text with a byte before it. -/
def past (b : UInt8) (t : Tail s) : Tail (b :: s) := ⟨t.1, Nat.le_succ_of_le t.2⟩

/-- Part of a text is less than the text with a byte before it. -/
def rest (b : UInt8) (t : Tail s) : Rest (b :: s) := ⟨t.1, Nat.lt_succ_of_le t.2⟩

/-- Part of a part of a text is part of the text. -/
def within (t : Tail s) (u : Tail t.1) : Tail s := ⟨u.1, Nat.le_trans u.2 t.2⟩

end Tail

namespace Rest

variable {s : List UInt8}

/-- What is left is part of the text. -/
def tail (r : Rest s) : Tail s := ⟨r.1, Nat.le_of_lt r.2⟩

/-- What is left is part of the text also with one byte before it. -/
def preceded (b : UInt8) (r : Rest s) : Tail s := ⟨b :: r.1, Nat.succ_le_of_lt r.2⟩

/-- What is left of part of a text is left of the text. -/
def within (t : Tail s) (r : Rest t.1) : Rest s := ⟨r.1, Nat.lt_of_lt_of_le r.2 t.2⟩

/-- Part of what is left of a text is left of the text. -/
def part (r : Rest s) (t : Tail r.1) : Rest s := ⟨t.1, Nat.lt_of_le_of_lt t.2 r.2⟩

end Rest

/-- The byte of an ASCII character. -/
def byte (c : Char) : UInt8 := UInt8.ofNat c.toNat

/-- Space, line feed, carriage return and tab may stand between the parts of a document. -/
def isBlank (b : UInt8) : Bool := b == 0x20 || b == 0x0A || b == 0x0D || b == 0x09

/-- The first byte that is not blank, and what follows it. -/
def next? : (s : List UInt8) → Option (UInt8 × Rest s)
  | [] => none
  | b :: r =>
    if isBlank b then (next? r).map fun n => (n.1, n.2.tail.rest b)
    else some (b, (Tail.all r).rest b)

/-! ### Strings -/

/-- What comes of scanning a string or numeral: a result and what is left, something that can only be
passed over, or the end of the text. -/
inductive Scan (α : Type) (s : List UInt8)
  | done (a : α) (rest : Rest s)
  | unreadable (read : Fault) (rest : Rest s)
  | broken (cut : Cut)

/-- What comes of scanning part of a text, seen from the whole. -/
def Scan.within {α : Type} {s : List UInt8} (t : Tail s) : Scan α t.1 → Scan α s
  | .done a r => .done a (r.within t)
  | .unreadable f r => .unreadable f (r.within t)
  | .broken c => .broken c

/-- What comes of scanning a text, seen from the text with some bytes before it. -/
def Scan.behind {α : Type} {s : List UInt8} : (front : List UInt8) → Scan α s → Scan α (front ++ s)
  | [], scan => scan
  | b :: bs, scan => (scan.behind bs).within ((Tail.all (bs ++ s)).past b)

/-- The value of a hexadecimal digit. -/
def hexDigit? (b : UInt8) : Option Nat :=
  let n := b.toNat
  if 0x30 ≤ n ∧ n ≤ 0x39 then some (n - 0x30)
  else if 0x41 ≤ n ∧ n ≤ 0x46 then some (n - 0x41 + 10)
  else if 0x61 ≤ n ∧ n ≤ 0x66 then some (n - 0x61 + 10)
  else none

/-- The value of four hexadecimal digits. -/
def hexQuad? (a b c d : UInt8) : Option Nat := do
  let w ← hexDigit? a
  let x ← hexDigit? b
  let y ← hexDigit? c
  let z ← hexDigit? d
  return ((w * 16 + x) * 16 + y) * 16 + z

/-- The character that a letter stands for after a backslash. -/
def unescapeLetter? (b : UInt8) : Option Char :=
  if b = byte '"' then some '"'
  else if b = byte '\\' then some '\\'
  else if b = byte '/' then some '/'
  else if b = byte 'b' then some (Char.ofNat 8)
  else if b = byte 'f' then some (Char.ofNat 12)
  else if b = byte 'n' then some (Char.ofNat 10)
  else if b = byte 'r' then some (Char.ofNat 13)
  else if b = byte 't' then some (Char.ofNat 9)
  else none

/-- What a numbered escape holds: a character, the first half of a surrogate pair or the second. -/
inductive Unit16
  | scalar (c : Char)
  | leading (n : Nat)
  | trailing (n : Nat)

/-- Sorts a 16-bit unit. -/
def Unit16.ofNat (n : Nat) : Unit16 :=
  if n < 0xD800 ∨ 0xDFFF < n then .scalar (Char.ofNat n)
  else if n < 0xDC00 then .leading (n - 0xD800)
  else .trailing (n - 0xDC00)

/-- The fault that a first half of a surrogate pair meets in what follows it, if that is no second
half. -/
def afterLeading : List UInt8 → Fault
  | [] => .truncated
  | b :: [] => if b = byte '\\' then .truncated else .malformed
  | b :: c :: rest =>
    if b = byte '\\' ∧ c = byte 'u' ∧ rest.length < 4 then .truncated else .malformed

/-- Scans a string whose opening quote was read. `read` is the fault met so far that only matters if the
string is read, and `held` the bytes of the string so far, the last one first. -/
def scanString (read : Option Fault) (held : List UInt8) : (s : List UInt8) → Scan String s
  | [] => .broken ⟨read.getD .truncated, .truncated⟩
  | 0x22 :: r =>
    let rest := (Tail.all r).rest 0x22
    match read with
    | some f => .unreadable f rest
    | none =>
      match Utf8.decode? held.reverse with
      | some text => .done text rest
      | none => .unreadable .malformed rest
  | [0x5C] => .broken ⟨read.getD .truncated, .truncated⟩
  | 0x5C :: 0x75 :: a :: b :: c :: d :: r =>
    match hexQuad? a b c d with
    | none => .broken ⟨read.getD .malformed, .malformed⟩
    | some n =>
      match Unit16.ofNat n with
      | .scalar ch =>
        (scanString read ((Utf8.encode (String.singleton ch)).reverse ++ held) r).behind
          [0x5C, 0x75, a, b, c, d]
      | .trailing _ =>
        (scanString (some (read.getD .malformed)) held r).behind [0x5C, 0x75, a, b, c, d]
      | .leading high =>
        match r with
        | 0x5C :: 0x75 :: e :: f :: g :: h :: r' =>
          match (hexQuad? e f g h).map Unit16.ofNat with
          | some (.trailing low) =>
            let ch := Char.ofNat (0x10000 + high * 0x400 + low)
            (scanString read ((Utf8.encode (String.singleton ch)).reverse ++ held) r').behind
              [0x5C, 0x75, a, b, c, d, 0x5C, 0x75, e, f, g, h]
          | some _ =>
            (scanString (some (read.getD .malformed)) held r').behind
              [0x5C, 0x75, a, b, c, d, 0x5C, 0x75, e, f, g, h]
          | none => .broken ⟨read.getD .malformed, .malformed⟩
        | r =>
          (scanString (some (read.getD (afterLeading r))) held r).behind [0x5C, 0x75, a, b, c, d]
  | 0x5C :: 0x75 :: _ => .broken ⟨read.getD .truncated, .truncated⟩
  | 0x5C :: l :: r =>
    match unescapeLetter? l with
    | some ch => (scanString read (byte ch :: held) r).behind [0x5C, l]
    | none => .broken ⟨read.getD .malformed, .malformed⟩
  | b :: r =>
    if b < 0x20 then .broken ⟨read.getD .malformed, .malformed⟩
    else (scanString read (b :: held) r).behind [b]

/-! ### Numerals -/

/-- The value of a decimal digit. -/
def digit? (b : UInt8) : Option Nat :=
  if 0x30 ≤ b ∧ b ≤ 0x39 then some (b.toNat - 0x30) else none

/-- The digits in front of a text, and what follows them. -/
def digits : (s : List UInt8) → List Nat × Tail s
  | [] => ([], .all [])
  | b :: r =>
    match digit? b with
    | some d =>
      let (ds, rest) := digits r
      (d :: ds, rest.past b)
    | none => ([], .all (b :: r))

/-- The digits in front of a text, of which there must be one, and what follows them. -/
def someDigits? : (s : List UInt8) → Option (Nat × List Nat × Rest s)
  | [] => none
  | b :: r =>
    match digit? b with
    | some d =>
      let (ds, rest) := digits r
      some (d, ds, rest.rest b)
    | none => none

/-- How a numeral fails where a digit must follow: reading tells the end of the text from a wrong
character, passing over does not. -/
def noDigit (rest : List UInt8) : Cut :=
  ⟨if rest.isEmpty then .truncated else .malformed, .malformed⟩

/-- The digits of the fraction, if a point follows. -/
def scanFraction : (s : List UInt8) → Except Cut (Option (List Nat) × Tail s)
  | [] => .ok (none, .all [])
  | b :: r =>
    if b = byte '.' then
      match someDigits? r with
      | none => .error (noDigit r)
      | some (d, ds, rest) => .ok (some (d :: ds), rest.tail.past b)
    else .ok (none, .all (b :: r))

/-- Whether there is a minus in front of a text, and what follows a sign there. -/
def scanSign : (s : List UInt8) → Bool × Tail s
  | [] => (false, .all [])
  | b :: r =>
    if b = byte '-' then (true, (Tail.all r).past b)
    else if b = byte '+' then (false, (Tail.all r).past b)
    else (false, .all (b :: r))

/-- The exponent, if its letter follows. -/
def scanExponent : (s : List UInt8) → Except Cut (Option Int × Tail s)
  | [] => .ok (none, .all [])
  | b :: r =>
    if b = byte 'e' ∨ b = byte 'E' then
      let (negative, t) := scanSign r
      match someDigits? t.1 with
      | none => .error ⟨(noDigit t.1).read, .malformed⟩
      | some (d, ds, rest) =>
        let n : Nat := (d :: ds).foldl (fun n d => n * 10 + d) 0
        .ok (some (if negative then -(n : Int) else n), (rest.within t).tail.past b)
    else .ok (none, .all (b :: r))

/-- Whether there is a minus in front of a text, and what follows it. -/
def scanMinus : (s : List UInt8) → Bool × Tail s
  | [] => (false, .all [])
  | b :: r => if b = byte '-' then (true, (Tail.all r).past b) else (false, .all (b :: r))

/-- Scans a numeral: a minus, digits without a leading zero, a fraction and an exponent. -/
def scanNumeral (s : List UInt8) : Scan Number s :=
  let (negative, t) := scanMinus s
  match someDigits? t.1 with
  | none => .broken (noDigit t.1)
  | some (d, ds, rest) =>
    if d = 0 ∧ ds ≠ [] then .broken (.both .malformed)
    else
      match scanFraction rest.1 with
      | .error c => .broken c
      | .ok (fraction, behindFraction) =>
        match scanExponent behindFraction.1 with
        | .error c => .broken c
        | .ok (exponent, behindExponent) =>
          let left := (rest.part (behindFraction.within behindExponent)).within t
          match Numeral.value ⟨negative, d :: ds, fraction, exponent⟩ with
          | some n => .done n left
          | none => .unreadable .malformed left

/-! ### Words -/

/-- Reads the rest of a word such as `true` whose first letter was seen. -/
def scanWord : List UInt8 → (s : List UInt8) → Except Fault (Tail s)
  | [], s => .ok (.all s)
  | _ :: _, [] => .error .truncated
  | w :: ws, b :: r =>
    if w = b then do
      let rest ← scanWord ws r
      return rest.past b
    else .error .malformed

/-! ### Documents -/

/-- Arrays and objects inside this many others are too deep to be read. -/
def depthLimit : Nat := 127

/-- The draft of something scanned, and what follows it. -/
def Scan.draft {α : Type} {s : List UInt8} (f : α → Draft) : Scan α s → Draft × Option (Rest s)
  | .done a r => (f a, some r)
  | .unreadable read r => (.bad read none, some r)
  | .broken c => (.bad c.read (some c.skip), none)

/-- The draft of a fault that ends the text. -/
def Draft.fault (f : Fault) : Draft := .bad f (some f)

/-- The draft of a word whose first letter was seen, and what follows it. -/
def wordDraft {s : List UInt8} (d : Draft) (word : String) (r : Rest s) : Draft × Option (Rest s) :=
  match scanWord (Utf8.encode word) r.1 with
  | .ok rest => (d, some (r.part rest))
  | .error f => (.fault f, none)

/-- What is met where an item of an array may begin. -/
inductive ItemLead (s : List UInt8)
  /-- The end of the array. -/
  | closed (rest : Rest s)
  | broken (cut : Cut)
  /-- An item. -/
  | value (place : Tail s)

/-- Looks for the next item of an array. A comma goes before each but the first. -/
def ItemLead.of (first : Bool) (s : List UInt8) : ItemLead s :=
  match next? s with
  | none => .broken (.both .truncated)
  | some (b, r) =>
    if b = byte ']' then .closed r
    else if first then .value (r.preceded b)
    else if b = byte ',' then .value r.tail
    else .broken (.both .malformed)

/-- What is met where a member of an object may begin. -/
inductive MemberLead (s : List UInt8)
  /-- The end of the object. -/
  | closed (rest : Rest s)
  /-- A member that breaks off, if its name was read, and the end. -/
  | broken (key : Option (Except Fault String)) (cut : Cut)
  /-- The name of a member, and the place of its value. -/
  | value (key : Except Fault String) (place : Rest s)

/-- Reads the name of a member and the colon behind it. -/
def MemberLead.named (s : List UInt8) : MemberLead s :=
  let colon (key : Except Fault String) (u : Rest s) : MemberLead s :=
    match next? u.1 with
    | none => .broken (some key) (.both .truncated)
    | some (c, place) =>
      if c = byte ':' then .value key (place.within u.tail)
      else .broken (some key) (.both .malformed)
  match next? s with
  | none => .broken none (.both .truncated)
  | some (q, t) =>
    if q = byte '"' then
      match scanString none [] t.1 with
      | .done name u => colon (.ok name) (u.within t.tail)
      | .unreadable f u => colon (.error f) (u.within t.tail)
      | .broken c => .broken none c
    else .broken none (.both .malformed)

/-- What is met in part of a text, seen from the whole. -/
def MemberLead.within {s : List UInt8} (t : Tail s) : MemberLead t.1 → MemberLead s
  | .closed rest => .closed (rest.within t)
  | .broken key cut => .broken key cut
  | .value key place => .value key (place.within t)

/-- Looks for the next member of an object. A comma goes before each but the first. -/
def MemberLead.of (first : Bool) (s : List UInt8) : MemberLead s :=
  match next? s with
  | none => .broken none (.both .truncated)
  | some (b, r) =>
    if b = byte '\x7d' then .closed r
    else if first then (MemberLead.named (b :: r.1)).within (r.preceded b)
    else if b = byte ',' then (MemberLead.named r.1).within r.tail
    else .broken none (.both .malformed)

/-- The draft of a member that breaks off. -/
def brokenMember (cut : Cut) (key : Except Fault String) : Except Fault String × Draft :=
  (key, .fault cut.read)

theorem items_shorter {s : List UInt8} (r : Rest s) : 2 * r.1.length + 1 < 2 * s.length := by
  have := r.2
  omega

theorem item_shorter {s : List UInt8} (t : Tail s) : 2 * t.1.length < 2 * s.length + 1 := by
  have := t.2
  omega

theorem member_shorter {s : List UInt8} (r : Rest s) : 2 * r.1.length < 2 * s.length + 1 := by
  have := r.2
  omega

theorem nextItem_shorter {s : List UInt8} (t : Tail s) (u : Rest t.1) :
    2 * u.1.length + 1 < 2 * s.length + 1 := by
  have := t.2
  have := u.2
  omega

theorem nextMember_shorter {s : List UInt8} (r : Rest s) (u : Rest r.1) :
    2 * u.1.length + 1 < 2 * s.length + 1 := by
  have := r.2
  have := u.2
  omega

mutual

/-- Reads one value, inside `depth` arrays and objects. -/
def readValue (depth : Nat) (s : List UInt8) : Draft × Option (Rest s) :=
  match next? s with
  | none => (.fault .truncated, none)
  | some (b, r) =>
    if b = byte 'n' then wordDraft .null "ull" r
    else if b = byte 't' then wordDraft (.bool true) "rue" r
    else if b = byte 'f' then wordDraft (.bool false) "alse" r
    else if b = byte '"' then ((scanString none [] r.1).within r.tail).draft .string
    else if b = byte '-' ∨ (digit? b).isSome then
      ((scanNumeral (b :: r.1)).within (r.preceded b)).draft .number
    else if b = byte '[' then
      let (items, cut, rest) := readItems (depth + 1) true r.1
      (.array (depthLimit ≤ depth) items cut, rest.map (·.within r.tail))
    else if b = byte '\x7b' then
      let (members, cut, rest) := readMembers (depth + 1) true r.1
      (.object (depthLimit ≤ depth) members cut, rest.map (·.within r.tail))
    else (.fault .malformed, none)
termination_by 2 * s.length
decreasing_by
  · exact items_shorter r
  · exact items_shorter r

/-- Reads the items of an array up to its bracket. -/
def readItems (depth : Nat) (first : Bool) (s : List UInt8) :
    List Draft × Option Cut × Option (Rest s) :=
  match ItemLead.of first s with
  | .closed rest => ([], none, some rest)
  | .broken cut => ([], some cut, none)
  | .value place =>
    match readValue depth place.1 with
    | (d, none) => ([d], some (.both .truncated), none)
    | (d, some u) =>
      let (ds, cut, rest) := readItems depth false u.1
      (d :: ds, cut, rest.map fun w => (w.within u.tail).within place)
termination_by 2 * s.length + 1
decreasing_by
  · exact item_shorter place
  · exact nextItem_shorter place u

/-- Reads the members of an object up to its brace. -/
def readMembers (depth : Nat) (first : Bool) (s : List UInt8) :
    List (Except Fault String × Draft) × Option Cut × Option (Rest s) :=
  match MemberLead.of first s with
  | .closed rest => ([], none, some rest)
  | .broken key cut => ((key.map (brokenMember cut)).toList, some cut, none)
  | .value key place =>
    match readValue depth place.1 with
    | (d, none) => ([(key, d)], some (.both .truncated), none)
    | (d, some u) =>
      let (ms, cut, rest) := readMembers depth false u.1
      ((key, d) :: ms, cut, rest.map fun w => (w.within u.tail).within place.tail)
termination_by 2 * s.length + 1
decreasing_by
  · exact member_shorter place
  · exact nextMember_shorter place u

end

/-- The draft of the document that the bytes spell, followed by the fault that comes after it, if
anything but blanks does. -/
def Draft.ofBytes (s : List UInt8) : Draft × Option Fault :=
  match readValue 0 s with
  | (d, none) => (d, none)
  | (d, some r) => (d, if (next? r.1).isNone then none else some .malformed)

/-- The document that the bytes spell. -/
def Tree.ofBytes (s : List UInt8) : Except Fault Tree := do
  let (d, after) := Draft.ofBytes s
  let t ← d.tree?
  match after with
  | none => return t
  | some f => .error f

/-- The value that the bytes spell. -/
def Value.ofBytes (s : List UInt8) : Except Fault Value := (Tree.ofBytes s).map .ofTree

end JmapClient.Json
