import JmapClient.Hex

/-!
# Texts in TOML

A text is written between quotes in one of four styles: basic texts have escapes and literal ones do not,
and both may be long, between three quotes, where line breaks stand for themselves. `print` takes the first
style that shows a text as it is, and a basic one with escapes if there is none. `read` reads all four.
-/

namespace JmapClient.Toml

/-- Whether a character is a space or a tab. -/
def isBlank (c : Char) : Bool := c = ' ' ∨ c = '\t'

/-- Whether a character is a control character other than the tab. -/
def isControl (c : Char) : Bool := (c.toNat < 0x20 ∧ c ≠ '\t') ∨ c.toNat = 0x7F

namespace Text

/-! ### Writing -/

/-- How a text is written. -/
inductive Style
  | basic
  | literal
  | longBasic
  | longLiteral
deriving DecidableEq, Repr

/-- The length of the longest run of a character, where a run of `current` goes before. -/
def longestRun (c : Char) (current : Nat) : List Char → Nat
  | [] => current
  | d :: ds => if d = c then longestRun c (current + 1) ds else max current (longestRun c 0 ds)

/-- The style in which a text is written. -/
def style (cs : List Char) : Style :=
  let single := longestRun '\'' 0 cs
  let double := longestRun '"' 0 cs
  let control := cs.any fun c => isControl c && c ≠ '\n'
  let backslash := cs.contains '\\'
  let newline := cs.contains '\n'
  if ¬ control ∧ ¬ backslash ∧ ¬ newline ∧ double = 0 then .basic
  else if ¬ control ∧ ¬ newline ∧ single = 0 then .literal
  else if ¬ control ∧ ¬ backslash ∧ double ≤ 2 then .longBasic
  else if ¬ control ∧ single ≤ 2 then .longLiteral
  else if newline then .longBasic
  else .basic

/-- The characters that have an escape by letter, each with its letter. -/
def letters : List (Char × Char) :=
  [('\x08', 'b'), ('\t', 't'), ('\n', 'n'), ('\x0c', 'f'), ('\r', 'r'), ('"', '"'), ('\\', '\\')]

/-- A character in a basic text, escaped if it has to be. -/
def escape (c : Char) : List Char :=
  match letters.lookup c with
  | some letter => ['\\', letter]
  | none =>
    if isControl c then
      ['\\', 'u', '0', '0', upperHexDigit (c.toNat / 16), upperHexDigit (c.toNat % 16)]
    else [c]

/-- The inside of a long basic text, where `quotes` quotes go before. Every third quote in a row is
escaped. -/
def escapeLong (quotes : Nat) : List Char → List Char
  | [] => []
  | c :: cs =>
    if c = '"' ∧ quotes < 2 then c :: escapeLong (quotes + 1) cs
    else if c = '\n' then c :: escapeLong 0 cs
    else escape c ++ escapeLong 0 cs

/-- A text in a style. A line break goes before a long text of several lines. -/
def printAs (style : Style) (cs : List Char) : List Char :=
  let first := if cs.contains '\n' then ['\n'] else []
  match style with
  | .basic => '"' :: (cs.flatMap escape ++ ['"'])
  | .literal => '\'' :: (cs ++ ['\''])
  | .longBasic => ['"', '"', '"'] ++ first ++ escapeLong 0 cs ++ ['"', '"', '"']
  | .longLiteral => ['\'', '\'', '\''] ++ first ++ cs ++ ['\'', '\'', '\'']

/-- A text as it is written. -/
def print (cs : List Char) : List Char := printAs (style cs) cs

/-! ### Reading -/

/-- The value of the first `n` characters as hexadecimal digits. -/
def hexNumber? (n : Nat) (cs : List Char) : Option Nat :=
  if cs.length < n then none
  else (cs.take n).foldlM (fun value c => do return value * 16 + (← hexValue? c)) 0

/-- The character that the first `n` characters give the number of. -/
def hexChar? (n : Nat) (cs : List Char) : Option Char := do
  let number ← hexNumber? n cs
  if number.isValidChar then some (Char.ofNat number) else none

/-- What an escape stands for, by what follows the backslash, and how many characters of that belong to
it. -/
def unescape? : List Char → Option (Char × Nat)
  | 'u' :: rest => (hexChar? 4 rest).map (·, 5)
  | 'U' :: rest => (hexChar? 8 rest).map (·, 9)
  | 'x' :: rest => (hexChar? 2 rest).map (·, 3)
  | 'e' :: _ => some ('\x1b', 1)
  | letter :: _ => (letters.find? (·.2 == letter)).map (·.1, 1)
  | [] => none

/-- Puts a character before what was read. -/
def prepend (c : Char) (r : List Char × List Char) : List Char × List Char := (c :: r.1, r.2)

/-- What follows a line break. -/
def afterBreak? : List Char → Option (List Char)
  | '\n' :: rest => some rest
  | '\r' :: '\n' :: rest => some rest
  | _ => none

/-- Reads what is left of a basic text, where `pass` characters are to be passed over. -/
def readBasic (pass : Nat) : List Char → Option (List Char × List Char)
  | [] => none
  | c :: rest =>
    match pass with
    | n + 1 => readBasic n rest
    | 0 =>
      if c = '"' then some ([], rest)
      else if c = '\\' then
        match unescape? rest with
        | some (e, n) => (readBasic n rest).map (prepend e)
        | none => none
      else if isControl c then none
      else (readBasic 0 rest).map (prepend c)

/-- Reads what is left of a literal text. -/
def readLiteral : List Char → Option (List Char × List Char)
  | [] => none
  | c :: rest =>
    if c = '\'' then some ([], rest)
    else if isControl c then none
    else (readLiteral rest).map (prepend c)

/-- The end of a long text, behind three quotes: up to two more quotes belong to the text. -/
def close (quote : Char) (rest : List Char) : List Char × List Char :=
  let more := ((rest.take 2).takeWhile (· = quote)).length
  (List.replicate more quote, rest.drop more)

/-- Whether a line ends behind blanks. -/
def endsLine (cs : List Char) : Bool := (afterBreak? (cs.dropWhile isBlank)).isSome

/-- What is done to the characters of a long basic text. -/
inductive Reading
  | taking
  /-- Passes over some characters. -/
  | passing (n : Nat)
  /-- Passes over blanks and line breaks. -/
  | folding

/-- Reads what is left of a long basic text. -/
def readLongBasic (mode : Reading) : List Char → Option (List Char × List Char)
  | [] => none
  | c :: rest =>
    let take : Option (List Char × List Char) :=
      if c = '"' ∧ rest.take 2 = ['"', '"'] then some (close '"' (rest.drop 2))
      else if c = '\\' then
        if endsLine rest then readLongBasic .folding rest
        else match unescape? rest with
          | some (e, n) => (readLongBasic (.passing n) rest).map (prepend e)
          | none => none
      else if c = '\n' ∨ (c = '\r' ∧ rest.head? = some '\n') ∨ ¬ isControl c then
        (readLongBasic .taking rest).map (prepend c)
      else none
    match mode with
    | .passing (n + 1) => readLongBasic (.passing n) rest
    | .folding =>
      if isBlank c ∨ c = '\n' ∨ (c = '\r' ∧ rest.head? = some '\n') then readLongBasic .folding rest
      else take
    | _ => take

/-- Reads what is left of a long literal text. -/
def readLongLiteral : List Char → Option (List Char × List Char)
  | [] => none
  | c :: rest =>
    if c = '\'' ∧ rest.take 2 = ['\'', '\''] then some (close '\'' (rest.drop 2))
    else if c = '\n' ∨ (c = '\r' ∧ rest.head? = some '\n') ∨ ¬ isControl c then
      (readLongLiteral rest).map (prepend c)
    else none

/-- What follows the line break at the beginning of a long text, if there is one. -/
def dropBreak (cs : List Char) : List Char := (afterBreak? cs).getD cs

/-- Reads a text on one line. The second part is what follows it. -/
def readShort : List Char → Option (List Char × List Char)
  | '"' :: rest => readBasic 0 rest
  | '\'' :: rest => readLiteral rest
  | _ => none

/-- Reads a text. The second part is what follows it. -/
def read : List Char → Option (List Char × List Char)
  | '"' :: '"' :: '"' :: rest => readLongBasic .taking (dropBreak rest)
  | '\'' :: '\'' :: '\'' :: rest => readLongLiteral (dropBreak rest)
  | cs => readShort cs

end Text

end JmapClient.Toml
