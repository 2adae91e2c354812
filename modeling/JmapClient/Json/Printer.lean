import JmapClient.Json.Tree

/-!
# Printing JSON

`Tree.print` writes a document without blanks. Strings keep every character but the quote, the backslash
and those below U+0020, which are escaped: by letter where JSON has one, else by number.
-/

namespace JmapClient.Json

/-- The letter that escapes a character after a backslash. -/
def escapeLetter? (c : Char) : Option Char :=
  if c = '"' ∨ c = '\\' then some c
  else if c = Char.ofNat 8 then some 'b'
  else if c = Char.ofNat 9 then some 't'
  else if c = Char.ofNat 10 then some 'n'
  else if c = Char.ofNat 12 then some 'f'
  else if c = Char.ofNat 13 then some 'r'
  else none

/-- A character inside a JSON string. -/
def printChar (c : Char) : List Char :=
  match escapeLetter? c with
  | some l => ['\\', l]
  | none =>
    if c.toNat < 0x20 then
      ['\\', 'u', '0', '0', Nat.digitChar (c.toNat / 16), Nat.digitChar (c.toNat % 16)]
    else [c]

/-- A JSON string. -/
def printString (s : String) : String :=
  String.ofList ('"' :: s.toList.flatMap printChar ++ ['"'])

namespace Tree

mutual

/-- The text of a document. -/
def print : Tree → String
  | .null => "null"
  | .bool true => "true"
  | .bool false => "false"
  | .number n => n.render
  | .string s => printString s
  | .array ts => "[" ++ ",".intercalate (printAll ts) ++ "]"
  | .object ms => "\x7b" ++ ",".intercalate (printMembers ms) ++ "\x7d"
termination_by structural t => t

/-- The texts of a list of documents. -/
def printAll : List Tree → List String
  | [] => []
  | t :: ts => t.print :: printAll ts
termination_by structural ts => ts

/-- The texts of a list of members. -/
def printMembers : List (String × Tree) → List String
  | [] => []
  | (k, t) :: ms => (printString k ++ ":" ++ t.print) :: printMembers ms
termination_by structural ms => ms

end

end Tree

/-- The text of a value. -/
def Value.print (v : Value) : String := v.tree.print

end JmapClient.Json
