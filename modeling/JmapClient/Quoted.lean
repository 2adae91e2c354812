import JmapClient.Hex
import JmapClient.Quoted.Table

/-!
# Quoted text

How a character or a text is shown inside a message: between quotes, with the quote and the backslash
escaped, line breaks and tabs by letter, and every character of `escapedRanges` or below U+0020 by its
number, as `\u{301}`.
-/

namespace JmapClient.Quoted

/-- Whether a character is written by its number. -/
def isEscaped (c : Char) : Bool :=
  c.toNat < 0x20 || c.toNat = 0x7F || escapedRanges.has c

/-- A character inside quotes of the kind `quote`. -/
def character (quote c : Char) : String :=
  if c = quote ∨ c = '\\' then String.ofList ['\\', c]
  else if c = Char.ofNat 0 then "\\0"
  else if c = '\t' then "\\t"
  else if c = '\r' then "\\r"
  else if c = '\n' then "\\n"
  else if isEscaped c then "\\u\x7b" ++ hexNumeral c.toNat ++ "\x7d"
  else String.singleton c

/-- A text between double quotes. -/
def text (s : String) : String :=
  "\"" ++ String.join (s.toList.map (character '"')) ++ "\""

/-- A character between single quotes. -/
def char (c : Char) : String :=
  "'" ++ character '\x27' c ++ "'"

end JmapClient.Quoted
