/-!
# Base64

Three octets are written as four characters. Where one or two octets are left over, `=` fills up the four.
-/

namespace JmapClient.Base64

/-- The characters for the numbers below 64. -/
def alphabet : List Char :=
  "ABCDEFGHIJKLMNOPQRSTUVWXYZabcdefghijklmnopqrstuvwxyz0123456789+/".toList

/-- The character for a number below 64. -/
def digit (n : Nat) : Char := (alphabet[n]?).getD '='

/-- The first `count` of the four digits of a number of 24 bits. -/
def digits (count n : Nat) : List Char :=
  [digit (n / 262144), digit (n / 4096 % 64), digit (n / 64 % 64), digit (n % 64)].take count

/-- The characters for some octets. -/
def encode : List UInt8 → List Char
  | a :: b :: c :: rest => digits 4 (a.toNat * 65536 + b.toNat * 256 + c.toNat) ++ encode rest
  | [a, b] => digits 3 (a.toNat * 65536 + b.toNat * 256) ++ ['=']
  | [a] => digits 2 (a.toNat * 65536) ++ ['=', '=']
  | [] => []

end JmapClient.Base64
