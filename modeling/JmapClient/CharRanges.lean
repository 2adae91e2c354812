/-!
# Sets of characters by code point
-/

namespace JmapClient

/-- Characters given by runs of code points, the first and the last of each. -/
abbrev CharRanges := Array (Nat × Nat)

/-- Whether a character is in one of the runs. -/
def CharRanges.has (rs : CharRanges) (c : Char) : Bool := rs.any fun r => r.1 ≤ c.toNat && c.toNat ≤ r.2

end JmapClient
