/-!
Universally unique identifiers: groups of 8, 4, 4, 4 and 12 hexadecimal digits
between hyphens.
-/

namespace FormRules.Format.Uuid

def isHexDigit (c : Char) : Bool :=
  c.isDigit || ('a' ≤ c && c ≤ 'f') || ('A' ≤ c && c ≤ 'F')

/-- Whether a text is an identifier. -/
def isUuid (chars : List Char) : Bool :=
  let groups := chars.splitOn '-'
  groups.map List.length == [8, 4, 4, 4, 12] && groups.all fun g => g.all isHexDigit

end FormRules.Format.Uuid
