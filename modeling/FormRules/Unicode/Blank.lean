/-!
White space, and texts without it at their ends.
-/

namespace FormRules.Unicode

/-- White space in the sense of the Unicode standard. -/
def isWhiteSpace (c : Char) : Bool :=
  let n := c.toNat
  (0x9 ≤ n && n ≤ 0xD) || n == 0x20 || n == 0x85 || n == 0xA0 || n == 0x1680 ||
    (0x2000 ≤ n && n ≤ 0x200A) || n == 0x2028 || n == 0x2029 || n == 0x202F ||
    n == 0x205F || n == 0x3000

def trimStart (chars : List Char) : List Char :=
  chars.dropWhile isWhiteSpace

/-- Removes white space at both ends. -/
def trimChars (chars : List Char) : List Char :=
  (trimStart (trimStart chars).reverse).reverse

def trim (text : String) : String :=
  String.ofList (trimChars text.toList)

/-- Whether a text has no character other than white space. -/
def isBlankText (text : String) : Bool :=
  text.toList.all isWhiteSpace

end FormRules.Unicode
