import FormRules.Unicode.Recent
import FormRules.Numeral

/-!
Quoted text for diagnostics. Quotes and backslashes are escaped, and so are the
characters that do not show by themselves: control and format characters,
unassigned ones, ignored ones, separators other than the space, and marks that
join the character before them. The halfwidth voicing marks stand for themselves.
-/

namespace FormRules.Text

/-- Characters without a glyph of their own. -/
def invisible : Unicode.CharSet :=
  (Unicode.CharSet.unions
    (Unicode.recentAssigned.complement :: Unicode.recentGraphemeExtend ::
      Unicode.listed "defaultignorablecodepoint" ::
      ["cc", "cf", "co", "zl", "zp", "zs"].map Unicode.category)).difference
    (.ofHex "20 FF9E-FF9F")

/-- The escape of a character by its code point in hexadecimal digits. -/
def pointEscape (c : Char) : List Char :=
  "\\u\x7b".toList ++ (Nat.toDigits 16 c.toNat ++ ['\x7d'])

def escapeChar (c : Char) : List Char :=
  if c = '"' then ['\\', '"']
  else if c = '\\' then ['\\', '\\']
  else if c = '\n' then ['\\', 'n']
  else if c = '\r' then ['\\', 'r']
  else if c = '\t' then ['\\', 't']
  else if c = '\x00' then ['\\', '0']
  else if invisible.contains c then pointEscape c
  else [c]

/-- A text between double quotes, with escapes. -/
def quoted (text : String) : String :=
  String.ofList ('"' :: (text.toList.flatMap escapeChar ++ ['"']))

end FormRules.Text
