import FormRules.Unicode.Blank

/-!
Phone numbers: an optional plus sign, then digits, white space, hyphens, points
and parentheses, with 7 to 15 digits.
-/

namespace FormRules.Format.Phone

def isPhoneChar (c : Char) : Bool :=
  c.isDigit || Unicode.isWhiteSpace c || ['-', '(', ')', '.'].contains c

/-- Whether a text is a phone number. -/
def isPhone (chars : List Char) : Bool :=
  let body := match chars with | '+' :: rest => rest | _ => chars
  let digits := (chars.filter Char.isDigit).length
  !body.isEmpty && body.all isPhoneChar && 7 ≤ digits && digits ≤ 15

end FormRules.Format.Phone
