import FormRules.Pattern.Meaning

/-!
E-mail addresses: a local part, one at sign, and a domain of two or more labels. Their form is
given by a pattern.
-/

namespace FormRules.Format.Email

/-- A label of a domain: a letter or digit, and behind it, if the label is longer, up to 61
letters, digits and hyphens and a last letter or digit. -/
def labelText : String := "[a-zA-Z0-9](?:[a-zA-Z0-9-]\x7b0,61\x7d[a-zA-Z0-9])?"

/-- The pattern of addresses as it is written. -/
def addressText : String :=
  "^[a-zA-Z0-9.!#$%&'*+/=?^_\x60\x7b|\x7d~-]+@" ++ labelText ++ "(?:\\." ++ labelText ++ ")+$"

/-- The pattern of addresses. -/
def address? : Option Pattern := Pattern.ofText? addressText

/-- Whether a text is an address. -/
def isEmail (chars : List Char) : Bool :=
  address?.any fun address => address.matchesIn (String.ofList chars)

end FormRules.Format.Email
