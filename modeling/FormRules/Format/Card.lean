/-!
Card numbers: 13 to 19 digits with a valid check digit, possibly separated by
spaces and hyphens.
-/

namespace FormRules.Format.Card

/-- What a digit adds to the checksum when it is doubled: the digit sum of its
double. -/
def doubled (d : Nat) : Nat :=
  if 2 * d > 9 then 2 * d - 9 else 2 * d

/-- The checksum of digits in reverse order: every second one is doubled, the
first one is not. -/
def luhnSum : List Nat → Nat
  | [] => 0
  | [d] => d
  | d :: e :: rest => d + doubled e + luhnSum rest

def isSeparator (c : Char) : Bool := c == ' ' || c == '-'

/-- The digits of a text without its separators, if nothing else is there. -/
def digits? (chars : List Char) : Option (List Nat) :=
  let signs := chars.filter fun c => !isSeparator c
  if signs.all Char.isDigit then some (signs.map fun c => c.toNat - '0'.toNat) else none

/-- Whether a text is a card number. -/
def isCard (chars : List Char) : Bool :=
  match digits? chars with
  | none => false
  | some digits =>
    13 ≤ digits.length && digits.length ≤ 19 && luhnSum digits.reverse % 10 == 0

end FormRules.Format.Card
