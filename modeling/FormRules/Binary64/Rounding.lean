import FormRules.Binary64.Basic

/-!
Rounding of exact quotients to the nearest double, a tie going to the even
place. Integers become doubles by it, and decimals too.
-/

namespace FormRules.Binary64

/-- Rounds `num / den` to the nearest integer, half to even. -/
def divNearestEven (num den : Nat) : Nat :=
  let quotient := num / den
  let twice := 2 * (num % den)
  if twice < den then quotient
  else if den < twice then quotient + 1
  else quotient + quotient % 2

/-- The exponent with which the significand of `num / den` has 53 bits, but not
below that of the smallest magnitudes. -/
def ratioExponent (num den : Nat) : Int :=
  let guess : Int := (Nat.log2 num : Int) - (Nat.log2 den : Int)
  let below : Bool :=
    match guess with
    | .ofNat g => num < den * Nat.pow 2 g
    | .negSucc g => num * Nat.pow 2 (g + 1) < den
  max (-1074) ((if below then guess - 1 else guess) - 52)

/-- The place of the magnitude nearest to `num / den`, for a positive `den`.
Counting places in steps of the exponent makes a significand that rounds up to
54 bits carry into the next exponent by itself. -/
def nearestPlace (num den : Nat) : Nat :=
  if num = 0 then 0
  else
    let e := ratioExponent num den
    let significand :=
      match e with
      | .ofNat g => divNearestEven num (den * Nat.pow 2 g)
      | .negSucc g => divNearestEven (num * Nat.pow 2 (g + 1)) den
    (e + 1074).toNat * octave + significand

/-- The double nearest to `± num / den`. -/
def ofRatio (negative : Bool) (num den : Nat) : Binary64 :=
  ofPlace negative (nearestPlace num den)

/-- The double nearest to an integer. -/
def ofInt (n : Int) : Binary64 :=
  ofRatio (n < 0) n.natAbs 1

/-- The signed 64-bit integer nearest to a number on the side of zero; numbers
out of range go to the nearer end, and NaN to zero. -/
def toInt64 (x : Binary64) : Int64 :=
  match x with
  | nan => 0
  | signed negative _ _ =>
    match x.truncate? with
    | some n => Int64.ofInt (max Int64.minValue.toInt (min n Int64.maxValue.toInt))
    | none => if negative then Int64.minValue else Int64.maxValue

/-- Twice a number. -/
def double : Binary64 → Binary64
  | nan => nan
  | signed negative place _ =>
    if place < infinityPlace then
      let (num, den) := ratioAt place
      ofRatio negative (2 * num) den
    else infinity negative

end FormRules.Binary64
