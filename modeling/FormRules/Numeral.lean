/-!
Decimal integers as text. A written integer has no leading zeros and no plus
sign; a read one may have both.
-/

namespace FormRules.Numeral

/-- The value of a non-empty run of ASCII digits. -/
def digits? (chars : List Char) : Option Nat :=
  if chars.isEmpty || !chars.all Char.isDigit then none
  else some (Nat.ofDigitChars 10 chars 0)

/-- A natural number with an optional plus sign. -/
def natural? (chars : List Char) : Option Nat :=
  match chars with
  | '+' :: rest => digits? rest
  | _ => digits? chars

/-- An integer with an optional sign. -/
def integer? (chars : List Char) : Option Int :=
  match chars with
  | '-' :: rest => (digits? rest).map fun n => -(n : Int)
  | _ => (natural? chars).map fun n => (n : Int)

/-- The 64-bit integer with a given value, if there is one. -/
def toInt64? (n : Int) : Option Int64 :=
  if Int64.minValue.toInt ≤ n ∧ n ≤ Int64.maxValue.toInt then some (Int64.ofInt n) else none

/-- The 32-bit integer with a given value, if there is one. -/
def toInt32? (n : Int) : Option Int32 :=
  if Int32.minValue.toInt ≤ n ∧ n ≤ Int32.maxValue.toInt then some (Int32.ofInt n) else none

/-- The 64-bit word with a given value, if there is one. -/
def toUInt64? (n : Nat) : Option UInt64 :=
  if n < UInt64.size then some (UInt64.ofNat n) else none

/-- The digits of a natural number. -/
def writeNat (n : Nat) : List Char :=
  Nat.toDigits 10 n

/-- The digits of an integer, after a minus sign when it is negative. -/
def writeInt (n : Int) : List Char :=
  match n with
  | .ofNat m => writeNat m
  | .negSucc m => '-' :: writeNat (m + 1)

/-- The digits of a natural number, filled up with zeros to a width. -/
def writePadded (width n : Nat) : List Char :=
  List.replicate (width - (writeNat n).length) '0' ++ writeNat n

theorem writeNat_ne_nil (n : Nat) : writeNat n ≠ [] := by
  intro h
  have := Nat.length_toDigits_pos (b := 10) (n := n)
  simp [writeNat] at h

theorem all_isDigit_writeNat (n : Nat) : (writeNat n).all Char.isDigit = true := by
  rw [List.all_eq_true]
  intro c hc
  exact Nat.isDigit_of_mem_toDigits (by decide) (by decide) hc

theorem isDigit_of_mem_writeNat {n : Nat} {c : Char} (h : c ∈ writeNat n) : c.isDigit = true :=
  List.all_eq_true.mp (all_isDigit_writeNat n) c h

theorem ofDigitChars_writeNat (n : Nat) : Nat.ofDigitChars 10 (writeNat n) 0 = n := by
  rw [writeNat, Nat.ofDigitChars_toDigits (by decide) (by decide)]

end FormRules.Numeral
