/-!
The double-precision numbers of IEEE 754, by meaning. The magnitudes form one
ascending row: 0, the multiples of 2⁻¹⁰⁷⁴, …, the largest finite magnitude and
infinity. A number is a sign and a place in that row, so numbers compare as
signed places do, and the two zeros are equal. A place is also the number's
bit pattern without the sign.
-/

namespace FormRules

/-- A double: not a number, or a sign and a place in the row of magnitudes. -/
inductive Binary64 where
  | nan
  | signed (negative : Bool) (place : Nat) (inRow : place ≤ 0x7FF0000000000000)
  deriving DecidableEq

namespace Binary64

/-- The place of infinity, the last one of the row. -/
def infinityPlace : Nat := 0x7FF0000000000000

/-- The number at a place; a place beyond the row means infinity. -/
def ofPlace (negative : Bool) (place : Nat) : Binary64 :=
  if h : place ≤ infinityPlace then signed negative place h
  else signed negative infinityPlace (Nat.le_refl _)

def zero : Binary64 := ofPlace false 0

def infinity (negative : Bool) : Binary64 := ofPlace negative infinityPlace

instance : Inhabited Binary64 := ⟨zero⟩

def isNaN : Binary64 → Bool
  | nan => true
  | signed .. => false

def isFinite : Binary64 → Bool
  | nan => false
  | signed _ place _ => place < infinityPlace

/-- The signed place; NaN has none. -/
def rank? : Binary64 → Option Int
  | nan => none
  | signed negative place _ => some (if negative then -(place : Int) else place)

/-- The order of doubles: that of their signed places. NaN compares with nothing. -/
def compare? (x y : Binary64) : Option Ordering :=
  match x.rank?, y.rank? with
  | some a, some b => some (compare a b)
  | _, _ => none

/-- Numeric equality: the zeros are equal, NaN differs from everything. -/
def numEq (x y : Binary64) : Bool :=
  match x.rank?, y.rank? with
  | some a, some b => a == b
  | _, _ => false

/-- Numeric `≤`, false when NaN takes part. -/
def numLe (x y : Binary64) : Bool :=
  match x.rank?, y.rank? with
  | some a, some b => a ≤ b
  | _, _ => false

/-- The number of places between a power of two and the next: `2 ^ 52`. Magnitudes
at lower places than this are subnormal. -/
def octave : Nat := 0x10000000000000

/-- The integer `m` of a magnitude `m * 2 ^ e` (see `exponentAt`). -/
def significandAt (place : Nat) : Nat :=
  if place < octave then place else octave + place % octave

/-- The exponent `e` of a magnitude `m * 2 ^ e`, at least `-1074`. -/
def exponentAt (place : Nat) : Int :=
  if place < octave then -1074 else (place / octave : Nat) - 1075

/-- A magnitude as a quotient of naturals. -/
def ratioAt (place : Nat) : Nat × Nat :=
  match exponentAt place with
  | .ofNat e => (significandAt place * Nat.pow 2 e, 1)
  | .negSucc e => (significandAt place, Nat.pow 2 (e + 1))

/-- A finite number without a fractional part. -/
def isInteger : Binary64 → Bool
  | nan => false
  | signed _ place _ =>
    place < infinityPlace && (let (num, den) := ratioAt place; num % den == 0)

/-- Whether a finite number is an exact multiple of a finite nonzero one. -/
def isMultipleOf : Binary64 → Binary64 → Bool
  | signed _ p _, signed _ q _ =>
    p < infinityPlace && q < infinityPlace && q != 0 &&
      (let (pn, pd) := ratioAt p
       let (qn, qd) := ratioAt q
       (pn * qd) % (qn * pd) == 0)
  | _, _ => false

/-- The integer part of a finite number, rounded toward zero. -/
def truncate? : Binary64 → Option Int
  | nan => none
  | signed negative place _ =>
    if place < infinityPlace then
      let (num, den) := ratioAt place
      some (if negative then -((num / den : Nat) : Int) else (num / den : Nat))
    else none

theorem compare?_eq_some_eq_iff {x y : Binary64} :
    x.compare? y = some .eq ↔ x.numEq y = true := by
  unfold compare? numEq
  cases x.rank? <;> cases y.rank? <;> simp

theorem compare?_swap (x y : Binary64) :
    y.compare? x = (x.compare? y).map Ordering.swap := by
  unfold compare?
  cases x.rank? with
  | none => cases y.rank? <;> rfl
  | some a =>
    cases y.rank? with
    | none => rfl
    | some b => exact congrArg some Std.OrientedCmp.eq_swap

theorem numEq_comm (x y : Binary64) : x.numEq y = y.numEq x := by
  unfold numEq
  cases x.rank? <;> cases y.rank? <;> simp [BEq.comm]

theorem numEq_self {x : Binary64} (h : x.isNaN = false) : x.numEq x = true := by
  cases x with
  | nan => simp [isNaN] at h
  | signed negative place inRow => simp [numEq, rank?]

end Binary64

end FormRules
