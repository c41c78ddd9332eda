import FormRules.Binary64.Rounding
import Mathlib.Order.Monotone.Basic
import Mathlib.Tactic.Ring

/-!
Integers as doubles. Rounding an integer keeps the order, but may make different integers equal
(`rank?_ofInt`, `monotone_roundedPlace`); integers up to `2 ^ 53` lose nothing, since their double
has the same integer part (`mirror_wholeAt_roundedPlace`). Taking the integer part keeps the order
of all finite doubles (`monotone_wholeAt`).
-/

namespace FormRules.Binary64

theorem octave_eq : octave = 2 ^ 52 := rfl

theorem octave_pos : 0 < octave := by decide

section Mirror

/-- A function of magnitudes as a function of signed numbers. -/
def mirror (f : Nat → Nat) (n : Int) : Int :=
  if n < 0 then -(f n.natAbs : Int) else f n.natAbs

variable {f : Nat → Nat}

theorem mirror_natCast (n : Nat) : mirror f (n : Int) = f n := by
  simp [mirror]

theorem mirror_neg (h : f 0 = 0) (n : Nat) : mirror f (-(n : Int)) = -(f n : Int) := by
  unfold mirror
  rw [Int.natAbs_neg, Int.natAbs_natCast]
  split
  · rfl
  · have hn : n = 0 := by omega
    simp [hn, h]

theorem mirror_mono (hf : Monotone f) {m n : Int} (h : m ≤ n) : mirror f m ≤ mirror f n := by
  unfold mirror
  split <;> split
  · have : f n.natAbs ≤ f m.natAbs := hf (by omega)
    omega
  · omega
  · omega
  · have : f m.natAbs ≤ f n.natAbs := hf (by omega)
    omega

end Mirror

section NearestEven

variable {a b d : Nat}

/-- The quotient, or the next integer: the latter only from the middle on. -/
theorem divNearestEven_cases (a d : Nat) :
    (divNearestEven a d = a / d ∧ 2 * (a % d) ≤ d) ∨
      (divNearestEven a d = a / d + 1 ∧ d ≤ 2 * (a % d)) := by
  unfold divNearestEven
  dsimp only
  split
  · exact .inl ⟨rfl, by omega⟩
  · split
    · exact .inr ⟨rfl, by omega⟩
    · rcases Nat.mod_two_eq_zero_or_one (a / d) with h | h
      · exact .inl ⟨by omega, by omega⟩
      · exact .inr ⟨by omega, by omega⟩

theorem divNearestEven_mono (h : a ≤ b) : divNearestEven a d ≤ divNearestEven b d := by
  have ha := divNearestEven_cases a d
  have hb := divNearestEven_cases b d
  have hquotient : a / d ≤ b / d := Nat.div_le_div_right h
  by_contra hgt
  -- only two numerators of one quotient that are both in the middle could be turned around
  have hsame : a = b := by
    have hdiv : a / d = b / d := by omega
    have hadd := Nat.div_add_mod a d
    have hbdd := Nat.div_add_mod b d
    rw [hdiv] at hadd
    omega
  exact hgt (Nat.le_of_eq (by rw [hsame]))

theorem divNearestEven_mul (hd : 0 < d) (q : Nat) : divNearestEven (q * d) d = q := by
  simp [divNearestEven, Nat.mul_div_cancel q hd, hd]

theorem divNearestEven_scale {c : Nat} (hc : 0 < c) :
    divNearestEven (a * c) (d * c) = divNearestEven a d := by
  unfold divNearestEven
  rw [Nat.mul_div_mul_right a d hc, Nat.mul_mod_mul_right, ← Nat.mul_assoc]
  simp only [Nat.mul_lt_mul_right hc]

end NearestEven

section Row

/-- How many of the smallest magnitude, `2 ^ -1074`, a magnitude is. -/
def stepsAt (place : Nat) : Nat :=
  significandAt place * 2 ^ (exponentAt place + 1074).toNat

theorem stepsAt_of_lt {place : Nat} (h : place < octave) : stepsAt place = place := by
  simp [stepsAt, significandAt, exponentAt, h]

theorem stepsAt_octave (q : Nat) {r : Nat} (h : r < octave) :
    stepsAt (octave * (q + 1) + r) = (octave + r) * 2 ^ q := by
  have hnot : ¬octave * (q + 1) + r < octave := by
    have : octave * 1 ≤ octave * (q + 1) := Nat.mul_le_mul_left octave (by omega)
    omega
  have hmod : (octave * (q + 1) + r) % octave = r := by
    rw [Nat.mul_add_mod, Nat.mod_eq_of_lt h]
  have hdiv : (octave * (q + 1) + r) / octave = q + 1 := by
    rw [Nat.mul_add_div octave_pos, Nat.div_eq_of_lt h, Nat.add_zero]
  have hexponent : (((q + 1 : Nat) : Int) - 1075 + 1074).toNat = q := by omega
  rw [stepsAt, significandAt, exponentAt, if_neg hnot, if_neg hnot, hmod, hdiv, hexponent]

/-- A place reached from a significand by going up some octaves. The end of an octave is the
beginning of the next. -/
theorem stepsAt_octaves (e : Nat) {s : Nat} (hlow : octave ≤ s) (hhigh : s ≤ 2 * octave) :
    stepsAt (e * octave + s) = s * 2 ^ e := by
  obtain ⟨r, rfl⟩ := Nat.exists_eq_add_of_le hlow
  rcases Nat.lt_or_ge r octave with hr | hr
  · have hplace : e * octave + (octave + r) = octave * (e + 1) + r := by ring
    rw [hplace, stepsAt_octave e hr]
  · have hend : r = octave := by omega
    have hplace : e * octave + (octave + r) = octave * (e + 1 + 1) + 0 := by
      rw [hend]
      ring
    rw [hplace, stepsAt_octave (e + 1) octave_pos, hend]
    ring

/-- A place from the first octave on, by its octave and its significand. -/
theorem exists_octaves {place : Nat} (h : octave ≤ place) :
    ∃ e s, octave ≤ s ∧ s < 2 * octave ∧ place = e * octave + s := by
  obtain ⟨e, he⟩ := Nat.exists_eq_add_of_le' (Nat.div_pos h octave_pos)
  refine ⟨e, octave + place % octave, Nat.le_add_right _ _, ?_, ?_⟩
  · have := Nat.mod_lt place octave_pos
    omega
  · have hdiv := Nat.div_add_mod place octave
    rw [he] at hdiv
    calc place = octave * (e + 1) + place % octave := hdiv.symm
      _ = e * octave + (octave + place % octave) := by ring

theorem strictMono_stepsAt : StrictMono stepsAt := by
  apply strictMono_nat_of_lt_succ
  intro place
  rcases Nat.lt_or_ge (place + 1) octave with hlt | hge
  · rw [stepsAt_of_lt hlt, stepsAt_of_lt (Nat.lt_of_succ_lt hlt)]
    exact Nat.lt_succ_self place
  rcases Nat.lt_or_eq_of_le hge with hlt | heq
  · -- both places lie in one octave, its end included
    obtain ⟨e, s, hlow, hhigh, rfl⟩ := exists_octaves (Nat.le_of_lt_succ hlt)
    rw [stepsAt_octaves e hlow (Nat.le_of_lt hhigh), Nat.add_assoc,
      stepsAt_octaves e (Nat.le_succ_of_le hlow) hhigh]
    exact Nat.mul_lt_mul_of_pos_right (Nat.lt_succ_self s) (Nat.two_pow_pos e)
  · have hfirst := stepsAt_octave 0 octave_pos
    rw [Nat.zero_add, Nat.mul_one, Nat.add_zero, Nat.pow_zero, Nat.mul_one] at hfirst
    rw [← heq, hfirst, stepsAt_of_lt (by omega)]
    omega

theorem le_exponentAt (place : Nat) : -1074 ≤ exponentAt place := by
  unfold exponentAt
  split
  · exact Int.le_refl _
  · rename_i hge
    have := Nat.div_pos (Nat.le_of_not_lt hge) octave_pos
    omega

/-- The integer part of a magnitude. -/
def wholeAt (place : Nat) : Nat := (ratioAt place).1 / (ratioAt place).2

/-- The smallest magnitude is one, halved so many times. -/
def halvings : Nat := 52 + 1022

theorem wholeAt_eq (place : Nat) : wholeAt place = stepsAt place / 2 ^ halvings := by
  have hle := le_exponentAt place
  unfold wholeAt ratioAt stepsAt
  cases h : exponentAt place with
  | ofNat e =>
    have hshift : (Int.ofNat e + 1074).toNat = e + halvings := rfl
    dsimp only
    rw [hshift, Nat.pow_add, ← Nat.mul_assoc, Nat.mul_div_cancel _ (Nat.two_pow_pos halvings),
      Nat.pow_eq, Nat.div_one]
  | negSucc e =>
    have hbound : e + 1 ≤ halvings := by
      rw [halvings]
      omega
    have hshift : (Int.negSucc e + 1074).toNat = halvings - (e + 1) := by
      rw [halvings]
      omega
    have hsplit : 2 ^ halvings = Nat.pow 2 (e + 1) * 2 ^ (halvings - (e + 1)) := by
      rw [Nat.pow_eq, ← Nat.pow_add, Nat.add_sub_cancel' hbound]
    dsimp only
    rw [hshift, hsplit, Nat.mul_div_mul_right _ _ (Nat.two_pow_pos _)]

theorem wholeAt_zero : wholeAt 0 = 0 := by
  rw [wholeAt_eq, stepsAt_of_lt octave_pos, Nat.zero_div]

theorem monotone_wholeAt : Monotone wholeAt := by
  intro p q hle
  rw [wholeAt_eq, wholeAt_eq]
  exact Nat.div_le_div_right (strictMono_stepsAt.monotone hle)

end Row

section Integers

/-- The significand of an integer's double, of 53 bits unless it is rounded up to more. -/
def integerSignificand (n : Nat) : Nat := divNearestEven (n * octave) (2 ^ n.log2)

theorem ratioExponent_one {n : Nat} (hn : n ≠ 0) : ratioExponent n 1 = (n.log2 : Int) - 52 := by
  have hguess : (n.log2 : Int) - (Nat.log2 1 : Nat) = Int.ofNat n.log2 := by
    rw [show Nat.log2 1 = 0 by decide]
    exact Int.sub_zero _
  have hnot : ¬n < 1 * Nat.pow 2 n.log2 := by
    rw [Nat.one_mul]
    exact Nat.not_lt.mpr (Nat.log2_self_le hn)
  unfold ratioExponent
  rw [hguess]
  simp only [decide_eq_false hnot, Bool.false_eq_true, if_false, Int.ofNat_eq_natCast]
  exact max_eq_right (by omega)

/-- The double of an integer lies in the octave of the integer's binary length. -/
theorem nearestPlace_one {n : Nat} (hn : n ≠ 0) :
    nearestPlace n 1 = (n.log2 + 1022) * octave + integerSignificand n := by
  unfold nearestPlace integerSignificand
  rw [if_neg hn, ratioExponent_one hn]
  rcases Nat.lt_or_ge n.log2 52 with hlow | hhigh
  · obtain ⟨k, hk⟩ := Nat.exists_eq_add_of_lt hlow
    have hexponent : (n.log2 : Int) - 52 = Int.negSucc k := by omega
    have hoctave : n * octave = n * 2 ^ (k + 1) * 2 ^ n.log2 := by
      rw [octave_eq, hk, Nat.mul_assoc, ← Nat.pow_add]
      congr 2
      omega
    have hsignificand : divNearestEven (n * octave) (2 ^ n.log2) =
        divNearestEven (n * 2 ^ (k + 1)) 1 := by
      rw [hoctave, ← divNearestEven_scale (d := 1) (Nat.two_pow_pos n.log2), Nat.one_mul]
    have hoctaves : (Int.negSucc k + 1074).toNat = n.log2 + 1022 := by omega
    rw [hexponent, hsignificand, ← hoctaves]
    rfl
  · obtain ⟨k, hk⟩ := Nat.exists_eq_add_of_le hhigh
    have hexponent : (n.log2 : Int) - 52 = Int.ofNat k := by
      rw [Int.ofNat_eq_natCast]
      omega
    have hsignificand : divNearestEven (n * octave) (2 ^ n.log2) = divNearestEven n (2 ^ k) := by
      rw [octave_eq, hk, Nat.pow_add, Nat.mul_comm (2 ^ 52) (2 ^ k),
        divNearestEven_scale (Nat.two_pow_pos 52)]
    have hoctaves : (Int.ofNat k + 1074).toNat = n.log2 + 1022 := by
      rw [Int.ofNat_eq_natCast]
      omega
    rw [hexponent, hsignificand, ← hoctaves, ← Nat.one_mul (2 ^ k)]
    rfl

theorem octave_le_integerSignificand {n : Nat} (hn : n ≠ 0) : octave ≤ integerSignificand n := by
  have hle : octave * 2 ^ n.log2 ≤ n * octave := by
    rw [Nat.mul_comm]
    exact Nat.mul_le_mul_right octave (Nat.log2_self_le hn)
  calc octave = divNearestEven (octave * 2 ^ n.log2) (2 ^ n.log2) :=
        (divNearestEven_mul (Nat.two_pow_pos _) octave).symm
    _ ≤ integerSignificand n := divNearestEven_mono hle

theorem integerSignificand_le (n : Nat) : integerSignificand n ≤ 2 * octave := by
  have hle : n * octave ≤ 2 * octave * 2 ^ n.log2 := by
    have hlt : n < 2 ^ n.log2 * 2 := Nat.lt_log2_self
    calc n * octave ≤ 2 ^ n.log2 * 2 * octave := Nat.mul_le_mul_right octave hlt.le
      _ = 2 * octave * 2 ^ n.log2 := by ring
  calc integerSignificand n ≤ divNearestEven (2 * octave * 2 ^ n.log2) (2 ^ n.log2) :=
        divNearestEven_mono hle
    _ = 2 * octave := divNearestEven_mul (Nat.two_pow_pos _) (2 * octave)

theorem log2_mono {m n : Nat} (hm : m ≠ 0) (h : m ≤ n) : m.log2 ≤ n.log2 :=
  (Nat.le_log2 (by omega)).mpr ((Nat.log2_self_le hm).trans h)

theorem nearestPlace_one_mono {m n : Nat} (h : m ≤ n) : nearestPlace m 1 ≤ nearestPlace n 1 := by
  by_cases hm : m = 0
  · simp [hm, nearestPlace]
  have hn : n ≠ 0 := by omega
  rw [nearestPlace_one hm, nearestPlace_one hn]
  rcases Nat.lt_or_eq_of_le (log2_mono hm h) with hlt | heq
  · calc (m.log2 + 1022) * octave + integerSignificand m
        ≤ (m.log2 + 1022) * octave + 2 * octave :=
          Nat.add_le_add_left (integerSignificand_le m) _
      _ = (m.log2 + 1 + 1022) * octave + octave := by ring
      _ ≤ (n.log2 + 1022) * octave + integerSignificand n :=
          Nat.add_le_add (Nat.mul_le_mul_right octave (by omega)) (octave_le_integerSignificand hn)
  · rw [heq]
    apply Nat.add_le_add_left
    unfold integerSignificand
    rw [heq]
    exact divNearestEven_mono (Nat.mul_le_mul_right octave h)

/-- The place of an integer's double. -/
def roundedPlace (n : Nat) : Nat := min (nearestPlace n 1) infinityPlace

theorem monotone_roundedPlace : Monotone roundedPlace := by
  intro m n h
  exact min_le_min_right infinityPlace (nearestPlace_one_mono h)

/-- Up to `2 ^ 53` the significand of an integer needs no rounding. -/
theorem integerSignificand_mul {n : Nat} (hn : n ≠ 0) (h : n ≤ 2 ^ 53) :
    integerSignificand n * 2 ^ n.log2 = n * octave := by
  have hdvd : 2 ^ n.log2 ∣ n * octave := by
    rcases Nat.lt_or_eq_of_le h with hlt | heq
    · have hlow : n.log2 ≤ 52 := by
        have := (Nat.log2_lt hn).mpr hlt
        omega
      rw [octave_eq]
      exact Dvd.dvd.mul_left (Nat.pow_dvd_pow 2 hlow) n
    · rw [heq, Nat.log2_two_pow]
      exact Dvd.intro octave rfl
  obtain ⟨q, hq⟩ := hdvd
  rw [integerSignificand, hq, Nat.mul_comm (2 ^ n.log2) q, divNearestEven_mul (Nat.two_pow_pos _)]

theorem stepsAt_integerSignificand {n : Nat} (hn : n ≠ 0) (h : n ≤ 2 ^ 53) (e : Nat) :
    stepsAt ((n.log2 + e) * octave + integerSignificand n) = n * 2 ^ (52 + e) := by
  rw [stepsAt_octaves _ (octave_le_integerSignificand hn) (integerSignificand_le n), Nat.pow_add,
    ← Nat.mul_assoc, integerSignificand_mul hn h, octave_eq, Nat.mul_assoc, ← Nat.pow_add]

theorem wholeAt_roundedPlace {n : Nat} (h : n ≤ 2 ^ 53) : wholeAt (roundedPlace n) = n := by
  by_cases hn : n = 0
  · rw [hn]
    exact wholeAt_zero
  have hlog : n.log2 ≤ 53 := by
    have := (Nat.log2_lt hn).mpr (Nat.lt_of_le_of_lt h (by decide : 2 ^ 53 < 2 ^ 54))
    omega
  have hle : (n.log2 + 1022) * octave + integerSignificand n ≤ infinityPlace := by
    calc (n.log2 + 1022) * octave + integerSignificand n
        ≤ (53 + 1022) * octave + 2 * octave :=
          Nat.add_le_add (Nat.mul_le_mul_right octave (by omega)) (integerSignificand_le n)
      _ ≤ infinityPlace := by decide
  have hplace : roundedPlace n = (n.log2 + 1022) * octave + integerSignificand n := by
    rw [roundedPlace, nearestPlace_one hn]
    exact min_eq_left hle
  have hsteps : stepsAt (roundedPlace n) = n * 2 ^ halvings := by
    rw [hplace, halvings]
    exact stepsAt_integerSignificand hn h 1022
  rw [wholeAt_eq, hsteps, Nat.mul_div_cancel n (Nat.two_pow_pos halvings)]

end Integers

section Doubles

variable {x y : Binary64}

theorem rank?_signed (negative : Bool) (place : Nat) (inRow : place ≤ 0x7FF0000000000000) :
    (signed negative place inRow).rank? = some (if negative then -(place : Int) else place) := rfl

theorem rank?_ofPlace (negative : Bool) (place : Nat) :
    (ofPlace negative place).rank? =
      some (if negative then -((min place infinityPlace : Nat) : Int)
        else (min place infinityPlace : Nat)) := by
  unfold ofPlace
  split
  · rename_i h
    rw [Nat.min_eq_left h]
    rfl
  · rename_i h
    rw [Nat.min_eq_right (Nat.le_of_not_le h)]
    rfl

/-- Where an integer stands among the doubles. -/
theorem rank?_ofInt (n : Int) : (ofInt n).rank? = some (mirror roundedPlace n) := by
  rw [ofInt, ofRatio, rank?_ofPlace, mirror]
  by_cases h : n < 0
  · simp [h, roundedPlace]
  · simp [h, roundedPlace]

/-- The integer part of a finite double by its rank. -/
theorem truncate?_eq {rank : Int} (hfinite : x.isFinite = true) (hrank : x.rank? = some rank) :
    x.truncate? = some (mirror wholeAt rank) := by
  cases x with
  | nan => cases hrank
  | signed negative place inRow =>
    have hplace : place < infinityPlace := by simpa [isFinite] using hfinite
    rw [rank?_signed] at hrank
    cases hrank
    unfold truncate?
    dsimp only
    rw [if_pos hplace]
    cases negative with
    | false =>
      rw [if_neg (by decide), if_neg (by decide), mirror_natCast]
      rfl
    | true =>
      rw [if_pos rfl, if_pos rfl, mirror_neg wholeAt_zero]
      rfl

/-- An integer that loses nothing is the integer part of its double. -/
theorem mirror_wholeAt_roundedPlace {n : Int} (h : n.natAbs ≤ 2 ^ 53) :
    mirror wholeAt (mirror roundedPlace n) = n := by
  rw [mirror.eq_1 roundedPlace]
  split
  · rw [mirror_neg wholeAt_zero, wholeAt_roundedPlace h]
    omega
  · rw [mirror_natCast, wholeAt_roundedPlace h]
    omega

/-- The 64-bit integer nearest to an integer. -/
def clamp (n : Int) : Int := max Int64.minValue.toInt (min n Int64.maxValue.toInt)

theorem clamp_mono {m n : Int} (h : m ≤ n) : clamp m ≤ clamp n := by
  unfold clamp
  omega

theorem clamp_eq {n : Int} (h : n.natAbs ≤ 2 ^ 53) : clamp n = n := by
  rw [clamp, Int64.toInt_minValue, Int64.toInt_maxValue]
  omega

/-- What a finite double is as a 64-bit integer, by its rank. -/
theorem toInt_toInt64 {rank : Int} (hfinite : x.isFinite = true) (hrank : x.rank? = some rank) :
    x.toInt64.toInt = clamp (mirror wholeAt rank) := by
  have htruncate := truncate?_eq hfinite hrank
  cases x with
  | nan => cases hrank
  | signed negative place inRow =>
    unfold toInt64
    dsimp only
    rw [htruncate]
    apply Int64.toInt_ofInt_of_le
    · rw [Int64.toInt_minValue]
      omega
    · rw [Int64.toInt_minValue, Int64.toInt_maxValue]
      omega

/-- Doubles are equal when they stand in the same place. -/
theorem numEq_iff {a b : Int} (hx : x.rank? = some a) (hy : y.rank? = some b) :
    x.numEq y = true ↔ a = b := by
  unfold numEq
  rw [hx, hy]
  exact beq_iff_eq

theorem numLe_eq {a b : Int} (hx : x.rank? = some a) (hy : y.rank? = some b) :
    x.numLe y = decide (a ≤ b) := by
  unfold numLe
  rw [hx, hy]

theorem isNaN_eq_false {a : Int} (hx : x.rank? = some a) : x.isNaN = false := by
  cases x with
  | nan => cases hx
  | signed negative place inRow => rfl

theorem compare?_eq {a b : Int} (hx : x.rank? = some a) (hy : y.rank? = some b) :
    x.compare? y = some (compare a b) := by
  unfold compare?
  rw [hx, hy]

theorem exists_rank?_of_compare? {order : Ordering} (h : x.compare? y = some order) :
    ∃ a b, x.rank? = some a ∧ y.rank? = some b := by
  unfold compare? at h
  split at h
  · rename_i a b ha hb
    exact ⟨a, b, ha, hb⟩
  · cases h

end Doubles

end FormRules.Binary64
