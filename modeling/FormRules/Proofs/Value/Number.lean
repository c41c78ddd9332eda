import FormRules.Proofs.Binary64.Integer
import FormRules.Value

/-!
The order of numbers. Every number has its place among the doubles, an integer that of its
nearest double. The order of two numbers is that of their places, but for integers that become
the same double: these are still told apart by their exact values (`compareNumbers?_eq_lt_iff`,
`compareNumbers?_eq_eq_iff`). No two integers up to `2 ^ 53` become the same double
(`not_merges_of_exact`).
-/

namespace FormRules.Value

open Binary64

/-- Where a number stands among the doubles. NaN stands nowhere. -/
def rank? (value : Value) : Option Int := value.toBinary64?.bind Binary64.rank?

/-- Two integers, the first below the second, that become the same double. -/
inductive Merges : Value → Value → Prop where
  | integers {m n : Int64} : m.toInt < n.toInt →
      (ofInt m.toInt).numEq (ofInt n.toInt) = true → Merges (int m) (int n)

/-- Loses nothing as a double: an integer up to `2 ^ 53` in magnitude, or anything else. -/
def Exact : Value → Prop
  | int n => n.toInt.natAbs ≤ 2 ^ 53
  | _ => True

/-- An integer, or a double other than NaN. -/
def IsNumber : Value → Prop
  | int _ => True
  | float x => x.isNaN = false
  | _ => False

variable {left right : Value} {a b : Int}

theorem rank?_int (n : Int64) : (int n).rank? = some (mirror roundedPlace n.toInt) :=
  rank?_ofInt n.toInt

theorem exists_rank?_of_isNumber {value : Value} (h : value.IsNumber) :
    ∃ rank, value.rank? = some rank := by
  cases value with
  | int n => exact ⟨_, rank?_int n⟩
  | float x =>
    cases x with
    | nan => cases h
    | signed negative place inRow => exact ⟨_, rank?_signed negative place inRow⟩
  | _ => cases h

theorem not_merges_of_exact (hleft : left.Exact) (hright : right.Exact) :
    ¬left.Merges right := by
  rintro @⟨m, n, hlt, hsame⟩
  have hrank := (numEq_iff (rank?_ofInt _) (rank?_ofInt _)).mp hsame
  have hm := mirror_wholeAt_roundedPlace hleft
  have hn := mirror_wholeAt_roundedPlace hright
  rw [← hm, ← hn, hrank] at hlt
  exact absurd hlt (Int.lt_irrefl _)

theorem compareNumbers?_swap (left right : Value) :
    right.compareNumbers? left = (left.compareNumbers? right).map Ordering.swap := by
  cases left <;> cases right <;> try rfl
  case int.int m n => simp [compareNumbers?, Int.compare_swap]
  all_goals exact Binary64.compare?_swap _ _

/-- Numbers compare as their places do, but for two integers. -/
theorem compareNumbers?_cases (hleft : left.rank? = some a) (hright : right.rank? = some b) :
    (∃ m n, left = int m ∧ right = int n) ∨
      left.compareNumbers? right = some (compare a b) ∧ ¬left.Merges right := by
  cases left with
  | int m =>
    cases right with
    | int n => exact .inl ⟨m, n, rfl, rfl⟩
    | float y => exact .inr ⟨compare?_eq hleft hright, nofun⟩
    | _ => cases hright
  | float x =>
    cases right with
    | int n => exact .inr ⟨compare?_eq hleft hright, nofun⟩
    | float y => exact .inr ⟨compare?_eq hleft hright, nofun⟩
    | _ => cases hright
  | _ => cases hleft

/-- A number is below another one when its place is, or when rounding makes it equal to it. -/
theorem compareNumbers?_eq_lt_iff (hleft : left.rank? = some a) (hright : right.rank? = some b) :
    left.compareNumbers? right = some .lt ↔ a < b ∨ left.Merges right := by
  rcases compareNumbers?_cases hleft hright with ⟨m, n, rfl, rfl⟩ | ⟨hcompare, hnot⟩
  · rw [rank?_int] at hleft hright
    cases hleft
    cases hright
    have hlt : (int m).compareNumbers? (int n) = some .lt ↔ m.toInt < n.toInt := by
      simp [compareNumbers?, compare_lt_iff_lt]
    rw [hlt]
    constructor
    · intro hmn
      have hle := mirror_mono monotone_roundedPlace (Int.le_of_lt hmn)
      rcases Int.lt_or_eq_of_le hle with hplaces | hplaces
      · exact .inl hplaces
      · exact .inr (.integers hmn ((numEq_iff (rank?_ofInt _) (rank?_ofInt _)).mpr hplaces))
    · rintro (hplaces | ⟨hmn, -⟩)
      · by_contra hnot
        have hle := mirror_mono monotone_roundedPlace (Int.not_lt.mp hnot)
        omega
      · exact hmn
  · rw [hcompare, or_iff_left hnot, Option.some.injEq, compare_lt_iff_lt]

theorem compareNumbers?_eq_gt_iff (hleft : left.rank? = some a) (hright : right.rank? = some b) :
    left.compareNumbers? right = some .gt ↔ b < a ∨ right.Merges left := by
  rw [← compareNumbers?_eq_lt_iff hright hleft, compareNumbers?_swap left right]
  cases left.compareNumbers? right with
  | none => simp
  | some order => cases order <;> simp

theorem isSome_compareNumbers? (hleft : left.rank? = some a) (hright : right.rank? = some b) :
    (left.compareNumbers? right).isSome := by
  rcases compareNumbers?_cases hleft hright with ⟨m, n, rfl, rfl⟩ | ⟨hcompare, -⟩
  · rfl
  · rw [hcompare]
    rfl

theorem exists_rank?_of_compareNumbers? {order : Ordering}
    (h : left.compareNumbers? right = some order) :
    ∃ a b, left.rank? = some a ∧ right.rank? = some b := by
  unfold compareNumbers? at h
  split at h
  · exact ⟨_, _, rank?_int _, rank?_int _⟩
  · split at h
    · rename_i hx hy
      obtain ⟨a, b, ha, hb⟩ := exists_rank?_of_compare? h
      exact ⟨a, b, Option.bind_eq_some_iff.mpr ⟨_, hx, ha⟩, Option.bind_eq_some_iff.mpr ⟨_, hy, hb⟩⟩
    · cases h

/-- Neither of two numbers is below the other when they have one place and are not two integers
that rounding makes equal. -/
theorem compareNumbers?_eq_eq_iff (hleft : left.rank? = some a) (hright : right.rank? = some b) :
    left.compareNumbers? right = some .eq ↔
      a = b ∧ ¬left.Merges right ∧ ¬right.Merges left := by
  have hlt := compareNumbers?_eq_lt_iff hleft hright
  have hgt := compareNumbers?_eq_gt_iff hleft hright
  obtain ⟨order, horder⟩ := Option.isSome_iff_exists.mp (isSome_compareNumbers? hleft hright)
  rw [horder, Option.some.injEq] at hlt hgt ⊢
  cases order with
  | lt =>
    have hbelow := hlt.mp rfl
    simp only [reduceCtorEq, false_iff]
    rintro ⟨rfl, hnot, -⟩
    exact hbelow.elim (Int.lt_irrefl a) hnot
  | gt =>
    have habove := hgt.mp rfl
    simp only [reduceCtorEq, false_iff]
    rintro ⟨rfl, -, hnot⟩
    exact habove.elim (Int.lt_irrefl a) hnot
  | eq =>
    simp only [reduceCtorEq, false_iff, not_or] at hlt hgt
    simp only [true_iff]
    exact ⟨by omega, hlt.2, hgt.2⟩

/-- Numbers are equal as values exactly when neither comes before the other. -/
theorem equals_iff_compareNumbers? (hleft : left.rank? = some a) (hright : right.rank? = some b) :
    left.equals right = true ↔ left.compareNumbers? right = some .eq := by
  cases left with
  | int m =>
    cases right with
    | int n => simp [equals, compareNumbers?, Int64.toInt_inj]
    | float y => exact compare?_eq_some_eq_iff.symm
    | _ => cases hright
  | float x =>
    cases right with
    | int n =>
      rw [equals, numEq_comm]
      exact compare?_eq_some_eq_iff.symm
    | float y => exact compare?_eq_some_eq_iff.symm
    | _ => cases hright
  | _ => cases hleft

end FormRules.Value
