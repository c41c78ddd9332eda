import FormRules.Operator.Meaning
import FormRules.Proofs.Value.Number

/-!
The ordering operators agree with each other on all operands, missing ones included
(`ordering_coherent`). Turning the operands around turns numbers, dates and the choice between
them around. Values that are ordered as dates are ordered so by the ordering operators too: where
both are numbers as well, an earlier number of milliseconds is a smaller number.
-/

namespace FormRules

namespace Calendar.Moment

variable {p q : Moment} {s t : Int}

theorem compare_swap (p q : Moment) : q.compare p = (p.compare q).swap := by
  unfold Moment.compare
  rw [Ordering.swap_then, Ordering.swap_then, Int.compare_swap, Nat.compare_swap,
    Nat.compare_swap]

theorem compare_eq_lt_iff :
    p.compare q = .lt ↔
      p.day < q.day ∨ p.day = q.day ∧
        (p.second < q.second ∨ p.second = q.second ∧ p.nano < q.nano) := by
  unfold Moment.compare
  simp only [Ordering.then_eq_lt, compare_lt_iff_lt, compare_eq_iff_eq]

theorem ofUnixMillis?_cases (h : ofUnixMillis? s = some p) :
    firstDay ≤ s / 1000 / 86400 ∧ s / 1000 / 86400 ≤ lastDay ∧
      p = ⟨s / 1000 / 86400, (s / 1000 % 86400).toNat, (s % 1000).toNat * 1000000⟩ := by
  unfold ofUnixMillis? ofUnix? at h
  dsimp only at h
  split at h
  · rename_i hrange
    exact ⟨hrange.1, hrange.2.1, (Option.some.inj h).symm⟩
  · cases h

/-- Of two numbers of milliseconds, the one of the earlier moment is smaller. -/
theorem lt_of_compare_ofUnixMillis? (hs : ofUnixMillis? s = some p) (ht : ofUnixMillis? t = some q)
    (h : p.compare q = .lt) : s < t := by
  obtain ⟨-, -, rfl⟩ := ofUnixMillis?_cases hs
  obtain ⟨-, -, rfl⟩ := ofUnixMillis?_cases ht
  rcases compare_eq_lt_iff.mp h with hday | ⟨hday, hsecond | ⟨hsecond, hnano⟩⟩
  · dsimp only at hday
    omega
  · dsimp only at hday hsecond
    omega
  · dsimp only at hday hsecond hnano
    omega

/-- The milliseconds of a moment are an integer that becomes a double without loss. -/
theorem natAbs_le_of_ofUnixMillis? (hs : ofUnixMillis? s = some p) : s.natAbs ≤ 2 ^ 53 := by
  obtain ⟨hfirst, hlast, -⟩ := ofUnixMillis?_cases hs
  have hfirstDay : firstDay = -96465292 := by decide
  have hlastDay : lastDay = 95026236 := by decide
  omega

end Calendar.Moment

namespace Value

open Binary64 Calendar

variable {left right : Value} {a b : Int} {p q : Moment}

theorem compareDates?_swap (left right : Value) :
    right.compareDates? left = (left.compareDates? right).map Ordering.swap := by
  unfold compareDates?
  cases left.toMoment? with
  | none => cases right.toMoment? <;> rfl
  | some p =>
    cases right.toMoment? with
    | none => rfl
    | some q => exact congrArg some (Moment.compare_swap p q)

theorem order?_swap (left right : Value) :
    right.order? left = (left.order? right).map Ordering.swap := by
  unfold order?
  rw [compareNumbers?_swap left right, compareDates?_swap left right]
  cases left.compareNumbers? right <;> rfl

/-- The milliseconds that a number means as a date, by its place among the doubles. -/
def millisAt (rank : Int) : Int := clamp (mirror wholeAt rank)

theorem millisAt_mono (h : a ≤ b) : millisAt a ≤ millisAt b :=
  clamp_mono (mirror_mono monotone_wholeAt h)

/-- The date that a number means is that of the milliseconds at its place. -/
theorem ofUnixMillis?_millisAt (hrank : left.rank? = some a) (hmoment : left.toMoment? = some p) :
    Moment.ofUnixMillis? (millisAt a) = some p := by
  cases left with
  | int n =>
    have hexact := Moment.natAbs_le_of_ofUnixMillis? hmoment
    rw [rank?_int] at hrank
    cases hrank
    rw [millisAt, mirror_wholeAt_roundedPlace hexact, clamp_eq hexact]
    exact hmoment
  | float x =>
    by_cases hfinite : x.isFinite = true
    · rw [millisAt, ← toInt_toInt64 hfinite hrank]
      simpa only [toMoment?, hfinite, if_true] using hmoment
    · simp [toMoment?, hfinite] at hmoment
  | _ => cases hrank

/-- Numbers that are ordered as dates have the same order as numbers. -/
theorem compareNumbers?_of_compareDates? (hleft : left.rank? = some a)
    (hright : right.rank? = some b) (h : left.compareDates? right = some .lt) :
    left.compareNumbers? right = some .lt := by
  unfold compareDates? at h
  split at h
  · rename_i p q hp hq
    have hmillis : millisAt a < millisAt b :=
      Moment.lt_of_compare_ofUnixMillis? (ofUnixMillis?_millisAt hleft hp)
        (ofUnixMillis?_millisAt hright hq) (Option.some.inj h)
    have hplaces : a < b := Int.not_le.mp fun hle => Int.not_le.mpr hmillis (millisAt_mono hle)
    exact (compareNumbers?_eq_lt_iff hleft hright).mpr (.inl hplaces)
  · cases h

theorem order?_of_compareDates? (h : left.compareDates? right = some .lt) :
    left.order? right = some .lt := by
  unfold order?
  cases horder : left.compareNumbers? right with
  | none => exact h
  | some order =>
    obtain ⟨a, b, ha, hb⟩ := exists_rank?_of_compareNumbers? horder
    rw [← horder, compareNumbers?_of_compareDates? ha hb h]
    rfl

end Value

namespace Operator

theorem order?_swap (left right : Option Value) :
    order? right left = (order? left right).map Ordering.swap := by
  cases left with
  | none => cases right <;> rfl
  | some l =>
    cases right with
    | none => rfl
    | some r => exact Value.order?_swap l r

theorem dateOrder?_swap (left right : Option Value) :
    dateOrder? right left = (dateOrder? left right).map Ordering.swap := by
  cases left with
  | none => cases right <;> rfl
  | some l =>
    cases right with
    | none => rfl
    | some r => exact Value.compareDates?_swap l r

theorem order?_of_dateOrder? {left right : Option Value} (h : dateOrder? left right = some .lt) :
    order? left right = some .lt := by
  cases left with
  | none => cases h
  | some l =>
    cases right with
    | none => cases h
    | some r => exact Value.order?_of_compareDates? h

variable (left right : Option Value)

theorem greaterThan_eq_lessThan : greaterThan.holds left right = lessThan.holds right left := by
  change (order? left right == some .gt) = (order? right left == some .lt)
  rw [order?_swap left right]
  cases order? left right with
  | none => rfl
  | some order => cases order <;> rfl

theorem greaterThanOrEqual_eq_lessThanOrEqual :
    greaterThanOrEqual.holds left right = lessThanOrEqual.holds right left := by
  change (order? left right).any (· != .lt) = (order? right left).any (· != .gt)
  rw [order?_swap left right]
  cases order? left right with
  | none => rfl
  | some order => cases order <;> rfl

theorem beforeDate_eq_afterDate : beforeDate.holds left right = afterDate.holds right left := by
  change (dateOrder? left right == some .lt) = (dateOrder? right left == some .gt)
  rw [dateOrder?_swap left right]
  cases dateOrder? left right with
  | none => rfl
  | some order => cases order <;> rfl

theorem lessThan_iff : lessThan.holds left right = true ↔ order? left right = some .lt :=
  beq_iff_eq

theorem greaterThan_iff : greaterThan.holds left right = true ↔ order? left right = some .gt :=
  beq_iff_eq

theorem lessThanOrEqual_iff : lessThanOrEqual.holds left right = true ↔
    order? left right = some .lt ∨ order? left right = some .eq := by
  change (order? left right).any (· != .gt) = true ↔ _
  cases order? left right with
  | none => simp
  | some order => cases order <;> decide

theorem greaterThanOrEqual_iff : greaterThanOrEqual.holds left right = true ↔
    order? left right = some .gt ∨ order? left right = some .eq := by
  change (order? left right).any (· != .lt) = true ↔ _
  cases order? left right with
  | none => simp
  | some order => cases order <;> decide

/-- Both non-strict operators hold when the operands are ordered and neither comes first. -/
theorem nonStrict_iff :
    (greaterThanOrEqual.holds left right = true ∧ lessThanOrEqual.holds left right = true) ↔
      (greaterThanOrEqual.holds left right = true ∨ lessThanOrEqual.holds left right = true) ∧
        greaterThan.holds left right = false ∧ lessThan.holds left right = false := by
  rw [← Bool.not_eq_true, ← Bool.not_eq_true, greaterThanOrEqual_iff, lessThanOrEqual_iff,
    greaterThan_iff, lessThan_iff]
  cases order? left right with
  | none => simp
  | some order => cases order <;> simp

theorem lessThan_of_beforeDate (h : beforeDate.holds left right = true) :
    lessThan.holds left right = true := by
  have hdates : dateOrder? left right = some .lt := beq_iff_eq.mp h
  exact (lessThan_iff left right).mpr (order?_of_dateOrder? hdates)

/-- The operators that order two operands agree with each other, whatever the operands are. -/
theorem ordering_coherent :
    greaterThan.holds left right = lessThan.holds right left ∧
    greaterThanOrEqual.holds left right = lessThanOrEqual.holds right left ∧
    beforeDate.holds left right = afterDate.holds right left ∧
    ¬(lessThan.holds left right = true ∧ greaterThan.holds left right = true) ∧
    (lessThan.holds left right = true → lessThanOrEqual.holds left right = true) ∧
    (greaterThan.holds left right = true → greaterThanOrEqual.holds left right = true) ∧
    ((greaterThanOrEqual.holds left right = true ∧ lessThanOrEqual.holds left right = true) ↔
      (greaterThanOrEqual.holds left right = true ∨ lessThanOrEqual.holds left right = true) ∧
        greaterThan.holds left right = false ∧ lessThan.holds left right = false) ∧
    (beforeDate.holds left right = true → lessThan.holds left right = true) := by
  refine ⟨greaterThan_eq_lessThan left right, greaterThanOrEqual_eq_lessThanOrEqual left right,
    beforeDate_eq_afterDate left right, ?_, fun hlt => ?_, fun hgt => ?_,
    nonStrict_iff left right, lessThan_of_beforeDate left right⟩
  · rintro ⟨hlt, hgt⟩
    rw [lessThan_iff] at hlt
    rw [greaterThan_iff, hlt] at hgt
    cases hgt
  · exact (lessThanOrEqual_iff left right).mpr (.inl ((lessThan_iff left right).mp hlt))
  · exact (greaterThanOrEqual_iff left right).mpr (.inl ((greaterThan_iff left right).mp hgt))

/-- One and a half seconds into 1970 as an integer, and two and a half milliseconds later as a
double. -/
theorem milliseconds_ordered :
    let early : Option Value := some (.int 1500)
    let late : Option Value := some (.float (.ofRatio false 3005 2))
    beforeDate.holds early late = true ∧ lessThan.holds early late = true ∧
      lessThanOrEqual.holds early late = true ∧ greaterThan.holds late early = true ∧
      greaterThanOrEqual.holds late early = true := by
  intro early late
  have hbefore : beforeDate.holds early late = true := by decide +kernel
  obtain ⟨-, -, -, -, hweak, -, -, hless⟩ := ordering_coherent early late
  obtain ⟨hswap, -, -, -, -, hother, -, -⟩ := ordering_coherent late early
  have hlt := hless hbefore
  have hgt := hswap.trans hlt
  exact ⟨hbefore, hlt, hweak hlt, hgt, hother hgt⟩

end Operator

end FormRules
