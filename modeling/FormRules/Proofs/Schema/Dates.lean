import FormRules.Schema

/-!
What a date is, to the schema and to the operators. The order of dates reads a value as a moment
and the calendar operators read it as a day, by different attempts in different order; still a
value has a day just if it means a moment (`isSome_toDay?`). So the kind of dates takes what the
calendar operators decide about, and only such values are ordered as dates
(`schema_and_operators_agree_on_dates`).
-/

namespace FormRules

namespace Calendar

variable {chars : List Char}

/-- Every timestamp with an offset is a moment too. -/
theorem moment?_of_timestamp? {zoned : ZonedMoment} (h : timestamp? chars = some zoned) :
    moment? chars = some zoned.utc := by
  rw [moment?, h]
  rfl

end Calendar

namespace Value

variable {left right : Value}

/-- Whichever way the day of a value is found, the value means a moment, and the other way
around. -/
theorem isSome_toDay? (value : Value) : value.toDay?.isSome = value.toMoment?.isSome := by
  unfold toDay?
  split
  · rename_i zoned hzoned
    cases value with
    | string text =>
      rw [toMoment?, Calendar.moment?_of_timestamp? hzoned]
      rfl
    | _ => cases hzoned
  · exact Option.isSome_map

theorem isSome_of_compareDates? {order : Ordering} (h : left.compareDates? right = some order) :
    left.toMoment?.isSome = true ∧ right.toMoment?.isSome = true := by
  unfold compareDates? at h
  split at h
  · rename_i l r hleft hright
    rw [hleft, hright]
    exact ⟨rfl, rfl⟩
  · cases h

end Value

namespace Operator

variable {value left right : Value} {operand : Option Value}

/-- A value that has a day falls on one of the two kinds of days. -/
theorem isSome_toDay?_iff : value.toDay?.isSome = true ↔
    isWeekend.holds (some value) operand = true ∨
      isBusinessDay.holds (some value) operand = true := by
  change _ ↔ value.toDay?.any Calendar.isWeekendDay = true ∨
    value.toDay?.any (fun day => !Calendar.isWeekendDay day) = true
  cases value.toDay? with
  | none => simp
  | some day =>
    rw [Option.any_some, Option.any_some]
    cases Calendar.isWeekendDay day <;> simp

theorem not_isWeekend_and_isBusinessDay : ¬(isWeekend.holds (some value) operand = true ∧
    isBusinessDay.holds (some value) operand = true) := by
  change ¬(value.toDay?.any Calendar.isWeekendDay = true ∧
    value.toDay?.any (fun day => !Calendar.isWeekendDay day) = true)
  cases value.toDay? with
  | none => simp
  | some day =>
    rw [Option.any_some, Option.any_some]
    cases Calendar.isWeekendDay day <;> decide

theorem dates_of_holds (h : beforeDate.holds (some left) (some right) = true ∨
    afterDate.holds (some left) (some right) = true) :
    left.toMoment?.isSome = true ∧ right.toMoment?.isSome = true := by
  change (left.compareDates? right == some .lt) = true ∨
    (left.compareDates? right == some .gt) = true at h
  rw [beq_iff_eq, beq_iff_eq] at h
  exact h.elim Value.isSome_of_compareDates? Value.isSome_of_compareDates?

end Operator

namespace FieldKind

/-- The kind of dates takes a value just if it falls on a weekend or a business day, never both,
and only values of that kind come before or after each other. -/
theorem schema_and_operators_agree_on_dates :
    (∀ value operand, date.accepts value = true ↔
      Operator.isWeekend.holds (some value) operand = true ∨
        Operator.isBusinessDay.holds (some value) operand = true) ∧
    (∀ value operand, ¬(Operator.isWeekend.holds (some value) operand = true ∧
      Operator.isBusinessDay.holds (some value) operand = true)) ∧
    (∀ left right, Operator.beforeDate.holds (some left) (some right) = true ∨
        Operator.afterDate.holds (some left) (some right) = true →
      date.accepts left = true ∧ date.accepts right = true) := by
  refine ⟨fun value operand => ?_, fun value operand =>
    Operator.not_isWeekend_and_isBusinessDay, fun left right => Operator.dates_of_holds⟩
  change value.toMoment?.isSome = true ↔ _
  rw [← Value.isSome_toDay?, Operator.isSome_toDay?_iff]

/-- A Friday evening whose moment falls on a Saturday in UTC, before the last millisecond of that
Saturday. -/
theorem friday_evening_dated :
    let evening : Value := .string "2024-05-03T22:15:00-05:00"
    let saturday : Value := .int 1714867199999
    Operator.beforeDate.holds (some evening) (some saturday) = true ∧
      date.accepts evening = true ∧ date.accepts saturday = true ∧
      Operator.isWeekend.holds (some evening) none = false ∧
      Operator.isBusinessDay.holds (some evening) none = true ∧
      Operator.isWeekend.holds (some saturday) none = true ∧
      Operator.isBusinessDay.holds (some saturday) none = false := by
  intro evening saturday
  have hbefore : Operator.beforeDate.holds (some evening) (some saturday) = true := by
    decide +kernel
  have hevening : Operator.isWeekend.holds (some evening) none = false := by decide +kernel
  have hsaturday : Operator.isWeekend.holds (some saturday) none = true := by decide +kernel
  obtain ⟨hkind, hnotboth, hordered⟩ := schema_and_operators_agree_on_dates
  obtain ⟨hleft, hright⟩ := hordered evening saturday (.inl hbefore)
  have hbusiness : Operator.isBusinessDay.holds (some evening) none = true :=
    ((hkind evening none).mp hleft).resolve_left (by rw [hevening]; decide)
  have hnotbusiness : Operator.isBusinessDay.holds (some saturday) none = false :=
    Bool.eq_false_iff.mpr fun h => hnotboth saturday none ⟨hsaturday, h⟩
  exact ⟨hbefore, hleft, hright, hevening, hbusiness, hsaturday, hnotbusiness⟩

end FieldKind

end FormRules
