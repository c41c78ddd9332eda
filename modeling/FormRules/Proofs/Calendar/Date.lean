import FormRules.Calendar.Date
import Mathlib.Algebra.BigOperators.Group.List.Basic
import Mathlib.Algebra.Ring.Nat

/-!
Days and dates. The year of a day is the one that begins no later and whose successor begins
after it; the estimate by the mean length of a year misses it by one year at most. Month and day of
the month split what is left over the lengths of the months. So every day number is the number of
its date, and that date exists (`toDayNumber_ofDayNumber`, `valid_ofDayNumber`).
-/

namespace FormRules.Calendar.Date

/-! ### Years -/

theorem daysBeforeYear_yearOfDay_le (days : Int) : daysBeforeYear (yearOfDay days) ≤ days := by
  unfold yearOfDay
  dsimp only
  split
  · rename_i h
    unfold daysBeforeYear at *
    omega
  · split
    · assumption
    · omega

theorem lt_daysBeforeYear_yearOfDay (days : Int) :
    days < daysBeforeYear (yearOfDay days + 1) := by
  unfold yearOfDay
  dsimp only
  split
  · rename_i h
    rwa [Int.sub_add_cancel]
  · split
    · rename_i h
      unfold daysBeforeYear at *
      omega
    · omega

theorem sum_monthLengths (year : Int) :
    (monthLengths year).sum = if isLeapYear year then 366 else 365 := by
  unfold monthLengths
  cases isLeapYear year <;> rfl

/-- The months of a year take up all the days to the next one. -/
theorem daysBeforeYear_succ (year : Int) :
    daysBeforeYear (year + 1) = daysBeforeYear year + ((monthLengths year).sum : Nat) := by
  have hleap : isLeapYear year = true ↔ year % 4 = 0 ∧ (year % 100 ≠ 0 ∨ year % 400 = 0) := by
    simp [isLeapYear]
  rw [sum_monthLengths]
  unfold daysBeforeYear
  split
  · rename_i h
    rw [hleap] at h
    omega
  · rename_i h
    rw [hleap] at h
    omega

/-! ### Months -/

theorem foldl_add (lengths : List Nat) (n : Nat) :
    lengths.foldl Nat.add n = n + lengths.sum := by
  induction lengths generalizing n with
  | nil => rfl
  | cons length rest ih =>
    rw [List.foldl_cons, ih, List.sum_cons]
    exact Nat.add_assoc n length rest.sum

/-- A day of the year lies in one of its months, behind all days of the earlier ones. -/
theorem splitDayOfYear_eq {lengths : List Nat} {dayOfYear : Nat} (month : Nat)
    (h : dayOfYear < lengths.sum) :
    ∃ earlier day, earlier < lengths.length ∧ day < lengths.getD earlier 0 ∧
      dayOfYear = (lengths.take earlier).sum + day ∧
      splitDayOfYear month lengths dayOfYear = (month + earlier, day + 1) := by
  induction lengths generalizing month dayOfYear with
  | nil => cases h
  | cons length rest ih =>
    rw [List.sum_cons] at h
    rw [splitDayOfYear]
    split
    · rename_i hfirst
      exact ⟨0, dayOfYear, Nat.succ_pos _, hfirst, (Nat.zero_add dayOfYear).symm, rfl⟩
    · rename_i hlater
      obtain ⟨earlier, day, hearlier, hday, hsum, hsplit⟩ :=
        ih (month + 1) (by omega : dayOfYear - length < rest.sum)
      refine ⟨earlier + 1, day, Nat.succ_lt_succ hearlier, hday, ?_, ?_⟩
      · rw [List.take_succ_cons, List.sum_cons]
        omega
      · rw [hsplit, Nat.add_right_comm, Nat.add_assoc]

/-! ### Dates -/

/-- What the date of a day is: its year, and a month and a day of it behind all days of the
earlier months. -/
theorem ofDayNumber_cases (number : Int) : ∃ earlier day, earlier < 12 ∧
    day < (monthLengths (yearOfDay (number + epochDay))).getD earlier 0 ∧
    number + epochDay = daysBeforeYear (yearOfDay (number + epochDay)) +
      ((((monthLengths (yearOfDay (number + epochDay))).take earlier).sum + day : Nat) : Int) ∧
    ofDayNumber number = ⟨yearOfDay (number + epochDay), 1 + earlier, day + 1⟩ := by
  have hle := daysBeforeYear_yearOfDay_le (number + epochDay)
  have hlt := lt_daysBeforeYear_yearOfDay (number + epochDay)
  rw [daysBeforeYear_succ] at hlt
  unfold ofDayNumber
  dsimp only
  generalize yearOfDay (number + epochDay) = year at *
  have hinside : (number + epochDay - daysBeforeYear year).toNat < (monthLengths year).sum := by
    omega
  obtain ⟨earlier, day, hearlier, hday, hsum, hsplit⟩ := splitDayOfYear_eq 1 hinside
  exact ⟨earlier, day, hearlier, hday, by omega, by rw [hsplit]⟩

/-- A day number is the number of its date. -/
theorem toDayNumber_ofDayNumber (number : Int) : (ofDayNumber number).toDayNumber = number := by
  obtain ⟨earlier, day, -, -, hnumber, hdate⟩ := ofDayNumber_cases number
  rw [hdate, toDayNumber]
  dsimp only
  rw [Nat.add_sub_cancel_left, foldl_add]
  push_cast at hnumber ⊢
  omega

/-- The date of a day exists. -/
theorem valid_ofDayNumber (number : Int) : (ofDayNumber number).Valid := by
  obtain ⟨earlier, day, hearlier, hday, -, hdate⟩ := ofDayNumber_cases number
  rw [hdate, Valid, monthLength]
  dsimp only
  rw [Nat.add_sub_cancel_left]
  omega

theorem monthLength_le (year : Int) (month : Nat) : monthLength year month ≤ 31 := by
  have hall : ∀ length ∈ monthLengths year, length ≤ 31 := by
    unfold monthLengths
    cases isLeapYear year <;> decide
  rw [monthLength, List.getD_eq_getElem?_getD]
  cases hlength : (monthLengths year)[month - 1]? with
  | none => exact Nat.zero_le 31
  | some length => exact hall length (List.mem_of_getElem? hlength)

end FormRules.Calendar.Date
