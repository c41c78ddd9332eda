import FormRules.Condition.Evaluate
import FormRules.Proofs.Calendar.Reading
import FormRules.Proofs.Operator.Order

/-!
The timestamp of a context in comparisons. A path to it gives its text, and the operators on dates
read the text again, so what a field is compared with is the moment that the host set, without
what is finer than milliseconds (`timestamp_compares_as_instant`). That is so for the times that
clocks show, leap seconds among them. A host may also set a time of a second and more beyond the
begin of a second that is not the last of its minute; this is compared as the time in the next
second that clocks show instead (`overfull_second_carried`).
-/

namespace FormRules

open Calendar

namespace Calendar.Moment

variable {moment instant : Moment} {seconds millis : Int} {nano : Nat}

/-- Every moment that is counted from 1970 is one that clocks show. -/
theorem isClockTime_of_ofUnix? (h : ofUnix? seconds nano = some moment) : moment.IsClockTime := by
  unfold ofUnix? at h
  dsimp only at h
  split at h
  · rename_i hrange
    cases h
    exact ⟨by dsimp only; omega, hrange.2.2⟩
  · cases h

/-- A number of milliseconds is before a moment in the count of the moment's milliseconds. All of
a leap second is after the last millisecond of its second, and before the next second. -/
theorem compare_wholeMillis_eq_lt_iff (hclock : moment.IsClockTime)
    (h : ofUnixMillis? millis = some instant) :
    instant.compare moment.wholeMillis = .lt ↔
      millis < (moment.day * 86400 + moment.second) * 1000 + min (moment.nano / 1000000) 1000 := by
  obtain ⟨-, -, rfl⟩ := ofUnixMillis?_cases h
  have hsecond := hclock.second
  rw [compare_eq_lt_iff, wholeMillis]
  dsimp only
  omega

theorem compare_wholeMillis_eq_gt_iff (hclock : moment.IsClockTime)
    (h : ofUnixMillis? millis = some instant) :
    instant.compare moment.wholeMillis = .gt ↔
      (moment.day * 86400 + moment.second) * 1000 + min (moment.nano / 1000000) 999 < millis := by
  obtain ⟨-, -, rfl⟩ := ofUnixMillis?_cases h
  have hsecond := hclock.second
  rw [compare_swap, Ordering.swap_eq_gt, compare_eq_lt_iff, wholeMillis]
  dsimp only
  omega

end Calendar.Moment

namespace Context

variable {ctx : Context} {moment : Moment}

theorem lookup?_timestamp (ctx : Context) :
    ctx.lookup? "timestamp" =
      ctx.timestamp.map fun moment => .string (String.ofList moment.writeUtc) := by
  have hsplit : Path.splitFirst? "timestamp" = none := by decide
  rw [lookup?, hsplit]
  simp [section?]

section

variable (hset : ctx.timestamp = some moment) (htime : moment.IsTimeOfDay)
  (hfirst : 0 ≤ (Date.ofDayNumber moment.day).year)
  (hlast : (Date.ofDayNumber moment.day).year ≤ 9999)

include hset htime hfirst hlast

/-- The text of the timestamp means the timestamp as clocks show it. -/
theorem toMoment?_lookup?_timestamp :
    (ctx.lookup? "timestamp").bind Value.toMoment? = some moment.onClock.wholeMillis := by
  rw [lookup?_timestamp, hset, Option.map_some, Option.bind_some, Value.toMoment?,
    String.toList_ofList, trimChars_writeUtc hfirst hlast, moment?_writeUtc htime hfirst hlast]

/-- So it is compared with milliseconds. -/
theorem dateOrder?_timestamp {millis : Int64} {instant : Moment}
    (hinstant : Moment.ofUnixMillis? millis.toInt = some instant) :
    Operator.dateOrder? (some (.int millis)) (ctx.lookup? "timestamp") =
      some (instant.compare moment.onClock.wholeMillis) := by
  obtain ⟨value, hvalue, hmoment⟩ :=
    Option.bind_eq_some_iff.mp (toMoment?_lookup?_timestamp hset htime hfirst hlast)
  have hmillis : (Value.int millis).toMoment? = some instant := hinstant
  rw [hvalue]
  change (Value.int millis).compareDates? value = _
  rw [Value.compareDates?, hmillis, hmoment]

end

/-- The timestamp of a context compares as its own instant. Its text is read as the timestamp in
whole milliseconds, leap seconds included, so a field of milliseconds is before or after it just
as the moments are, and these are ordered as the milliseconds are counted. The time of day is no
restriction to timestamps that are counted from 1970 (`isClockTime_of_ofUnix?`). -/
theorem timestamp_compares_as_instant (hset : ctx.timestamp = some moment)
    (hclock : moment.IsClockTime) (hfirst : 0 ≤ (Date.ofDayNumber moment.day).year)
    (hlast : (Date.ofDayNumber moment.day).year ≤ 9999) :
    (ctx.lookup? "timestamp").bind Value.toMoment? = some moment.wholeMillis ∧
    ∀ (millis : Int64) (instant : Moment), Moment.ofUnixMillis? millis.toInt = some instant →
      Operator.beforeDate.holds (some (.int millis)) (ctx.lookup? "timestamp") =
        (instant.compare moment.wholeMillis == .lt) ∧
      Operator.afterDate.holds (some (.int millis)) (ctx.lookup? "timestamp") =
        (instant.compare moment.wholeMillis == .gt) ∧
      (∀ fns field, ctx.field? field = some (.int millis) →
        Comparison.evaluate ctx fns ⟨field, .beforeDate, .context "timestamp", none⟩ =
          .ok (instant.compare moment.wholeMillis == .lt) ∧
        Comparison.evaluate ctx fns ⟨field, .afterDate, .context "timestamp", none⟩ =
          .ok (instant.compare moment.wholeMillis == .gt)) ∧
      (instant.compare moment.wholeMillis = .lt ↔
        millis.toInt <
          (moment.day * 86400 + moment.second) * 1000 + min (moment.nano / 1000000) 1000) ∧
      (instant.compare moment.wholeMillis = .gt ↔
        (moment.day * 86400 + moment.second) * 1000 + min (moment.nano / 1000000) 999 <
          millis.toInt) := by
  have hread := toMoment?_lookup?_timestamp hset hclock.isTimeOfDay hfirst hlast
  rw [hclock.onClock_eq] at hread
  refine ⟨hread, fun millis instant hinstant => ?_⟩
  have horder := dateOrder?_timestamp hset hclock.isTimeOfDay hfirst hlast hinstant
  rw [hclock.onClock_eq] at horder
  have hbefore : Operator.beforeDate.holds (some (.int millis)) (ctx.lookup? "timestamp") =
      (instant.compare moment.wholeMillis == .lt) :=
    congrArg (· == some Ordering.lt) horder
  have hafter : Operator.afterDate.holds (some (.int millis)) (ctx.lookup? "timestamp") =
      (instant.compare moment.wholeMillis == .gt) :=
    congrArg (· == some Ordering.gt) horder
  refine ⟨hbefore, hafter, fun fns field hfield => ?_,
    Moment.compare_wholeMillis_eq_lt_iff hclock hinstant,
    Moment.compare_wholeMillis_eq_gt_iff hclock hinstant⟩
  have hleft (operator : Operator) : Comparison.fieldValue? ctx fns
      ⟨field, operator, .context "timestamp", none⟩ = some (.int millis) :=
    congrArg _ hfield
  constructor
  · rw [← hbefore, ← hleft .beforeDate]
    rfl
  · rw [← hafter, ← hleft .afterDate]
    rfl

/-- A form that is sent in the middle of the leap second at the end of 2016, with the last
millisecond before it and the first one after it. -/
def newYearsEve : Context where
  formData := Dict.ofList [
    ("arrival", .int 1483228799999), ("departure", .int 1483228800000)]
  timestamp := some ⟨17166, 86399, 1500600000⟩

/-- The leap second is after the arrival and before the departure. -/
theorem leap_second_between :
    (newYearsEve.lookup? "timestamp").bind Value.toMoment? = some ⟨17166, 86399, 1500000000⟩ ∧
      Comparison.evaluate newYearsEve .builtin
        ⟨"arrival", .beforeDate, .context "timestamp", none⟩ = .ok true ∧
      Comparison.evaluate newYearsEve .builtin
        ⟨"departure", .beforeDate, .context "timestamp", none⟩ = .ok false ∧
      Comparison.evaluate newYearsEve .builtin
        ⟨"departure", .afterDate, .context "timestamp", none⟩ = .ok true := by
  obtain ⟨hread, hcompare⟩ := timestamp_compares_as_instant
    (rfl : newYearsEve.timestamp = some ⟨17166, 86399, 1500600000⟩)
    (Moment.isClockTime_of_ofUnix? (by decide +kernel : Moment.ofUnix? 1483228799 1500600000 = _))
    (by decide +kernel) (by decide +kernel)
  obtain ⟨-, -, harrival, -⟩ := hcompare 1483228799999 ⟨17166, 86399, 999000000⟩ (by decide +kernel)
  obtain ⟨-, -, hdeparture, -⟩ := hcompare 1483228800000 ⟨17167, 0, 0⟩ (by decide +kernel)
  obtain ⟨hnotbefore, hafter⟩ := hdeparture .builtin "departure" rfl
  exact ⟨hread, (harrival .builtin "arrival" rfl).1, hnotbefore, hafter⟩

/-- A timestamp that no clock shows: one and a half seconds beyond the begin of the first second
of 2024, with a field that is 1.2 seconds beyond it. -/
def firstSeconds : Context where
  formData := Dict.ofList [("arrival", .int 1704067201200)]
  timestamp := some ⟨19723, 0, 1500000000⟩

/-- The text of that timestamp is half a second after the next second, which is another moment
than the timestamp is, and the field comes after the one and before the other. -/
theorem overfull_second_carried :
    let moment : Moment := ⟨19723, 0, 1500000000⟩
    let millis : Int64 := 1704067201200
    let arrival : Moment := ⟨19723, 1, 200000000⟩
    firstSeconds.timestamp = some moment ∧ Date.ofDayNumber moment.day = ⟨2024, 1, 1⟩ ∧
      (firstSeconds.lookup? "timestamp").bind Value.toMoment? = some ⟨19723, 1, 500000000⟩ ∧
      moment.wholeMillis ≠ ⟨19723, 1, 500000000⟩ ∧
      Moment.ofUnixMillis? millis.toInt = some arrival ∧
      arrival.compare moment.wholeMillis = .gt ∧
      Operator.beforeDate.holds (some (.int millis)) (firstSeconds.lookup? "timestamp") = true ∧
      Operator.afterDate.holds (some (.int millis)) (firstSeconds.lookup? "timestamp") = false := by
  intro moment millis arrival
  have hset : firstSeconds.timestamp = some moment := rfl
  have hdate : Date.ofDayNumber moment.day = ⟨2024, 1, 1⟩ := by decide +kernel
  have htime : moment.IsTimeOfDay := ⟨by decide, by decide⟩
  have hfirst : 0 ≤ (Date.ofDayNumber moment.day).year := by rw [hdate]; decide
  have hlast : (Date.ofDayNumber moment.day).year ≤ 9999 := by rw [hdate]; decide
  have harrival : Moment.ofUnixMillis? millis.toInt = some arrival := by decide +kernel
  have hcarried : moment.onClock.wholeMillis = ⟨19723, 1, 500000000⟩ := by decide
  have hread := toMoment?_lookup?_timestamp hset htime hfirst hlast
  have horder := dateOrder?_timestamp hset htime hfirst hlast harrival
  rw [hcarried] at hread horder
  exact ⟨hset, hdate, hread, by decide, harrival, by decide,
    congrArg (· == some Ordering.lt) horder, congrArg (· == some Ordering.gt) horder⟩

end Context

end FormRules
