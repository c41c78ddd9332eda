import FormRules.Calendar.Reading
import FormRules.Proofs.Calendar.Date
import Mathlib.Data.List.TakeWhile

/-!
Written moments read back. A timestamp in UTC is written with fields of fixed width, and the
reader takes up just these fields, so the moment that is read is the one that was written, but for
what the written milliseconds leave out (`moment?_writeUtc`). Leap seconds are among them. A second
with more than its nanoseconds that is not the last of its minute is written as the next second,
and read as that (`Moment.onClock`).
-/

namespace FormRules

/-! ### Padded numbers -/

namespace Numeral

variable {width n : Nat}

theorem length_writePadded (hwidth : 0 < width) (h : n < 10 ^ width) :
    (writePadded width n).length = width := by
  have hlength : (writeNat n).length ≤ width :=
    (Nat.length_toDigits_le_iff (by decide) hwidth).mpr h
  rw [writePadded, List.length_append, List.length_replicate]
  omega

theorem ofDigitChars_writePadded (width n : Nat) :
    Nat.ofDigitChars 10 (writePadded width n) 0 = n := by
  rw [writePadded, Nat.ofDigitChars_append, Nat.ofDigitChars_replicate_zero, Nat.mul_zero,
    ofDigitChars_writeNat]

theorem isDigit_of_mem_writePadded {c : Char} (h : c ∈ writePadded width n) :
    c.isDigit = true := by
  rcases List.mem_append.mp h with h | h
  · rw [List.eq_of_mem_replicate h]
    rfl
  · exact isDigit_of_mem_writeNat h

theorem exists_cons_writePadded (width n : Nat) : ∃ c rest, writePadded width n = c :: rest := by
  cases h : writePadded width n with
  | nil => exact absurd (List.append_eq_nil_iff.mp h).2 (writeNat_ne_nil n)
  | cons c rest => exact ⟨c, rest, rfl⟩

end Numeral

namespace Unicode

theorem not_isWhiteSpace_of_isDigit {c : Char} (h : c.isDigit = true) :
    isWhiteSpace c = false := by
  have hcode : 48 ≤ c.toNat ∧ c.toNat ≤ 57 := by
    simpa [Char.isDigit, UInt32.le_iff_toNat_le] using h
  unfold isWhiteSpace
  simp only [Bool.or_eq_false_iff, Bool.and_eq_false_iff, decide_eq_false_iff_not,
    beq_eq_false_iff_ne]
  omega

/-- A text that neither begins nor ends with white space is trimmed already. -/
theorem trimChars_of_ends {first last : Char} {middle : List Char}
    (hfirst : isWhiteSpace first = false) (hlast : isWhiteSpace last = false) :
    trimChars (first :: middle ++ [last]) = first :: middle ++ [last] := by
  have hstart {c : Char} {rest : List Char} (hc : isWhiteSpace c = false) :
      trimStart (c :: rest) = c :: rest := List.dropWhile_cons_of_neg (by rw [hc]; decide)
  rw [trimChars, List.cons_append, hstart hfirst, ← List.cons_append, List.reverse_append,
    List.reverse_singleton, List.singleton_append, hstart hlast, List.reverse_cons,
    List.reverse_reverse]

end Unicode

namespace Calendar

open Numeral

/-! ### Readers -/

namespace Scan

variable {α β : Type} {chars rest : List Char}

/-- After a reader that succeeds, the next one reads the rest. -/
theorem bind_of_read {scan : Scan α} {next : α → Scan β} {a : α}
    (h : scan chars = some (a, rest)) : (scan >>= next) chars = next a rest := by
  change (scan chars).bind (fun r => next r.1 r.2) = _
  rw [h]
  rfl

theorem char_cons (c : Char) (rest : List Char) : char c (c :: rest) = some ((), rest) :=
  if_pos rfl

/-- Fields of fixed width are read whatever follows them. -/
theorem digits_writePadded {width n : Nat} (hwidth : 0 < width) (h : n < 10 ^ width)
    (rest : List Char) : digits width width (writePadded width n ++ rest) = some (n, rest) := by
  have hlength := length_writePadded hwidth h
  have hrun : ((writePadded width n ++ rest).take width).takeWhile Char.isDigit =
      writePadded width n := by
    rw [List.take_left' hlength, List.takeWhile_eq_self_iff]
    exact fun c hc => isDigit_of_mem_writePadded hc
  rw [digits, hrun, hlength, if_neg (Nat.lt_irrefl width), ofDigitChars_writePadded,
    List.drop_left' hlength]

end Scan

theorem allDigits_writePadded (width n : Nat) {rest : List Char} {c : Char}
    (hne : writePadded width n ≠ []) (hc : c.isDigit = false) :
    Scan.allDigits (writePadded width n ++ c :: rest) =
      some (writePadded width n, c :: rest) := by
  have hall : ∀ d ∈ writePadded width n, d.isDigit = true := fun d hd =>
    isDigit_of_mem_writePadded hd
  have hstop : ¬c.isDigit = true := by rw [hc]; decide
  rw [Scan.allDigits, List.takeWhile_append_of_pos hall, List.takeWhile_cons_of_neg hstop,
    List.append_nil, List.dropWhile_append_of_pos hall, List.dropWhile_cons_of_neg hstop,
    List.isEmpty_eq_false_iff.mpr hne]
  rfl

/-- A fraction of three digits means milliseconds. -/
theorem scanFraction_writePadded {millis : Nat} (h : millis < 1000) (rest : List Char) :
    scanFraction ('.' :: (writePadded 3 millis ++ 'Z' :: rest)) =
      some (millis * 1000000, 'Z' :: rest) := by
  have hlength : (writePadded 3 millis).length = 3 := length_writePadded (by decide) h
  have hne : writePadded 3 millis ≠ [] := List.ne_nil_of_length_pos (by omega)
  change scanNanos _ = _
  unfold scanNanos
  rw [Scan.bind_of_read (allDigits_writePadded 3 millis hne rfl)]
  rw [List.take_of_length_le (by omega), hlength, Nat.ofDigitChars_append,
    ofDigitChars_writePadded, Nat.ofDigitChars_replicate_zero]
  rw [Nat.mul_comm]
  rfl

/-! ### Timestamps -/

namespace Moment

/-- A time of day as clocks show it. The nanoseconds are fewer than a second's, or those of a leap
second, which is at the end of a minute. -/
structure IsClockTime (moment : Moment) : Prop where
  second : moment.second < 86400
  nano : moment.nano < 1000000000 ∨ moment.nano < 2000000000 ∧ moment.second % 60 = 59

/-- A time of day whose nanoseconds are fewer than two seconds', at whatever second. -/
structure IsTimeOfDay (moment : Moment) : Prop where
  second : moment.second < 86400
  nano : moment.nano < 2000000000

/-- The time that clocks show: nanoseconds beyond a second's count as the next second, unless the
second is the last of its minute, where they are a leap second. -/
def onClock (moment : Moment) : Moment :=
  if moment.nano < 1000000000 ∨ moment.second % 60 = 59 then moment
  else ⟨moment.day, moment.second + 1, moment.nano - 1000000000⟩

theorem IsClockTime.isTimeOfDay {moment : Moment} (h : moment.IsClockTime) : moment.IsTimeOfDay :=
  ⟨h.second, h.nano.elim (fun h => Nat.lt_trans h (by decide)) And.left⟩

theorem IsClockTime.onClock_eq {moment : Moment} (h : moment.IsClockTime) :
    moment.onClock = moment :=
  if_pos (h.nano.imp_right And.right)

theorem IsTimeOfDay.isClockTime_onClock {moment : Moment} (h : moment.IsTimeOfDay) :
    moment.onClock.IsClockTime := by
  obtain ⟨hsecond, hnano⟩ := h
  unfold onClock
  split
  · rename_i hclock
    exact ⟨hsecond, hclock.imp_right fun hlast => ⟨hnano, hlast⟩⟩
  · exact ⟨by dsimp only; omega, .inl (by dsimp only; omega)⟩

theorem day_onClock (moment : Moment) : moment.onClock.day = moment.day := by
  unfold onClock
  split
  · rfl
  · rfl

/-- What is written is the time that clocks show. -/
theorem IsTimeOfDay.writeUtc_onClock {moment : Moment} (h : moment.IsTimeOfDay) :
    moment.onClock.writeUtc = moment.writeUtc := by
  obtain ⟨-, hnano⟩ := h
  unfold onClock
  split
  · rfl
  · have hhour : (moment.second + 1) / 3600 = moment.second / 3600 := by omega
    have hminute : (moment.second + 1) / 60 % 60 = moment.second / 60 % 60 := by omega
    have hsecond : (moment.second + 1) % 60 = moment.second % 60 + 1 := by omega
    have hmillis : (moment.nano - 1000000000) % 1000000000 = moment.nano % 1000000000 := by omega
    have hcarried : moment.nano - 1000000000 < 1000000000 := by omega
    have hover : ¬moment.nano < 1000000000 := by omega
    simp only [writeUtc, hhour, hminute, hsecond, hmillis, if_pos hcarried, if_neg hover,
      Nat.add_zero]

/-- A moment without what is finer than milliseconds. -/
def wholeMillis (moment : Moment) : Moment :=
  { moment with nano := moment.nano / 1000000 * 1000000 }

theorem minusSeconds_zero (moment : Moment) (h : moment.second < 86400) :
    moment.minusSeconds 0 = moment := by
  obtain ⟨day, second, nano⟩ := moment
  dsimp only at h
  rw [minusSeconds, Moment.mk.injEq]
  dsimp only
  exact ⟨by omega, by omega, rfl⟩

end Moment

/-- The parts that are written of a time of day are those of the time without its finer part. -/
theorem momentOfParts?_clock {moment : Moment} {date : Date} (hclock : moment.IsClockTime)
    (hvalid : date.Valid) (hrange : date.inRange = true) (hnumber : date.toDayNumber = moment.day) :
    momentOfParts? date.year date.month date.day (moment.second / 3600)
      (moment.second / 60 % 60)
      (moment.second % 60 + if moment.nano < 1000000000 then 0 else 1)
      (moment.nano % 1000000000 / 1000000 * 1000000) = some moment.wholeMillis := by
  obtain ⟨hsecond, hnano⟩ := hclock
  have hclocks : moment.second / 3600 < 24 ∧ moment.second / 60 % 60 < 60 ∧
      (moment.second % 60 + if moment.nano < 1000000000 then 0 else 1) ≤ 60 := by
    refine ⟨by omega, by omega, ?_⟩
    split <;> omega
  unfold momentOfParts?
  dsimp only
  rw [if_pos ⟨hvalid, hrange, hclocks⟩, hnumber, Moment.wholeMillis]
  by_cases hleap : moment.nano < 1000000000
  · rw [if_pos hleap, if_neg (by omega), Option.some.injEq, Moment.mk.injEq]
    exact ⟨rfl, by omega, by omega⟩
  · rw [if_neg hleap, if_pos (by omega), Option.some.injEq, Moment.mk.injEq]
    exact ⟨rfl, by omega, by omega⟩

theorem scanTimestamp_writeUtc {moment : Moment} (hclock : moment.IsClockTime)
    (hfirst : 0 ≤ (Date.ofDayNumber moment.day).year)
    (hlast : (Date.ofDayNumber moment.day).year ≤ 9999) :
    scanTimestamp moment.writeUtc = some (⟨moment.wholeMillis, 0⟩, []) := by
  have hvalid := Date.valid_ofDayNumber moment.day
  have hnumber := Date.toDayNumber_ofDayNumber moment.day
  unfold Moment.writeUtc
  dsimp only
  generalize Date.ofDayNumber moment.day = date at *
  have hsecond := hclock.second
  have hmonth : date.month < 10 ^ 2 := Nat.lt_of_le_of_lt hvalid.2.1 (by decide)
  have hday : date.day < 10 ^ 2 := Nat.lt_of_le_of_lt
    (Nat.le_trans hvalid.2.2.2 (Date.monthLength_le _ _)) (by decide)
  have hyear : (date.year.toNat : Int) = date.year := Int.toNat_of_nonneg hfirst
  have hrange : date.inRange = true := by
    rw [Date.inRange, Bool.and_eq_true, decide_eq_true_iff, decide_eq_true_iff]
    omega
  have hseparator (rest : List Char) : scanSeparator ('T' :: rest) = some ((), rest) := rfl
  have hoffset : scanOffset ['Z'] = some (0, []) := rfl
  rw [Moment.writeYear, if_pos ⟨hfirst, hlast⟩]
  simp only [List.append_assoc, List.cons_append]
  unfold scanTimestamp
  rw [Scan.bind_of_read (Scan.digits_writePadded (by decide) (by omega) _),
    Scan.bind_of_read (Scan.char_cons '-' _),
    Scan.bind_of_read (Scan.digits_writePadded (by decide) hmonth _),
    Scan.bind_of_read (Scan.char_cons '-' _),
    Scan.bind_of_read (Scan.digits_writePadded (by decide) hday _),
    Scan.bind_of_read (hseparator _),
    Scan.bind_of_read (Scan.digits_writePadded (by decide) (by omega) _),
    Scan.bind_of_read (Scan.char_cons ':' _),
    Scan.bind_of_read (Scan.digits_writePadded (by decide) (by omega) _),
    Scan.bind_of_read (Scan.char_cons ':' _),
    Scan.bind_of_read (Scan.digits_writePadded (by decide) (by split <;> omega) _),
    Scan.bind_of_read (scanFraction_writePadded (by omega) _), Scan.bind_of_read hoffset, hyear,
    momentOfParts?_clock hclock hvalid hrange hnumber]
  rfl

theorem trimChars_writeUtc {moment : Moment}
    (hfirst : 0 ≤ (Date.ofDayNumber moment.day).year)
    (hlast : (Date.ofDayNumber moment.day).year ≤ 9999) :
    Unicode.trimChars moment.writeUtc = moment.writeUtc := by
  obtain ⟨c, rest, hdigits⟩ := exists_cons_writePadded 4 (Date.ofDayNumber moment.day).year.toNat
  have hc : Unicode.isWhiteSpace c = false := Unicode.not_isWhiteSpace_of_isDigit
    (isDigit_of_mem_writePadded (hdigits ▸ List.mem_cons_self))
  unfold Moment.writeUtc
  dsimp only
  rw [Moment.writeYear, if_pos ⟨hfirst, hlast⟩, hdigits]
  exact Unicode.trimChars_of_ends hc (by decide)

/-- A written moment is read back as clocks show it, without what is finer than milliseconds. -/
theorem moment?_writeUtc {moment : Moment} (htime : moment.IsTimeOfDay)
    (hfirst : 0 ≤ (Date.ofDayNumber moment.day).year)
    (hlast : (Date.ofDayNumber moment.day).year ≤ 9999) :
    moment? moment.writeUtc = some moment.onClock.wholeMillis := by
  have hclock := htime.isClockTime_onClock
  have hutc : (⟨moment.onClock.wholeMillis, 0⟩ : ZonedMoment).utc = moment.onClock.wholeMillis :=
    moment.onClock.wholeMillis.minusSeconds_zero hclock.second
  rw [← moment.day_onClock] at hfirst hlast
  rw [← htime.writeUtc_onClock, moment?, timestamp?, Scan.all?,
    scanTimestamp_writeUtc hclock hfirst hlast, Option.map_some, hutc]
  rfl

end Calendar

end FormRules
