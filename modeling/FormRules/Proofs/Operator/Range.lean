import FormRules.Proofs.Operator.Order

/-!
Ranges of numbers. A number is in a range when its place among the doubles lies between those of
the ends, while the ordering operators tell two integers apart even where they become the same
double. So a number between the ends in order is in the range, and the converse fails just for
integers outside the range that become the same double as an end (`between_iff_ordering`). It
holds for integers up to `2 ^ 53`.
-/

namespace FormRules.Operator

open Binary64 Value

variable {left right n low high : Value} {a b : Int}

theorem order?_number (hleft : left.rank? = some a) (hright : right.rank? = some b) :
    left.order? right = left.compareNumbers? right := by
  obtain ⟨order, horder⟩ := Option.isSome_iff_exists.mp (isSome_compareNumbers? hleft hright)
  rw [Value.order?, horder]
  rfl

theorem holds_lessThanOrEqual_iff (hleft : left.rank? = some a) (hright : right.rank? = some b) :
    lessThanOrEqual.holds (some left) (some right) = true ↔ a ≤ b ∧ ¬right.Merges left := by
  have hgt := compareNumbers?_eq_gt_iff hleft hright
  obtain ⟨order, horder⟩ := Option.isSome_iff_exists.mp (isSome_compareNumbers? hleft hright)
  have hholds : lessThanOrEqual.holds (some left) (some right) = (order != .gt) := by
    change (left.order? right).any (· != .gt) = _
    rw [order?_number hleft hright, horder]
    rfl
  rw [hholds, bne_iff_ne, ← Int.not_lt, ← not_or, ← hgt, horder, ne_eq, Option.some.injEq]

theorem holds_greaterThanOrEqual_iff (hleft : left.rank? = some a)
    (hright : right.rank? = some b) :
    greaterThanOrEqual.holds (some left) (some right) = true ↔ b ≤ a ∧ ¬left.Merges right := by
  rw [greaterThanOrEqual_eq_lessThanOrEqual]
  exact holds_lessThanOrEqual_iff hright hleft

/-- What the range check computes: it looks at places only. -/
theorem inRange?_number {c : Int} (hn : n.rank? = some a) (hlow : low.rank? = some b)
    (hhigh : high.rank? = some c) :
    inRange? (some n) (some (array [low, high])) = some (decide (b ≤ a) && decide (a ≤ c)) := by
  obtain ⟨x, hx, hxrank⟩ := Option.bind_eq_some_iff.mp hn
  obtain ⟨l, hl, hlrank⟩ := Option.bind_eq_some_iff.mp hlow
  obtain ⟨h, hh, hhrank⟩ := Option.bind_eq_some_iff.mp hhigh
  have hnan : (x.isNaN || l.isNaN || h.isNaN) = false := by
    rw [isNaN_eq_false hxrank, isNaN_eq_false hlrank, isNaN_eq_false hhrank]
    rfl
  unfold inRange?
  simp only [hx, hl, hh, hnan, Bool.false_eq_true, if_false, numLe_eq hlrank hxrank,
    numLe_eq hxrank hhrank]

theorem holds_between_iff {c : Int} (hn : n.rank? = some a) (hlow : low.rank? = some b)
    (hhigh : high.rank? = some c) :
    between.holds (some n) (some (array [low, high])) = true ↔ b ≤ a ∧ a ≤ c := by
  change (inRange? (some n) (some (array [low, high])) == some true) = true ↔ _
  rw [inRange?_number hn hlow hhigh, beq_iff_eq, Option.some.injEq, Bool.and_eq_true,
    decide_eq_true_iff, decide_eq_true_iff]

/-- Between numbers, one of the two range operators holds. -/
theorem holds_notBetween_eq (hn : n.IsNumber) (hlow : low.IsNumber) (hhigh : high.IsNumber) :
    notBetween.holds (some n) (some (array [low, high])) =
      !between.holds (some n) (some (array [low, high])) := by
  obtain ⟨a, ha⟩ := exists_rank?_of_isNumber hn
  obtain ⟨b, hb⟩ := exists_rank?_of_isNumber hlow
  obtain ⟨c, hc⟩ := exists_rank?_of_isNumber hhigh
  change (inRange? _ _ == some false) = !(inRange? _ _ == some true)
  rw [inRange?_number ha hb hc]
  cases decide (b ≤ a) && decide (a ≤ c) <;> rfl

/-- Whether the ordering operators put a value between two others, the ends included. -/
def isOrderedBetween (n low high : Value) : Bool :=
  greaterThanOrEqual.holds (some n) (some low) && lessThanOrEqual.holds (some n) (some high)

theorem isOrderedBetween_iff (hn : n.IsNumber) (hlow : low.IsNumber) (hhigh : high.IsNumber) :
    isOrderedBetween n low high = true ↔
      between.holds (some n) (some (array [low, high])) = true ∧
        ¬n.Merges low ∧ ¬high.Merges n := by
  obtain ⟨a, ha⟩ := exists_rank?_of_isNumber hn
  obtain ⟨b, hb⟩ := exists_rank?_of_isNumber hlow
  obtain ⟨c, hc⟩ := exists_rank?_of_isNumber hhigh
  rw [isOrderedBetween, Bool.and_eq_true, holds_greaterThanOrEqual_iff ha hb,
    holds_lessThanOrEqual_iff ha hc, holds_between_iff ha hb hc]
  exact and_and_and_comm

/-- Whether the ordering operators put an integer between two others is exact. -/
theorem isOrderedBetween_int_iff (i l h : Int64) :
    isOrderedBetween (int i) (int l) (int h) = true ↔ l.toInt ≤ i.toInt ∧ i.toInt ≤ h.toInt := by
  have hlow : greaterThanOrEqual.holds (some (int i)) (some (int l)) =
      (compare i.toInt l.toInt != .lt) := rfl
  have hhigh : lessThanOrEqual.holds (some (int i)) (some (int h)) =
      (compare i.toInt h.toInt != .gt) := rfl
  rw [isOrderedBetween, Bool.and_eq_true, hlow, hhigh, bne_iff_ne, bne_iff_ne, compare_ge_iff_ge,
    compare_le_iff_le]

theorem between_eq_isOrderedBetween (hn : n.IsNumber) (hlow : low.IsNumber)
    (hhigh : high.IsNumber) (hnexact : n.Exact) (hlowexact : low.Exact)
    (hhighexact : high.Exact) :
    between.holds (some n) (some (array [low, high])) = isOrderedBetween n low high := by
  rw [Bool.eq_iff_iff, isOrderedBetween_iff hn hlow hhigh]
  exact (and_iff_left ⟨not_merges_of_exact hnexact hlowexact,
    not_merges_of_exact hhighexact hnexact⟩).symm

/-- A number that the ordering operators put between two others is in their range. The converse
fails exactly for an integer below an integer `low`, or above an integer `high`, that becomes the
same double as it: never up to `2 ^ 53`. -/
theorem between_iff_ordering (hn : n.IsNumber) (hlow : low.IsNumber) (hhigh : high.IsNumber) :
    (isOrderedBetween n low high = true ↔
      between.holds (some n) (some (array [low, high])) = true ∧
        ¬n.Merges low ∧ ¬high.Merges n) ∧
    notBetween.holds (some n) (some (array [low, high])) =
      !between.holds (some n) (some (array [low, high])) ∧
    (n.Exact → low.Exact → high.Exact →
      between.holds (some n) (some (array [low, high])) = isOrderedBetween n low high) ∧
    (∀ i l h : Int64, n = int i → low = int l → high = int h →
      (isOrderedBetween n low high = true ↔ l.toInt ≤ i.toInt ∧ i.toInt ≤ h.toInt)) := by
  refine ⟨isOrderedBetween_iff hn hlow hhigh, holds_notBetween_eq hn hlow hhigh,
    between_eq_isOrderedBetween hn hlow hhigh, ?_⟩
  rintro i l h rfl rfl rfl
  exact isOrderedBetween_int_iff i l h

/-- The largest integers for which the range check is exact. -/
theorem between_at_high :
    (int 9007199254740992).IsNumber ∧ (int 9007199254740991).IsNumber ∧
      (int 9007199254740992).Exact ∧ (int 9007199254740991).Exact ∧
      isOrderedBetween (int 9007199254740992) (int 9007199254740991)
        (int 9007199254740992) = true ∧
      between.holds (some (int 9007199254740992))
        (some (array [int 9007199254740991, int 9007199254740992])) = true ∧
      notBetween.holds (some (int 9007199254740992))
        (some (array [int 9007199254740991, int 9007199254740992])) = false := by
  have hn : (int 9007199254740992).IsNumber := trivial
  have hlow : (int 9007199254740991).IsNumber := trivial
  have hnexact : (int 9007199254740992).Exact := by
    unfold Exact
    decide
  have hlowexact : (int 9007199254740991).Exact := by
    unfold Exact
    decide
  obtain ⟨-, hnot, hexact, hints⟩ := between_iff_ordering hn hlow hn
  have hordered := (hints _ _ _ rfl rfl rfl).mpr (by decide)
  have hbetween := (hexact hnexact hlowexact hnexact).trans hordered
  rw [hbetween] at hnot
  exact ⟨hn, hlow, hnexact, hlowexact, hordered, hbetween, hnot⟩

/-- The integer after `2 ^ 53` is in a range that ends at `2 ^ 53`. -/
theorem between_beyond_high :
    (int 9007199254740993).IsNumber ∧ (int 0).IsNumber ∧ (int 9007199254740992).IsNumber ∧
      between.holds (some (int 9007199254740993))
        (some (array [int 0, int 9007199254740992])) = true ∧
      greaterThanOrEqual.holds (some (int 9007199254740993)) (some (int 0)) = true ∧
      lessThanOrEqual.holds (some (int 9007199254740993)) (some (int 9007199254740992)) = false := by
  refine ⟨trivial, trivial, trivial, ?_, ?_, ?_⟩
  all_goals decide +kernel

end FormRules.Operator
