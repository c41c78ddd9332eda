import FormRules.Operator.Meaning
import Mathlib.Logic.Relation

/-!
Typing errors in card numbers. The checksum adds one share for each digit, and every second digit
from the right is doubled first. Doubling permutes the digits (`share_injective`), so a single
wrong digit always moves the checksum. Two neighbours that change places move it by the
difference of what doubling adds to each, which is the same modulo ten for `0` and `9` only
(`share_exchange`). Separators have no share at all.
-/

namespace FormRules.Format.Card

/-! ### Shares -/

/-- The share of a digit in the checksum. -/
def share (isDoubled : Bool) (d : Nat) : Nat :=
  if isDoubled then doubled d else d

/-- The shares of digits in reverse order: they are doubled in turns. -/
def shares (isDoubled : Bool) : List Nat → Nat
  | [] => 0
  | d :: rest => share isDoubled d + shares (!isDoubled) rest

/-- Whether the digit that comes behind others is doubled. -/
def turnAfter (isDoubled : Bool) : List Nat → Bool
  | [] => isDoubled
  | _ :: rest => turnAfter (!isDoubled) rest

theorem luhnSum_eq_shares (digits : List Nat) : luhnSum digits = shares false digits := by
  induction digits using luhnSum.induct with
  | case1 => rfl
  | case2 d => rfl
  | case3 d e rest ih =>
    rw [luhnSum, ih, Nat.add_assoc]
    rfl

theorem shares_append (isDoubled : Bool) (front back : List Nat) :
    shares isDoubled (front ++ back) =
      shares isDoubled front + shares (turnAfter isDoubled front) back := by
  induction front generalizing isDoubled with
  | nil => rw [List.nil_append, shares, Nat.zero_add, turnAfter]
  | cons d front ih => rw [List.cons_append, shares, shares, turnAfter, ih, Nat.add_assoc]

/-- The place of a digit decides whether it is doubled, and the other shares do not depend on it. -/
theorem luhnSum_at (before after : List Nat) : ∃ isDoubled others, ∀ d,
    luhnSum (before ++ d :: after).reverse = others + share isDoubled d := by
  refine ⟨turnAfter false after.reverse, shares false after.reverse +
    shares (!turnAfter false after.reverse) before.reverse, fun d => ?_⟩
  have hreverse : (before ++ d :: after).reverse = after.reverse ++ d :: before.reverse := by simp
  rw [luhnSum_eq_shares, hreverse, shares_append, shares]
  omega

/-- Of two neighbours just one is doubled. -/
theorem luhnSum_at_pair (before after : List Nat) : ∃ isDoubled others, ∀ d e,
    luhnSum (before ++ d :: e :: after).reverse =
      others + (share isDoubled d + share (!isDoubled) e) := by
  refine ⟨!turnAfter false after.reverse, shares false after.reverse +
    shares (turnAfter false after.reverse) before.reverse, fun d e => ?_⟩
  have hreverse : (before ++ d :: e :: after).reverse =
      after.reverse ++ e :: d :: before.reverse := by simp
  rw [luhnSum_eq_shares, hreverse, shares_append, shares, shares, Bool.not_not]
  omega

variable {d e : Nat}

theorem share_lt (isDoubled : Bool) (hd : d < 10) : share isDoubled d < 10 := by
  cases isDoubled with
  | false => exact hd
  | true =>
    change doubled d < 10
    unfold doubled
    split <;> omega

/-- Doubling permutes the digits. -/
theorem share_injective (isDoubled : Bool) (hd : d < 10) (he : e < 10)
    (h : share isDoubled d = share isDoubled e) : d = e := by
  cases isDoubled with
  | false => exact h
  | true =>
    change doubled d = doubled e at h
    unfold doubled at h
    split at h <;> split at h <;> omega

/-- Doubling adds a digit to itself, or that much less nine. Modulo ten this differs for any two
digits but `0` and `9`. -/
theorem doubled_exchange (hd : d < 10) (he : e < 10) (hne : d ≠ e) :
    (doubled d + e) % 10 = (doubled e + d) % 10 ↔ d = 0 ∧ e = 9 ∨ d = 9 ∧ e = 0 := by
  unfold doubled
  split <;> split <;> omega

theorem share_exchange (isDoubled : Bool) (hd : d < 10) (he : e < 10) (hne : d ≠ e) :
    (share isDoubled d + share (!isDoubled) e) % 10 =
        (share isDoubled e + share (!isDoubled) d) % 10 ↔
      d = 0 ∧ e = 9 ∨ d = 9 ∧ e = 0 := by
  cases isDoubled with
  | true => exact doubled_exchange hd he hne
  | false =>
    change (d + doubled e) % 10 = (e + doubled d) % 10 ↔ _
    rw [Nat.add_comm d, Nat.add_comm e, eq_comm]
    exact doubled_exchange hd he hne

/-! ### Signs -/

/-- What is left of a text without its separators. -/
def signs (chars : List Char) : List Char :=
  chars.filter fun c => !isSeparator c

/-- The digit that a sign stands for. -/
def digit (c : Char) : Nat :=
  c.toNat - '0'.toNat

/-- A card number without separators. -/
structure IsNumber (signs : List Char) : Prop where
  allDigits : ∀ c ∈ signs, c.isDigit = true
  longEnough : 13 ≤ signs.length
  shortEnough : signs.length ≤ 19
  checks : luhnSum (signs.map digit).reverse % 10 = 0

theorem isCard_iff (chars : List Char) : isCard chars = true ↔ IsNumber (signs chars) := by
  have hdigits : digits? chars =
      if (signs chars).all Char.isDigit then some ((signs chars).map digit) else none := rfl
  rw [isCard, hdigits]
  by_cases hall : (signs chars).all Char.isDigit = true
  · rw [if_pos hall]
    simp only [List.length_map, Bool.and_eq_true, decide_eq_true_iff, beq_iff_eq]
    exact ⟨fun ⟨⟨hlong, hshort⟩, hsum⟩ => ⟨List.all_eq_true.mp hall, hlong, hshort, hsum⟩,
      fun h => ⟨⟨h.longEnough, h.shortEnough⟩, h.checks⟩⟩
  · rw [if_neg hall]
    exact ⟨fun h => absurd h Bool.false_ne_true,
      fun h => absurd (List.all_eq_true.mpr h.allDigits) hall⟩

variable {c left right other : Char} {before gap after : List Char}

theorem toNat_of_isDigit (h : c.isDigit = true) : 48 ≤ c.toNat ∧ c.toNat ≤ 57 := by
  simpa [Char.isDigit, UInt32.le_iff_toNat_le] using h

theorem not_isSeparator_of_isDigit (h : c.isDigit = true) : isSeparator c = false := by
  have hcode := toNat_of_isDigit h
  rw [isSeparator, Bool.or_eq_false_iff, beq_eq_false_iff_ne, beq_eq_false_iff_ne]
  constructor <;> rintro rfl <;> revert hcode <;> decide

theorem digit_lt (h : c.isDigit = true) : digit c < 10 := by
  have hcode := toNat_of_isDigit h
  change c.toNat - 48 < 10
  omega

theorem digit_injective (hleft : left.isDigit = true) (hright : right.isDigit = true)
    (h : digit left = digit right) : left = right := by
  have hl := toNat_of_isDigit hleft
  have hr := toNat_of_isDigit hright
  change left.toNat - 48 = right.toNat - 48 at h
  exact Char.toNat_inj.mp (by omega)

theorem digit_eq_iff (h : c.isDigit = true) (hother : other.isDigit = true) :
    digit c = digit other ↔ c = other :=
  ⟨digit_injective h hother, congrArg digit⟩

/-- The two digits that the checksum does not tell apart. -/
theorem digit_zero_nine_iff (hleft : left.isDigit = true) (hright : right.isDigit = true) :
    digit left = 0 ∧ digit right = 9 ∨ digit left = 9 ∧ digit right = 0 ↔
      left = '0' ∧ right = '9' ∨ left = '9' ∧ right = '0' := by
  have hzero : '0'.isDigit = true := rfl
  have hnine : '9'.isDigit = true := rfl
  rw [← digit_eq_iff hleft hzero, ← digit_eq_iff hright hnine, ← digit_eq_iff hleft hnine,
    ← digit_eq_iff hright hzero]
  rfl

theorem signs_append (front back : List Char) : signs (front ++ back) = signs front ++ signs back :=
  List.filter_append ..

theorem signs_cons_of_isDigit (h : c.isDigit = true) (rest : List Char) :
    signs (c :: rest) = c :: signs rest := by
  rw [signs, List.filter_cons_of_pos (by rw [not_isSeparator_of_isDigit h]; rfl), signs]

theorem signs_eq_nil (h : ∀ c ∈ gap, isSeparator c = true) : signs gap = [] := by
  rw [signs, List.filter_eq_nil_iff]
  intro c hc
  rw [h c hc]
  decide

theorem signs_at (h : c.isDigit = true) : signs (before ++ c :: after) =
    signs before ++ c :: signs after := by
  rw [signs_append, signs_cons_of_isDigit h]

/-- Neighbours in the sequence of digits are neighbours among the signs. -/
theorem signs_neighbours (hgap : ∀ c ∈ gap, isSeparator c = true) (hleft : left.isDigit = true)
    (hright : right.isDigit = true) : signs (before ++ left :: gap ++ right :: after) =
      signs before ++ left :: right :: signs after := by
  rw [signs_at hright, signs_at hleft, signs_eq_nil hgap, List.append_assoc, List.cons_append,
    List.nil_append]

/-! ### Typing errors -/

/-- One separator more, or one less. -/
inductive Respacing : List Char → List Char → Prop
  | insert (before : List Char) {c : Char} (hc : isSeparator c = true) (after : List Char) :
      Respacing (before ++ after) (before ++ c :: after)
  | remove (before : List Char) {c : Char} (hc : isSeparator c = true) (after : List Char) :
      Respacing (before ++ c :: after) (before ++ after)

theorem IsNumber.not_substituted (h : IsNumber (before ++ c :: after))
    (hother : other.isDigit = true) (hne : other ≠ c) : ¬IsNumber (before ++ other :: after) := by
  intro hbad
  have hc : c.isDigit = true := h.allDigits c (by simp)
  obtain ⟨isDoubled, others, hsum⟩ := luhnSum_at (before.map digit) (after.map digit)
  have hchecks := h.checks
  have hchecks' := hbad.checks
  rw [List.map_append, List.map_cons, hsum] at hchecks hchecks'
  -- The two sums differ in one share, and shares are less than ten.
  have hlt := share_lt isDoubled (digit_lt hc)
  have hlt' := share_lt isDoubled (digit_lt hother)
  have hshare : share isDoubled (digit other) = share isDoubled (digit c) := by omega
  exact hne (digit_injective hother hc
    (share_injective isDoubled (digit_lt hother) (digit_lt hc) hshare))

/-- The order of the digits is a matter of the checksum alone. -/
theorem isNumber_iff_of_perm {front back : List Char} (h : IsNumber front)
    (hperm : back.Perm front) :
    IsNumber back ↔ luhnSum (back.map digit).reverse % 10 = 0 :=
  ⟨IsNumber.checks, fun hchecks => ⟨fun c hc => h.allDigits c (hperm.mem_iff.mp hc),
    hperm.length_eq ▸ h.longEnough, hperm.length_eq ▸ h.shortEnough, hchecks⟩⟩

theorem IsNumber.exchanged_iff (h : IsNumber (before ++ left :: right :: after))
    (hne : left ≠ right) : IsNumber (before ++ right :: left :: after) ↔
      left = '0' ∧ right = '9' ∨ left = '9' ∧ right = '0' := by
  have hleft : left.isDigit = true := h.allDigits left (by simp)
  have hright : right.isDigit = true := h.allDigits right (by simp)
  have hdigits : digit left ≠ digit right := fun heq => hne (digit_injective hleft hright heq)
  have hperm : (before ++ right :: left :: after).Perm (before ++ left :: right :: after) :=
    (List.Perm.swap left right after).append_left before
  obtain ⟨isDoubled, others, hsum⟩ := luhnSum_at_pair (before.map digit) (after.map digit)
  have hchecks := h.checks
  rw [List.map_append, List.map_cons, List.map_cons, hsum] at hchecks
  rw [isNumber_iff_of_perm h hperm, List.map_append, List.map_cons, List.map_cons, hsum,
    ← digit_zero_nine_iff hleft hright,
    ← share_exchange isDoubled (digit_lt hleft) (digit_lt hright) hdigits]
  omega

theorem signs_of_respacing {chars respaced : List Char} (h : Respacing chars respaced) :
    signs respaced = signs chars := by
  have hdropped (before after : List Char) {c : Char} (hc : isSeparator c = true) :
      signs (before ++ c :: after) = signs (before ++ after) := by
    rw [signs_append, signs_append, signs, signs, List.filter_cons_of_neg (by rw [hc]; decide),
      signs]
  cases h with
  | insert before hc after => exact hdropped before after hc
  | remove before hc after => exact (hdropped before after hc).symm

theorem signs_of_respacings {chars respaced : List Char}
    (h : Relation.ReflTransGen Respacing chars respaced) : signs respaced = signs chars := by
  induction h with
  | refl => rfl
  | tail _ hstep ih => exact (signs_of_respacing hstep).trans ih

end FormRules.Format.Card

namespace FormRules.Operator

open Format.Card

/-- What the operator for card numbers says about a text. -/
def acceptsCard (operand : Option Value) (chars : List Char) : Bool :=
  creditCardFormat.holds (some (.string (String.ofList chars))) operand

theorem acceptsCard_iff (operand : Option Value) (chars : List Char) :
    acceptsCard operand chars = true ↔ IsNumber (signs chars) := by
  rw [← isCard_iff, acceptsCard]
  change isCard (String.ofList chars).toList = true ↔ _
  rw [String.toList_ofList]

/-- In a text that is accepted as a card number, any wrong digit is found, and so are any two
different neighbours in each other's place, but for `0` and `9`: their exchange is never found.
Separators make no difference. -/
theorem creditCardFormat_detects_typing_errors (operand : Option Value) :
    (∀ before c after other, acceptsCard operand (before ++ c :: after) = true →
      c.isDigit = true → other.isDigit = true → other ≠ c →
      acceptsCard operand (before ++ other :: after) = false) ∧
    (∀ before left gap right after,
      acceptsCard operand (before ++ left :: gap ++ right :: after) = true →
      left.isDigit = true → right.isDigit = true → left ≠ right →
      (∀ c ∈ gap, isSeparator c = true) →
      acceptsCard operand (before ++ right :: gap ++ left :: after) =
        decide (left = '0' ∧ right = '9' ∨ left = '9' ∧ right = '0')) ∧
    (∀ chars respaced, acceptsCard operand chars = true →
      Relation.ReflTransGen Respacing chars respaced → acceptsCard operand respaced = true) := by
  refine ⟨?substituted, ?exchanged, ?respaced⟩
  case substituted =>
    intro before c after other haccepted hc hother hne
    rw [acceptsCard_iff, signs_at hc] at haccepted
    rw [← Bool.not_eq_true, acceptsCard_iff, signs_at hother]
    exact haccepted.not_substituted hother hne
  case exchanged =>
    intro before left gap right after haccepted hleft hright hne hgap
    rw [acceptsCard_iff, signs_neighbours hgap hleft hright] at haccepted
    rw [Bool.eq_iff_iff, acceptsCard_iff, signs_neighbours hgap hright hleft, decide_eq_true_iff]
    exact haccepted.exchanged_iff hne
  case respaced =>
    intro chars respaced haccepted hrespaced
    rw [acceptsCard_iff] at haccepted ⊢
    rwa [signs_of_respacings hrespaced]

/-- A wrong last digit and an exchange of `1` and `2` are found. The exchange of the `0` and the
`9` beside the first space is not, and the space may as well be a hyphen. -/
theorem card_mistyped :
    acceptsCard none "4120 9000 0000 0008".toList = true ∧
      acceptsCard none "4120 9000 0000 0003".toList = false ∧
      acceptsCard none "4210 9000 0000 0008".toList = false ∧
      acceptsCard none "4129 0000 0000 0008".toList = true ∧
      acceptsCard none "4120-9000 0000 0008".toList = true := by
  have haccepted : acceptsCard none "4120 9000 0000 0008".toList = true := by decide
  obtain ⟨hsubstituted, hexchanged, hrespaced⟩ := creditCardFormat_detects_typing_errors none
  have hhyphen : Relation.ReflTransGen Respacing "4120 9000 0000 0008".toList
      "4120-9000 0000 0008".toList :=
    .tail (.single (.remove "4120".toList (c := ' ') rfl "9000 0000 0008".toList))
      (.insert "4120".toList (c := '-') rfl "9000 0000 0008".toList)
  exact ⟨haccepted,
    hsubstituted "4120 9000 0000 000".toList '8' [] '3' haccepted rfl rfl (by decide),
    hexchanged "4".toList '1' [] '2' "0 9000 0000 0008".toList haccepted rfl rfl (by decide)
      (by simp),
    hexchanged "412".toList '0' [' '] '9' "000 0000 0008".toList haccepted rfl rfl (by decide)
      (by simp [isSeparator]),
    hrespaced _ _ haccepted hhyphen⟩

end FormRules.Operator
