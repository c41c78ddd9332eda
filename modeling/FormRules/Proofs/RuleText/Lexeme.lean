import FormRules.Proofs.RuleText.Token
import FormRules.RuleText.Grammar

/-!
Strings, numbers and names of operators: what is written of them is read back. A number
may be followed by anything that ends a word, since points and digits are identifier
characters.
-/

namespace FormRules

/-- The operator of a name has that name. -/
theorem Operator.ofName_eq_ok {word : String} {op : Operator} :
    ofName word = .ok op ↔ word = op.name := by
  constructor
  · intro h
    unfold ofName at h
    split at h
    · rename_i found hfind
      cases h
      have hname := List.find?_some hfind
      simp only [beq_iff_eq] at hname
      exact hname.symm
    · cases h
  · rintro rfl
    exact ofName_name op

theorem Operator.ofName_eq_error {name : String} (h : ∀ op : Operator, op.name ≠ name) :
    ofName name = .error (.unknownOperator name) := by
  cases hname : ofName name with
  | ok op => exact absurd (ofName_eq_ok.mp hname).symm (h op)
  | error e =>
    unfold ofName at hname
    split at hname <;> cases hname
    rfl

namespace Numeral

theorem toInt64?_toInt (n : Int64) : toInt64? n.toInt = some n := by
  rw [toInt64?, if_pos ⟨n.minValue_le_toInt, n.toInt_le⟩, Int64.ofInt_toInt]

theorem toInt32?_toInt (n : Int32) : toInt32? n.toInt = some n := by
  rw [toInt32?, if_pos ⟨n.minValue_le_toInt, n.toInt_le⟩, Int32.ofInt_toInt]

theorem toUInt64?_toNat (n : UInt64) : toUInt64? n.toNat = some n := by
  rw [toUInt64?, if_pos n.toNat_lt_size, UInt64.ofNat_toNat]

theorem writeNat_eq_cons (n : Nat) :
    ∃ c rest, writeNat n = c :: rest ∧ c.isDigit = true := by
  cases h : writeNat n with
  | nil => exact absurd h (writeNat_ne_nil n)
  | cons c rest => exact ⟨c, rest, rfl, isDigit_of_mem_writeNat (h ▸ List.mem_cons_self)⟩

/-- A positive number is written without leading zeros. -/
theorem writeNat_eq_cons_of_pos {n : Nat} (hpos : 0 < n) :
    ∃ c rest, writeNat n = c :: rest ∧ c ≠ '0' := by
  induction n using Nat.strongRecOn with
  | ind n ih =>
    unfold writeNat
    rw [Nat.toDigits_eq_if (by decide)]
    split
    · have hne : ∀ m, m < 10 → 0 < m → Nat.digitChar m ≠ '0' := by decide
      exact ⟨_, [], rfl, hne n ‹_› hpos⟩
    · obtain ⟨c, rest, hcons, hc⟩ := ih (n / 10) (by omega) (by omega)
      rw [writeNat] at hcons
      exact ⟨c, rest ++ [Nat.digitChar (n % 10)], by rw [hcons, List.cons_append], hc⟩

end Numeral

namespace RuleText

open Reader

section Strings

theorem stringBody_quote (rest : List Char) : stringBody ('"' :: rest) = .done [] rest := by
  rw [stringBody.eq_def]
  rfl

/-- An escaped character is read back. -/
theorem stringBody_escape (c : Char) {text rest chars : List Char}
    (h : stringBody text = .done chars rest) :
    stringBody (escape c ++ text) = .done (c :: chars) rest := by
  by_cases hc : c = '"' ∨ c = '\\'
  · have hescape : escape c = ['\\', c] := if_pos hc
    have hunescape : unescape c = [c] := by rcases hc with rfl | rfl <;> rfl
    rw [hescape, List.cons_append, List.cons_append, List.nil_append, stringBody.eq_def]
    simp [h, hunescape]
  · have hescape : escape c = [c] := if_neg hc
    obtain ⟨hquote, hbackslash⟩ := not_or.mp hc
    rw [hescape, List.cons_append, List.nil_append, stringBody.eq_def]
    simp [h, hquote, hbackslash]

theorem stringBody_flatMap_escape (chars rest : List Char) :
    stringBody (chars.flatMap escape ++ '"' :: rest) = .done chars rest := by
  induction chars with
  | nil => exact stringBody_quote rest
  | cons c tail ih =>
    rw [List.flatMap_cons, List.append_assoc]
    exact stringBody_escape c ih

theorem quotedString_eq_done {text rest : List Char} {word : String} :
    quotedString text = .done word rest ↔
      ∃ tail chars, text = '"' :: tail ∧ stringBody tail = .done chars rest ∧
        word = String.ofList chars := by
  unfold quotedString
  refine bind_eq_done.trans ⟨?_, ?_⟩
  · rintro ⟨_, tail, hquote, hbody⟩
    obtain ⟨rfl, _⟩ := char_eq_done.mp hquote
    obtain ⟨chars, mid, hchars, hword⟩ := bind_eq_done.mp hbody
    obtain ⟨rfl, rfl⟩ := give_eq_done.mp hword
    exact ⟨tail, chars, rfl, hchars, rfl⟩
  · rintro ⟨tail, chars, rfl, hchars, rfl⟩
    exact ⟨'"', tail, char_cons '"' tail, bind_of_done hchars⟩

/-- A string that is written with escapes is read back. -/
theorem quotedString_quote (text : String) (rest : List Char) :
    quotedString (quote text ++ rest) = .done text rest := by
  rw [quote, List.cons_append, List.append_assoc]
  exact quotedString_eq_done.mpr
    ⟨_, _, rfl, stringBody_flatMap_escape text.toList rest, String.ofList_toList.symm⟩

theorem startsToken_quote (text : String) : StartsToken (quote text) :=
  startsToken_cons.mpr (by decide)

theorem refuses_quotedString {text : List Char} (h : text.head? ≠ some '"') :
    Refuses quotedString text := by
  unfold quotedString
  rw [bind_eq, refuses_bind]
  exact .inl (refuses_char.mpr h)

theorem yields_stringBody : Yields (fun _ => True) stringBody := by
  intro text
  fun_induction stringBody text with
  | case1 => rintro v rest ⟨⟩
  | case2 rest =>
    rintro v rest' ⟨⟩
    exact ⟨List.suffix_cons _ _, trivial⟩
  | case3 => rintro v rest ⟨⟩
  | case4 escaped rest chars tail h _ ih =>
    rintro v rest' ⟨⟩
    exact ⟨((ih _ _ h).1.trans (List.suffix_cons escaped rest)).trans
      (List.suffix_cons _ _), trivial⟩
  | case5 => rintro v rest ⟨⟩
  | case6 c rest _ _ chars tail h ih =>
    rintro v rest' ⟨⟩
    exact ⟨(ih _ _ h).1.trans (List.suffix_cons c rest), trivial⟩
  | case7 => rintro v rest ⟨⟩

theorem yields_quotedString : Yields (fun _ => True) quotedString :=
  yields_bind yields_char fun _ _ => yields_bind yields_stringBody fun _ _ => yields_give trivial

end Strings

section Numbers

theorem not_isDigit_of_endsWord {rest : List Char} (h : EndsWord rest) :
    ∀ c ∈ rest.head?, c.isDigit = false := by
  intro c hc
  have hchar := h c hc
  simp only [isIdentChar, Char.isAlphanum, Bool.or_eq_false_iff] at hchar
  exact hchar.1.1.2

theorem takeWhile_append_of_stop {accept : Char → Bool} {word rest : List Char}
    (hword : ∀ c ∈ word, accept c = true) (hrest : ∀ c ∈ rest.head?, accept c = false) :
    (word ++ rest).takeWhile accept = word ∧ (word ++ rest).dropWhile accept = rest := by
  have hnone : rest.takeWhile accept = [] ∧ rest.dropWhile accept = rest := by
    cases rest with
    | nil => simp
    | cons c tail => simp [hrest c rfl]
  rw [List.takeWhile_append_of_pos hword, List.dropWhile_append_of_pos hword, hnone.1, hnone.2,
    List.append_nil]
  exact ⟨rfl, rfl⟩

theorem run1_append {accept : Char → Bool} {word rest : List Char} (hne : word ≠ [])
    (hword : ∀ c ∈ word, accept c = true) (hrest : ∀ c ∈ rest.head?, accept c = false) :
    run1 accept (word ++ rest) = .done word rest := by
  obtain ⟨htake, hdrop⟩ := takeWhile_append_of_stop hword hrest
  exact run1_eq_done.mpr ⟨hne, htake, hdrop⟩

/-- A run is read to its end. -/
theorem run1_eq_done_iff {accept : Char → Bool} {text taken rest : List Char} :
    run1 accept text = .done taken rest ↔
      (taken ≠ [] ∧ ∀ c ∈ taken, accept c = true) ∧ text = taken ++ rest ∧
        ∀ c ∈ rest.head?, accept c = false := by
  constructor
  · intro hrun
    obtain ⟨hne, rfl, rfl⟩ := run1_eq_done.mp hrun
    refine ⟨⟨hne, List.all_eq_true.mp List.all_takeWhile⟩, List.takeWhile_append_dropWhile.symm, ?_⟩
    intro c hc
    have hhead := List.head?_dropWhile_not accept text
    rw [Option.mem_def.mp hc] at hhead
    simpa using hhead
  · rintro ⟨⟨hne, hall⟩, rfl, hrest⟩
    exact run1_append hne hall hrest

theorem run_append {accept : Char → Bool} {word rest : List Char}
    (hword : ∀ c ∈ word, accept c = true) (hrest : ∀ c ∈ rest.head?, accept c = false) :
    run accept (word ++ rest) = .done word rest := by
  obtain ⟨htake, hdrop⟩ := takeWhile_append_of_stop hword hrest
  rw [run, htake, hdrop]

theorem run1_writeNat (n : Nat) {rest : List Char} (hrest : EndsWord rest) :
    run1 Char.isDigit (Numeral.writeNat n ++ rest) = .done (Numeral.writeNat n) rest :=
  run1_append (Numeral.writeNat_ne_nil n) (fun _ => Numeral.isDigit_of_mem_writeNat)
    (not_isDigit_of_endsWord hrest)

theorem refuses_fraction {text : List Char} (h : text.head? ≠ some '.') :
    Refuses fraction text := by
  unfold fraction
  rw [bind_eq, refuses_bind]
  exact .inl (refuses_char.mpr h)

/-- An optional sign is none where a digit stands. -/
theorem optional_sign_of_digit {accept : Char → Bool} {text : List Char}
    (haccept : ∀ c, c.isDigit = true → accept c = false) (h : ∀ c ∈ text.head?, c.isDigit = true) :
    optional (satisfy accept) text = .done none text :=
  optional_of_refuses (refuses_satisfy.mpr fun c hc => haccept c (h c hc))

theorem head_writeNat (n : Nat) (rest : List Char) :
    ∀ c ∈ (Numeral.writeNat n ++ rest).head?, c.isDigit = true := by
  obtain ⟨c, tail, hcons, hdigit⟩ := Numeral.writeNat_eq_cons n
  simpa [hcons] using hdigit

theorem not_isDigit_sign {c d : Char} (hd : d.isDigit = false) (hc : c.isDigit = true) :
    (c == d) = false :=
  beq_false_of_ne (ne_of_apart hc hd)

/-- The magnitude of a number is read after its sign. -/
theorem number_of_sign {sign : Option Char} {text rest : List Char} {n : Nat} {value : Int64}
    (hsign : optional (char '-') text = .done sign (Numeral.writeNat n ++ rest))
    (hrest : EndsWord rest) (hvalue : value.toInt = if sign.isSome then -(n : Int) else n) :
    number text = .done (.int value) rest := by
  have hpoint : rest.head? ≠ some '.' := by
    intro h
    exact absurd (hrest '.' h) (by decide)
  unfold number
  simp only [bind_eq, pure_eq]
  rw [bind_of_done hsign, bind_of_done (run1_writeNat n hrest),
    bind_of_done (optional_of_refuses (refuses_fraction hpoint))]
  simp only [Numeral.ofDigitChars_writeNat]
  rw [← hvalue, Numeral.toInt64?_toInt]
  rfl

/-- An integer that is written in decimal is read back. -/
theorem number_writeInt (value : Int64) {rest : List Char} (hrest : EndsWord rest) :
    number (Numeral.writeInt value.toInt ++ rest) = .done (.int value) rest := by
  cases hvalue : value.toInt with
  | ofNat n =>
    have hsign : optional (char '-') (Numeral.writeNat n ++ rest) =
        .done none (Numeral.writeNat n ++ rest) :=
      optional_sign_of_digit (fun _ => not_isDigit_sign (by decide)) (head_writeNat n rest)
    exact number_of_sign hsign hrest hvalue
  | negSucc n =>
    have hsign : optional (char '-') ('-' :: (Numeral.writeNat (n + 1) ++ rest)) =
        .done (some '-') (Numeral.writeNat (n + 1) ++ rest) :=
      optional_of_done (char_cons '-' _)
    exact number_of_sign hsign hrest hvalue

theorem positiveDigits_writeNat {n : Nat} {rest : List Char} (hpos : 0 < n)
    (hrest : EndsWord rest) : positiveDigits (Numeral.writeNat n ++ rest) = .done n rest := by
  obtain ⟨c, tail, hcons, hzero⟩ := Numeral.writeNat_eq_cons_of_pos hpos
  have hdigits : ∀ d ∈ c :: tail, d.isDigit = true :=
    hcons ▸ fun _ => Numeral.isDigit_of_mem_writeNat
  have hhead : satisfy (fun c => c.isDigit && c != '0') (c :: (tail ++ rest)) =
      .done c (tail ++ rest) :=
    satisfy_eq_done.mpr ⟨rfl, by simp [hdigits c List.mem_cons_self, hzero]⟩
  have htail : run Char.isDigit (tail ++ rest) = .done tail rest :=
    run_append (fun d hd => hdigits d (List.mem_cons_of_mem _ hd)) (not_isDigit_of_endsWord hrest)
  unfold positiveDigits
  simp only [bind_eq, pure_eq]
  rw [hcons, List.cons_append, bind_of_done hhead, bind_of_done htail, ← hcons,
    Numeral.ofDigitChars_writeNat]
  rfl

/-- A leading zero stands for itself alone. -/
theorem refuses_positiveDigits_zero (rest : List Char) :
    Refuses positiveDigits ('0' :: rest) := by
  unfold positiveDigits
  rw [bind_eq, refuses_bind]
  exact .inl (refuses_satisfy.mpr (by simp))

theorem unsignedInteger_writeNat (n : Nat) {rest : List Char} (hrest : EndsWord rest) :
    unsignedInteger (Numeral.writeNat n ++ rest) = .done n rest := by
  unfold unsignedInteger
  rcases Nat.eq_zero_or_pos n with rfl | hpos
  · have hzero : Numeral.writeNat 0 = ['0'] := rfl
    rw [hzero, List.cons_append, List.nil_append,
      orElse_of_refuses (refuses_positiveDigits_zero rest)]
    exact map_of_done (char_cons '0' rest)
  · exact orElse_of_done (positiveDigits_writeNat hpos hrest)

theorem signedInteger_writeInt (n : Int) {rest : List Char} (hrest : EndsWord rest) :
    signedInteger (Numeral.writeInt n ++ rest) = .done n rest := by
  unfold signedInteger
  simp only [bind_eq, pure_eq]
  cases n with
  | ofNat m =>
    have hsign : optional (satisfy fun c => c == '+' || c == '-') (Numeral.writeNat m ++ rest) =
        .done none (Numeral.writeNat m ++ rest) := by
      refine optional_sign_of_digit (fun c hc => ?_) (head_writeNat m rest)
      rw [Bool.or_eq_false_iff]
      exact ⟨not_isDigit_sign (by decide) hc, not_isDigit_sign (by decide) hc⟩
    rcases Nat.eq_zero_or_pos m with rfl | hpos
    · have hzero : Numeral.writeInt (.ofNat 0) = ['0'] := rfl
      rw [hzero, List.cons_append, List.nil_append, orElse_of_refuses]
      · exact map_of_done (char_cons '0' rest)
      · rw [refuses_bind]
        refine .inr ⟨none, '0' :: rest, hsign, ?_⟩
        rw [refuses_bind]
        exact .inl (refuses_positiveDigits_zero rest)
    · refine orElse_of_done ?_
      rw [Numeral.writeInt, bind_of_done hsign, bind_of_done (positiveDigits_writeNat hpos hrest)]
      rfl
  | negSucc m =>
    have hsign : optional (satisfy fun c => c == '+' || c == '-')
        ('-' :: (Numeral.writeNat (m + 1) ++ rest)) =
        .done (some '-') (Numeral.writeNat (m + 1) ++ rest) :=
      optional_of_done (satisfy_eq_done.mpr ⟨rfl, by decide⟩)
    refine orElse_of_done ?_
    rw [Numeral.writeInt, List.cons_append, bind_of_done hsign,
      bind_of_done (positiveDigits_writeNat (Nat.succ_pos m) hrest)]
    rfl

theorem int32_writeInt (n : Int32) {rest : List Char} (hrest : EndsWord rest) :
    int32 (Numeral.writeInt n.toInt ++ rest) = .done n rest :=
  refine_eq_done.mpr ⟨n.toInt, signedInteger_writeInt n.toInt hrest,
    by rw [Numeral.toInt32?_toInt]; rfl⟩

theorem uint64_writeNat (n : UInt64) {rest : List Char} (hrest : EndsWord rest) :
    uint64 (Numeral.writeNat n.toNat ++ rest) = .done n rest :=
  refine_eq_done.mpr ⟨n.toNat, unsignedInteger_writeNat n.toNat hrest,
    by rw [Numeral.toUInt64?_toNat]; rfl⟩

theorem yields_fraction : Yields (fun _ => True) fraction :=
  yields_bind yields_char fun _ _ => yields_run1.mono fun _ _ => trivial

/-- A number is an integer or a double. -/
theorem yields_number :
    Yields (fun value => (∃ n, value = .int n) ∨ ∃ x, value = .float x) number := by
  refine yields_bind (yields_optional yields_char) fun sign _ => ?_
  refine yields_bind yields_run1 fun whole _ => ?_
  refine yields_bind (yields_optional yields_fraction) fun decimals _ => ?_
  cases decimals with
  | some digits => exact yields_give (.inr ⟨_, rfl⟩)
  | none =>
    dsimp only
    split
    · exact yields_give (.inl ⟨_, rfl⟩)
    · exact yields_abort

theorem refuses_number {text : List Char}
    (h : ∀ c ∈ text.head?, c ≠ '-' ∧ c.isDigit = false) : Refuses number text := by
  have hsign : optional (char '-') text = .done none text :=
    optional_of_refuses (refuses_char.mpr fun hc => (h '-' hc).1 rfl)
  unfold number
  rw [bind_eq, refuses_bind]
  refine .inr ⟨none, text, hsign, ?_⟩
  rw [bind_eq, refuses_bind]
  exact .inl (refuses_run1.mpr fun c hc => (h c hc).2)

end Numbers

section Operators

/-- The characters of operator names. -/
def isOperatorChar (c : Char) : Bool := c.isLower || c == '_'

theorem isIdentChar_of_isOperatorChar {c : Char} (h : isOperatorChar c = true) :
    isIdentChar c = true := by
  simp only [isOperatorChar, Bool.or_eq_true] at h
  rcases h with hlower | hline
  · have halpha : c.isAlpha = (c.isUpper || c.isLower) := rfl
    simp [isIdentChar, Char.isAlphanum, halpha, hlower]
  · simp [isIdentChar, hline]

theorem operator_name_chars (op : Operator) :
    op.name.toList ≠ [] ∧ ∀ c ∈ op.name.toList, isOperatorChar c = true := by
  have hchars : op.name.toList ≠ [] ∧ op.name.toList.all isOperatorChar = true := by
    cases op <;> decide
  exact ⟨hchars.1, List.all_eq_true.mp hchars.2⟩

theorem operator_eq_done {text rest : List Char} {op : Operator} :
    operator text = .done op rest ↔
      text = op.name.toList ++ rest ∧ ∀ c ∈ rest.head?, isOperatorChar c = false := by
  have hname : operator text = .done op rest ↔
      run1 isOperatorChar text = .done op.name.toList rest := by
    unfold operator
    rw [label_eq_done, refine_eq_done]
    constructor
    · rintro ⟨word, hword, hop⟩
      split at hop
      · rename_i found hfound
        cases hop
        rw [← Operator.ofName_eq_ok.mp hfound, String.toList_ofList]
        exact hword
      · cases hop
    · intro hword
      refine ⟨_, hword, ?_⟩
      rw [String.ofList_toList, Operator.ofName_name]
  rw [hname]
  obtain ⟨hne, hchars⟩ := operator_name_chars op
  rw [run1_eq_done_iff]
  exact and_iff_right ⟨hne, hchars⟩

theorem operator_append {op : Operator} {rest : List Char} (hrest : EndsWord rest) :
    operator (op.name.toList ++ rest) = .done op rest := by
  refine operator_eq_done.mpr ⟨rfl, fun c hc => ?_⟩
  cases hop : isOperatorChar c with
  | false => rfl
  | true => exact absurd (isIdentChar_of_isOperatorChar hop) (by simp [hrest c hc])

theorem yields_operator : Yields (fun _ => True) operator := by
  intro text op rest hdone
  obtain ⟨rfl, _⟩ := operator_eq_done.mp hdone
  exact ⟨List.suffix_append _ _, trivial⟩

end Operators

end RuleText

end FormRules
