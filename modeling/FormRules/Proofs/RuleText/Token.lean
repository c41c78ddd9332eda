import FormRules.Proofs.RuleText.Recursion
import FormRules.Proofs.RuleText.Source

/-!
What the readers of words and blanks read. Words reach as far as they can: an identifier
and a keyword both end where no identifier character follows (`EndsWord`), so a keyword is
refused wherever an identifier other than it stands.
-/

namespace FormRules.RuleText

open Reader

/-- No identifier character comes next. -/
def EndsWord (rest : List Char) : Prop := ∀ c ∈ rest.head?, isIdentChar c = false

/-- Neither a blank nor the beginning of a comment. -/
def isTokenStart (c : Char) : Bool := !isBlank c && c != '#'

/-- The text begins with something else than a blank or a comment. -/
def StartsToken (text : List Char) : Prop :=
  ∃ c rest, text = c :: rest ∧ isTokenStart c = true

@[simp] theorem endsWord_nil : EndsWord [] := by simp [EndsWord]

@[simp] theorem endsWord_cons {c : Char} {rest : List Char} :
    EndsWord (c :: rest) ↔ isIdentChar c = false := by
  simp [EndsWord]

theorem endsWord_space {rest : List Char} : EndsWord (' ' :: rest) :=
  endsWord_cons.mpr (by decide)

theorem isIdentChar_of_isIdentStart {c : Char} (h : isIdentStart c = true) :
    isIdentChar c = true := by
  simp only [isIdentStart, Bool.or_eq_true] at h
  rcases h with h | h <;> simp [isIdentChar, Char.isAlphanum, h]

/-- The codes of letters and of the underscore. -/
theorem code_of_isIdentStart {c : Char} (h : isIdentStart c = true) :
    (65 ≤ c.toNat ∧ c.toNat ≤ 90) ∨ (97 ≤ c.toNat ∧ c.toNat ≤ 122) ∨ c.toNat = 95 := by
  change (decide (65 ≤ c.val ∧ c.val ≤ 90) ||
    (decide (97 ≤ c.val) && decide (c.val ≤ 122)) || c == '_') = true at h
  simp only [Bool.or_eq_true, Bool.and_eq_true, decide_eq_true_eq, beq_iff_eq] at h
  rcases h with (hupper | hlower) | rfl
  · exact .inl hupper
  · exact .inr (.inl hlower)
  · exact .inr (.inr rfl)

/-- There are five blanks. -/
theorem not_isBlank_of_apart {accept : Char → Bool} {c : Char} (hc : accept c = true)
    (h : [' ', '\t', '\n', '\r', '\x0c'].any accept = false) : isBlank c = false := by
  cases hblank : isBlank c with
  | false => rfl
  | true =>
    simp only [isBlank, Bool.or_eq_true, beq_iff_eq] at hblank
    rw [List.any_eq_false] at h
    rcases hblank with (((rfl | rfl) | rfl) | rfl) | rfl <;> exact absurd hc (h _ (by simp))

theorem not_isBlank_of_isIdentChar {c : Char} (h : isIdentChar c = true) :
    isBlank c = false :=
  not_isBlank_of_apart h (by decide)

/-- A property that tells two characters apart. -/
theorem ne_of_apart {accept : Char → Bool} {c d : Char} (hc : accept c = true)
    (hd : accept d = false) : c ≠ d := by
  rintro rfl
  simp [hc] at hd

section Blanks

theorem dropBlanks_nil : dropBlanks [] = [] := by rw [dropBlanks]

theorem dropBlanks_blank {c : Char} {rest : List Char} (h : isBlank c = true) :
    dropBlanks (c :: rest) = dropBlanks rest := by
  rw [dropBlanks, if_pos h]

theorem dropBlanks_append {gap text : List Char} (h : gap.all isBlank = true) :
    dropBlanks (gap ++ text) = dropBlanks text := by
  induction gap with
  | nil => rfl
  | cons c tail ih =>
    rw [List.all_cons, Bool.and_eq_true] at h
    rw [List.cons_append, dropBlanks_blank h.1, ih h.2]

theorem startsToken_cons {c : Char} {rest : List Char} :
    StartsToken (c :: rest) ↔ isTokenStart c = true := by
  simp [StartsToken]

theorem StartsToken.append {text : List Char} (h : StartsToken text) (more : List Char) :
    StartsToken (text ++ more) := by
  obtain ⟨c, rest, rfl, hc⟩ := h
  exact ⟨c, rest ++ more, rfl, hc⟩

theorem isTokenStart_iff {c : Char} : isTokenStart c = true ↔ isBlank c = false ∧ c ≠ '#' := by
  simp [isTokenStart]

theorem startsToken_of_isIdentChar {c : Char} {rest : List Char} (h : isIdentChar c = true) :
    StartsToken (c :: rest) :=
  startsToken_cons.mpr
    (isTokenStart_iff.mpr ⟨not_isBlank_of_isIdentChar h, ne_of_apart h (by decide)⟩)

/-- Nothing is dropped before a token. -/
theorem StartsToken.dropBlanks {text : List Char} (h : StartsToken text) :
    dropBlanks text = text := by
  obtain ⟨c, rest, rfl, hc⟩ := h
  obtain ⟨hblank, hhash⟩ := isTokenStart_iff.mp hc
  rw [RuleText.dropBlanks, hblank, if_neg (by simp), if_neg hhash]

theorem dropBlanks_cons {c : Char} {rest : List Char} (h : isTokenStart c = true) :
    dropBlanks (c :: rest) = c :: rest :=
  (startsToken_cons.mpr h).dropBlanks

theorem StartsToken.dropBlanks_space {text : List Char} (h : StartsToken text) :
    RuleText.dropBlanks (' ' :: text) = text := by
  rw [dropBlanks_blank (by decide), h.dropBlanks]

theorem dropBlanks_space {c : Char} {rest : List Char} (hc : isTokenStart c = true) :
    dropBlanks (' ' :: c :: rest) = c :: rest :=
  (startsToken_cons.mpr hc).dropBlanks_space

/-- The end of a line, or of the text. -/
def EndsLine (text : List Char) : Prop :=
  text = [] ∨ (∃ rest, text = '\n' :: rest) ∨ ∃ rest, text = '\r' :: '\n' :: rest

/-- Characters that do not end a line. -/
def Inline (words : List Char) : Prop := ∀ c ∈ words, c ≠ '\n' ∧ c ≠ '\r'

theorem inline_of_not_mem {words : List Char} (hline : '\n' ∉ words) (hreturn : '\r' ∉ words) :
    Inline words :=
  fun _ hc => ⟨fun heq => hline (heq ▸ hc), fun heq => hreturn (heq ▸ hc)⟩

/-- A comment runs to the end of its line. -/
theorem afterComment?_eq_some {text tail : List Char} :
    afterComment? text = some tail ↔
      ∃ words, text = words ++ tail ∧ Inline words ∧ EndsLine tail := by
  constructor
  · intro h
    induction text with
    | nil =>
      rw [afterComment?, Option.some.injEq] at h
      subst h
      exact ⟨[], rfl, by simp [Inline], .inl rfl⟩
    | cons c rest ih =>
      rw [afterComment?] at h
      split at h
      · rename_i hline
        subst hline
        cases h
        exact ⟨[], rfl, by simp [Inline], .inr (.inl ⟨rest, rfl⟩)⟩
      · rename_i hline
        split at h
        · rename_i hreturn
          subst hreturn
          split at h
          · rename_i hhead
            cases h
            obtain ⟨more, rfl⟩ := List.head?_eq_some_iff.mp hhead
            exact ⟨[], rfl, by simp [Inline], .inr (.inr ⟨more, rfl⟩)⟩
          · cases h
        · rename_i hreturn
          obtain ⟨words, rfl, hwords, htail⟩ := ih h
          exact ⟨c :: words, rfl, List.forall_mem_cons.mpr ⟨⟨hline, hreturn⟩, hwords⟩, htail⟩
  · rintro ⟨words, rfl, hwords, htail⟩
    induction words with
    | nil => rcases htail with rfl | ⟨rest, rfl⟩ | ⟨rest, rfl⟩ <;> simp [afterComment?]
    | cons c words ih =>
      obtain ⟨⟨hline, hreturn⟩, hrest⟩ := List.forall_mem_cons.mp hwords
      rw [List.cons_append, afterComment?, if_neg hline, if_neg hreturn]
      exact ih hrest

theorem suffix_of_afterComment? {text rest : List Char} (h : afterComment? text = some rest) :
    rest <:+ text := by
  obtain ⟨words, rfl, _⟩ := afterComment?_eq_some.mp h
  exact List.suffix_append words rest

theorem dropBlanks_comment {rest tail : List Char} (h : afterComment? rest = some tail) :
    dropBlanks ('#' :: rest) = dropBlanks tail := by
  rw [dropBlanks, if_neg (by decide), if_pos rfl]
  split
  · rename_i other hother
    rw [h, Option.some.injEq] at hother
    rw [hother]
  · rename_i hother
    rw [h] at hother
    cases hother

theorem dropBlanks_no_comment {rest : List Char} (h : afterComment? rest = none) :
    dropBlanks ('#' :: rest) = '#' :: rest := by
  rw [dropBlanks, if_neg (by decide), if_pos rfl]
  split
  · rename_i other hother
    rw [h] at hother
    cases hother
  · rfl

theorem dropBlanks_suffix (text : List Char) : dropBlanks text <:+ text := by
  fun_induction dropBlanks text with
  | case1 => exact List.suffix_refl _
  | case2 c rest _ ih => exact ih.trans (List.suffix_cons c rest)
  | case3 rest tail h _ _ ih =>
    exact (ih.trans (suffix_of_afterComment? h)).trans (List.suffix_cons '#' rest)
  | case4 => exact List.suffix_refl _
  | case5 => exact List.suffix_refl _

theorem dropBlanks_idem (text : List Char) : dropBlanks (dropBlanks text) = dropBlanks text := by
  fun_induction dropBlanks text with
  | case1 => rw [dropBlanks_nil]
  | case2 _ _ _ ih => exact ih
  | case3 _ _ _ _ _ ih => exact ih
  | case4 rest h hblank =>
    rw [dropBlanks, if_neg hblank, if_pos rfl]
    split
    · simp_all
    · rfl
  | case5 c rest hblank hhash => rw [dropBlanks, if_neg hblank, if_neg hhash]

theorem blanks_eq (text : List Char) : blanks text = .done () (dropBlanks text) := rfl

theorem yields_blanks : Yields (fun _ => True) blanks := by
  rintro text u rest ⟨⟩
  exact ⟨dropBlanks_suffix text, trivial⟩

end Blanks

section Words

/-- An identifier begins like one and goes on like one. -/
theorem isIdentifier_iff {word : String} :
    isIdentifier word = true ↔
      ∃ c rest, word.toList = c :: rest ∧ isIdentStart c = true ∧
        ∀ d ∈ word.toList, isIdentChar d = true := by
  unfold isIdentifier
  cases word.toList with
  | nil => simp
  | cons c rest =>
    simp only [Bool.and_eq_true, List.all_eq_true, List.mem_cons, forall_eq_or_imp]
    constructor
    · rintro ⟨hstart, hrest⟩
      exact ⟨c, rest, rfl, hstart, isIdentChar_of_isIdentStart hstart, hrest⟩
    · rintro ⟨_, _, ⟨⟩, hstart, _, hrest⟩
      exact ⟨hstart, hrest⟩

theorem takeWhile_append_of_endsWord {word rest : List Char}
    (hword : ∀ c ∈ word, isIdentChar c = true) (hrest : EndsWord rest) :
    (word ++ rest).takeWhile isIdentChar = word ∧
      (word ++ rest).dropWhile isIdentChar = rest := by
  have hnone : rest.takeWhile isIdentChar = [] ∧ rest.dropWhile isIdentChar = rest := by
    cases rest with
    | nil => simp
    | cons c tail => simp [endsWord_cons.mp hrest]
  rw [List.takeWhile_append_of_pos hword, List.dropWhile_append_of_pos hword, hnone.1, hnone.2,
    List.append_nil]
  exact ⟨rfl, rfl⟩

theorem endsWord_dropWhile (text : List Char) : EndsWord (text.dropWhile isIdentChar) := by
  intro c hc
  have := List.head?_dropWhile_not isIdentChar text
  rw [Option.mem_def.mp hc] at this
  simpa using this

/-- The run of identifier starts and the run behind it are one run of identifier
characters. -/
theorem takeWhile_start_append (text : List Char) :
    text.takeWhile isIdentStart ++ (text.dropWhile isIdentStart).takeWhile isIdentChar =
        text.takeWhile isIdentChar ∧
      (text.dropWhile isIdentStart).dropWhile isIdentChar = text.dropWhile isIdentChar := by
  induction text with
  | nil => simp
  | cons c rest ih =>
    cases hstart : isIdentStart c with
    | false => simp [hstart]
    | true => simp [hstart, isIdentChar_of_isIdentStart hstart, ih]

/-- An identifier is read to its end. -/
theorem ident_eq_done {text rest : List Char} {word : String} :
    ident text = .done word rest ↔
      isIdentifier word = true ∧ text = word.toList ++ rest ∧ EndsWord rest := by
  have hrun : ident text = .done word rest ↔
      text.takeWhile isIdentStart ≠ [] ∧
        word = String.ofList (text.takeWhile isIdentChar) ∧
        rest = text.dropWhile isIdentChar := by
    unfold ident
    simp only [bind_eq, pure_eq, bind_eq_done, run1_eq_done, run, Reply.done.injEq, give_eq_done]
    rw [← (takeWhile_start_append text).1, ← (takeWhile_start_append text).2]
    constructor
    · rintro ⟨_, _, ⟨hne, rfl, rfl⟩, _, _, ⟨rfl, rfl⟩, rfl, rfl⟩
      exact ⟨hne, rfl, rfl⟩
    · rintro ⟨hne, rfl, rfl⟩
      exact ⟨_, _, ⟨hne, rfl, rfl⟩, _, _, ⟨rfl, rfl⟩, rfl, rfl⟩
  rw [hrun]
  constructor
  · rintro ⟨hne, rfl, rfl⟩
    refine ⟨?_, by simp, endsWord_dropWhile text⟩
    cases text with
    | nil => simp at hne
    | cons c tail =>
      have hstart : isIdentStart c = true := by
        cases hc : isIdentStart c with
        | true => rfl
        | false => simp [hc] at hne
      have hchar := isIdentChar_of_isIdentStart hstart
      simp [isIdentifier, hchar, hstart]
  · rintro ⟨hword, rfl, hends⟩
    obtain ⟨c, tail, hcons, hstart, hall⟩ := isIdentifier_iff.mp hword
    obtain ⟨htake, hdrop⟩ := takeWhile_append_of_endsWord hall hends
    rw [htake, hdrop, hcons]
    refine ⟨by simp [hstart], ?_, rfl⟩
    rw [← hcons, String.ofList_toList]

theorem refuses_ident {text : List Char} :
    Refuses ident text ↔ ∀ c ∈ text.head?, isIdentStart c = false := by
  unfold ident
  simp only [bind_eq, pure_eq, refuses_bind, refuses_run1]
  constructor
  · rintro (h | ⟨_, _, _, h⟩)
    · exact h
    · simp [Refuses, run, give] at h
  · exact Or.inl

theorem ident_append {word : String} {rest : List Char} (hword : isIdentifier word = true)
    (hrest : EndsWord rest) : ident (word.toList ++ rest) = .done word rest :=
  ident_eq_done.mpr ⟨hword, rfl, hrest⟩

/-- A keyword is read where it stands and no identifier character follows. -/
theorem keyword_eq_done {word : String} {text rest : List Char} {u : Unit} :
    keyword word text = .done u rest ↔ text = word.toList ++ rest ∧ EndsWord rest := by
  unfold keyword
  simp only [bind_eq, bind_eq_done, exactly_eq_done, notFollowedBy_eq_done, refuses_satisfy]
  constructor
  · rintro ⟨_, _, rfl, hends, rfl⟩
    exact ⟨rfl, hends⟩
  · rintro ⟨rfl, hends⟩
    exact ⟨(), rest, rfl, hends, rfl⟩

theorem keyword_append (word : String) {rest : List Char} (hrest : EndsWord rest) :
    keyword word (word.toList ++ rest) = .done () rest :=
  keyword_eq_done.mpr ⟨rfl, hrest⟩

/-- A keyword that does not stand there is refused. -/
theorem refuses_keyword {word : String} {text : List Char} :
    Refuses (keyword word) text ↔ ¬∃ rest, text = word.toList ++ rest ∧ EndsWord rest := by
  unfold keyword
  simp only [bind_eq, refuses_bind, refuses_exactly, exactly_eq_done]
  constructor
  · rintro (h | ⟨_, mid, rfl, h⟩) ⟨rest, htext, hends⟩
    · exact h ⟨rest, htext.symm⟩
    · rw [List.append_cancel_left htext] at h
      have hdone : notFollowedBy (satisfy isIdentChar) rest = .done () rest :=
        notFollowedBy_eq_done.mpr ⟨refuses_satisfy.mpr hends, rfl⟩
      exact h.ne_done hdone
  · intro h
    by_cases hprefix : word.toList <+: text
    · obtain ⟨rest, rfl⟩ := hprefix
      refine .inr ⟨(), rest, rfl, ?_⟩
      have hnot : ¬EndsWord rest := fun hends => h ⟨rest, rfl, hends⟩
      cases rest with
      | nil => simp at hnot
      | cons c tail =>
        have hc : isIdentChar c = true := by simpa using hnot
        simp [Refuses, notFollowedBy, satisfy, hc]
    · exact .inl hprefix

/-- Where an identifier stands, other words are refused. -/
theorem refuses_keyword_of_ident {word other : String} {text rest : List Char}
    (hother : other.toList.all isIdentChar = true) (hword : ident text = .done word rest)
    (hne : word ≠ other) : Refuses (keyword other) text := by
  rw [refuses_keyword]
  rintro ⟨tail, htext, htail⟩
  obtain ⟨hident, rfl, hends⟩ := ident_eq_done.mp hword
  obtain ⟨_, _, _, _, hall⟩ := isIdentifier_iff.mp hident
  have hfirst := (takeWhile_append_of_endsWord hall hends).1
  have hsecond := (takeWhile_append_of_endsWord (List.all_eq_true.mp hother) htail).1
  rw [htext, hsecond] at hfirst
  exact hne (String.toList_inj.mp hfirst.symm)

/-- A keyword is refused at a text that begins with another character. -/
theorem refuses_keyword_of_head {word : String} {text : List Char} {c : Char}
    (hword : word.toList.head? = some c) (htext : text.head? ≠ some c) :
    Refuses (keyword word) text := by
  rw [refuses_keyword]
  rintro ⟨rest, rfl, _⟩
  cases hlist : word.toList with
  | nil => simp [hlist] at hword
  | cons d tail =>
    rw [hlist] at hword
    simp [hlist] at htext hword
    exact htext hword

theorem name_eq_done {text rest : List Char} {word : String} :
    name text = .done word rest ↔
      (isIdentifier word = true ∧ reserved.contains word = false) ∧
        text = word.toList ++ rest ∧ EndsWord rest := by
  rw [name, check_eq_done, ident_eq_done, Bool.not_eq_true']
  exact and_right_comm

theorem refuses_name {text : List Char} :
    Refuses name text ↔
      Refuses ident text ∨ ∃ word rest, ident text = .done word rest ∧
        reserved.contains word = true := by
  rw [name, refuses_check]
  simp only [Bool.not_eq_false']

theorem ident_of_name {text rest : List Char} {word : String}
    (h : name text = .done word rest) : ident text = .done word rest :=
  (check_eq_done.mp h).1

/-- A reserved word is refused where a name stands. -/
theorem refuses_keyword_of_name {word other : String} {text rest : List Char}
    (hother : other ∈ reserved) (h : name text = .done word rest) :
    Refuses (keyword other) text := by
  obtain ⟨⟨_, hreserved⟩, _, _⟩ := name_eq_done.mp h
  have hchars : ∀ other ∈ reserved, other.toList.all isIdentChar = true := by decide
  refine refuses_keyword_of_ident (hchars other hother) (ident_of_name h) ?_
  rintro rfl
  simp [hother] at hreserved

theorem startsToken_of_isIdentifier {word : String} (h : isIdentifier word = true) :
    StartsToken word.toList := by
  obtain ⟨c, rest, hcons, hstart, _⟩ := isIdentifier_iff.mp h
  rw [hcons]
  exact startsToken_of_isIdentChar (isIdentChar_of_isIdentStart hstart)

theorem yields_ident : Yields (fun word => isIdentifier word = true) ident := by
  intro text word rest hdone
  obtain ⟨hword, rfl, _⟩ := ident_eq_done.mp hdone
  exact ⟨List.suffix_append _ _, hword⟩

theorem consumes_ident : Consumes ident := by
  intro text word rest hdone
  obtain ⟨hword, rfl, _⟩ := ident_eq_done.mp hdone
  obtain ⟨c, tail, hcons, _, _⟩ := isIdentifier_iff.mp hword
  rw [hcons, List.cons_append, List.length_cons, List.length_append]
  omega

theorem yields_name :
    Yields (fun word => isIdentifier word = true ∧ reserved.contains word = false) name :=
  (yields_check yields_ident).mono fun _ ⟨hident, hreserved⟩ => ⟨hident, by simpa using hreserved⟩

theorem yields_keyword {word : String} : Yields (fun _ => True) (keyword word) :=
  yields_bind yields_exactly fun _ _ => yields_notFollowedBy

theorem consumes_keyword {word : String} (h : word.toList ≠ []) : Consumes (keyword word) :=
  consumes_bind (consumes_exactly h) fun _ => yields_notFollowedBy

end Words

end FormRules.RuleText
