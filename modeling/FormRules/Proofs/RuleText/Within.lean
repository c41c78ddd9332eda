import FormRules.Proofs.RuleText.LocalRule

/-!
Readers stay inside their text. Wherever a reader ends, and wherever it stops for an error,
what is left is an end of the text (`Within`). This passes from readers to what is composed of
them, so it holds of the whole grammar (`within_rules`, `within_wholeCondition`).
-/

namespace FormRules.RuleText

/-- What is left of the text when reading ends or stops. -/
def Reply.rest {α : Type} : Reply α → List Char
  | .done _ rest => rest
  | .failed failure => failure.rest

open Reader

variable {α β γ : Type}

/-- What is left is an end of the text, whether reading goes well or not. -/
def Within (p : Reader α) : Prop := ∀ text, (p text).rest <:+ text

theorem Within.of_done {p : Reader α} {text rest : List Char} {v : α} (h : Within p)
    (hdone : p text = .done v rest) : rest <:+ text := by
  have hrest := h text
  rwa [hdone] at hrest

theorem Within.of_failed {p : Reader α} {text : List Char} {failure : Failure} (h : Within p)
    (hfailed : p text = .failed failure) : failure.rest <:+ text := by
  have hrest := h text
  rwa [hfailed] at hrest

theorem Within.yields {p : Reader α} (h : Within p) : Yields (fun _ => True) p :=
  fun _ _ _ hdone => ⟨h.of_done hdone, trivial⟩

section Combinators

variable {p q : Reader α}

theorem within_give {v : α} : Within (give v) := fun text => List.suffix_refl text

theorem within_abort : Within (abort : Reader α) := fun text => List.suffix_refl text

theorem within_bind {f : α → Reader β} (hp : Within p) (hf : ∀ v, Within (f v)) :
    Within (Reader.bind p f) := by
  intro text
  unfold Reader.bind
  cases hv : p text with
  | done v mid => exact (hf v mid).trans (hp.of_done hv)
  | failed failure => exact hp.of_failed hv

/-- A reader that leaves what another one leaves. -/
theorem Within.congr {q : Reader β} (h : Within p) (hrest : ∀ text, (q text).rest = (p text).rest) :
    Within q := by
  intro text
  rw [hrest]
  exact h text

theorem within_map {f : α → β} (h : Within p) : Within (map f p) :=
  h.congr fun text => by unfold map; cases p text <;> rfl

theorem within_commit (h : Within p) : Within (commit p) :=
  h.congr fun text => by unfold commit; cases p text <;> rfl

theorem within_label {l : Label} (h : Within p) : Within (label l p) :=
  h.congr fun text => by unfold label; cases p text <;> rfl

theorem within_satisfy {accept : Char → Bool} : Within (satisfy accept) := by
  intro text
  cases text with
  | nil => exact List.suffix_refl []
  | cons c rest =>
    rw [satisfy]
    split
    · exact List.suffix_cons c rest
    · exact List.suffix_refl _

theorem within_char {c : Char} : Within (char c) := within_satisfy

theorem within_exactly {word : List Char} : Within (exactly word) := by
  intro text
  unfold exactly
  split
  · exact List.drop_suffix _ _
  · exact List.suffix_refl text

theorem within_run {accept : Char → Bool} : Within (run accept) :=
  fun _ => List.dropWhile_suffix accept

theorem within_run1 {accept : Char → Bool} : Within (run1 accept) := by
  intro text
  unfold run1
  split
  · exact List.suffix_refl text
  · exact List.dropWhile_suffix accept

theorem within_orElse (hp : Within p) (hq : Within q) : Within (orElse p q) := by
  intro text
  unfold orElse
  cases hv : p text with
  | done v rest => exact hp.of_done hv
  | failed failure =>
    dsimp only
    split
    · exact hp.of_failed hv
    · exact hq text

theorem within_optional (h : Within p) : Within (optional p) := by
  intro text
  unfold Reader.optional
  cases hv : p text with
  | done v rest => exact h.of_done hv
  | failed failure =>
    dsimp only
    split
    · exact h.of_failed hv
    · exact List.suffix_refl text

theorem within_notFollowedBy (h : Within p) : Within (notFollowedBy p) := by
  intro text
  unfold notFollowedBy
  cases hv : p text with
  | done v rest => exact List.suffix_refl text
  | failed failure =>
    dsimp only
    split
    · exact h.of_failed hv
    · exact List.suffix_refl text

theorem within_refine {f : α → Except (Option EvalError) β} (h : Within p) :
    Within (refine f p) := by
  intro text
  unfold refine
  cases hv : p text with
  | done v rest =>
    dsimp only
    split
    · exact h.of_done hv
    · exact List.suffix_refl text
  | failed failure => exact h.of_failed hv

theorem within_after {opening : Reader β} (ho : Within opening) (hp : Within p) :
    Within (after opening p) :=
  within_bind ho fun _ => hp

theorem within_between {opening : Reader β} {closing : Reader γ} (ho : Within opening)
    (hc : Within closing) (hp : Within p) : Within (between opening closing p) :=
  within_bind ho fun _ => within_bind hp fun _ => within_bind hc fun _ => within_give

theorem within_many (h : Within p) : Within (many p) := by
  intro text
  induction hlen : text.length using Nat.strongRecOn generalizing text with
  | ind n ih =>
    rw [many]
    cases hv : p text with
    | failed failure =>
      dsimp only
      split
      · exact h.of_failed hv
      · exact List.suffix_refl text
    | done v rest =>
      have hrest : rest <:+ text := h.of_done hv
      by_cases hlt : rest.length < text.length
      · have hothers := (ih rest.length (hlen ▸ hlt) rest rfl).trans hrest
        simp only [hlt, if_true]
        cases hmany : many p rest <;> rw [hmany] at hothers <;> exact hothers
      · simp only [hlt, if_false]
        exact hrest

theorem within_separated {separator : Reader β} (hs : Within separator) (hp : Within p) :
    Within (separated separator p) := by
  intro text
  unfold separated
  cases hv : p text with
  | failed failure =>
    dsimp only
    split
    · exact hp.of_failed hv
    · exact List.suffix_refl text
  | done v rest =>
    exact (within_map (within_many (within_after hs hp)) rest).trans (hp.of_done hv)

theorem within_separated1 {separator : Reader β} (hs : Within separator) (hp : Within p) :
    Within (separated1 separator p) :=
  within_bind hp fun _ => within_map (within_many (within_after hs hp))

theorem within_onShorter {text : List Char}
    (h : ∀ inner, inner.length < text.length → (p inner).rest <:+ inner) :
    Within (onShorter p text) := by
  intro inner
  unfold onShorter
  split
  · exact h inner ‹_›
  · exact List.suffix_refl inner

/-- A reader that uses itself stays inside its text if its body passes that on. -/
theorem within_fix {body : Reader α → Reader α} (step : ∀ p, Within p → Within (body p)) :
    Within (fix body) := by
  intro text
  induction hlen : text.length using Nat.strongRecOn generalizing text with
  | ind n ih =>
    rw [fix_apply]
    refine step _ (within_onShorter fun inner hlt => ?_) text
    exact ih inner.length (hlen ▸ hlt) inner rfl

end Combinators

section Tokens

theorem within_blanks : Within blanks := dropBlanks_suffix

theorem within_keyword {word : String} : Within (keyword word) :=
  within_bind within_exactly fun _ => within_notFollowedBy within_satisfy

theorem within_ident : Within ident :=
  within_bind within_run1 fun _ => within_bind within_run fun _ => within_give

theorem within_name : Within name := within_refine within_ident

theorem within_stringBody : Within stringBody := by
  intro text
  fun_induction stringBody text with
  | case1 => exact List.suffix_refl []
  | case2 rest => exact List.suffix_cons _ _
  | case3 => exact List.nil_suffix
  | case4 escaped rest chars tail h _ ih =>
    rw [h] at ih
    exact (ih.trans (List.suffix_cons escaped rest)).trans (List.suffix_cons _ _)
  | case5 escaped rest failure h _ ih =>
    rw [h] at ih
    exact (ih.trans (List.suffix_cons escaped rest)).trans (List.suffix_cons _ _)
  | case6 c rest _ _ chars tail h ih =>
    rw [h] at ih
    exact ih.trans (List.suffix_cons c rest)
  | case7 c rest _ _ failure h ih =>
    rw [h] at ih
    exact ih.trans (List.suffix_cons c rest)

theorem within_quotedString : Within quotedString :=
  within_bind within_char fun _ => within_bind within_stringBody fun _ => within_give

theorem within_number : Within number := by
  have hfraction : Within fraction := within_bind within_char fun _ => within_run1
  refine within_bind (within_optional within_char) fun sign => ?_
  refine within_bind within_run1 fun whole => ?_
  refine within_bind (within_optional hfraction) fun decimals => ?_
  cases decimals with
  | some digits => exact within_give
  | none =>
    dsimp only
    split
    · exact within_give
    · exact within_abort

theorem within_positiveDigits : Within positiveDigits :=
  within_bind within_satisfy fun _ => within_bind within_run fun _ => within_give

theorem within_int32 : Within int32 := by
  have hsigned : Within signed := within_bind (within_optional within_satisfy) fun _ =>
    within_bind within_positiveDigits fun _ => within_give
  exact within_refine (within_orElse hsigned (within_map within_char))

theorem within_uint64 : Within uint64 :=
  within_refine (within_orElse within_positiveDigits (within_map within_char))

theorem within_operator : Within operator := within_label (within_refine within_run1)

end Tokens

section Values

theorem within_spaced {c : Char} : Within (spaced c) := by
  unfold spaced
  exact within_bind within_blanks fun _ => within_bind within_char fun _ => within_blanks

theorem within_opening {c : Char} : Within (opening c) :=
  within_bind within_char fun _ => within_blanks

theorem within_closing {c : Char} : Within (closing c) := by
  unfold closing
  exact within_bind within_blanks fun _ =>
    within_bind (within_commit within_char) fun _ => within_give

theorem within_listEnd {c : Char} : Within (listEnd c) := by
  unfold listEnd
  refine within_bind within_blanks fun _ => ?_
  refine within_bind (within_optional (within_after within_char within_blanks)) fun _ => ?_
  exact within_bind (within_commit within_char) fun _ => within_give

theorem within_mapEntry {p : Reader Value} (h : Within p) : Within (mapEntry p) := by
  refine within_bind (within_orElse within_quotedString within_ident) fun key => ?_
  refine within_bind within_blanks fun _ => ?_
  refine within_bind (within_commit within_char) fun _ => ?_
  exact within_bind within_blanks fun _ => within_bind (within_commit h) fun _ => within_give

theorem within_listItems {p : Reader Value} (h : Within p) : Within (listItems p) :=
  within_between within_opening within_listEnd (within_separated within_spaced h)

theorem within_mapEntries {p : Reader Value} (h : Within p) : Within (mapEntries p) :=
  within_between within_opening within_listEnd
    (within_separated within_spaced (within_mapEntry h))

theorem within_literalWith {p : Reader Value} (h : Within p) : Within (literalWith p) := by
  have hword {word : String} {value : Value} : Within (map (fun _ => value) (keyword word)) :=
    within_map within_keyword
  refine within_label (within_orElse (within_map within_quotedString) ?_)
  refine within_orElse hword (within_orElse hword (within_orElse hword ?_))
  exact within_orElse within_number
    (within_orElse (within_map (within_listItems h)) (within_map (within_mapEntries h)))

theorem within_literal : Within literal := within_fix fun _ => within_literalWith

theorem within_fieldReference : Within fieldReference := by
  refine within_bind within_char fun _ => within_bind (within_commit within_ident) fun path => ?_
  split <;> exact within_give

theorem within_contextReference : Within contextReference :=
  within_bind within_char fun _ => within_bind (within_commit within_ident) fun _ => within_give

theorem within_functionCall {p : Reader Expr} (h : Within p) : Within (functionCall p) :=
  within_bind within_ident fun _ =>
    within_bind (within_between within_opening within_closing (within_separated within_spaced h))
      fun _ => within_give

theorem within_exprWith {p : Reader Expr} (h : Within p) : Within (exprWith p) := by
  refine within_bind within_blanks fun _ => within_label ?_
  refine within_orElse within_fieldReference (within_orElse within_contextReference ?_)
  exact within_orElse (within_map within_literal) (within_functionCall h)

theorem within_expr : Within expr := within_fix fun _ => within_exprWith

end Values

section Conditions

variable {p : Reader Condition}

theorem within_comparison : Within comparison := by
  have htransform : Within transformName := within_after within_spaced (within_commit within_ident)
  refine within_bind within_name fun field => ?_
  refine within_bind (within_optional htransform) fun transform => ?_
  refine within_bind within_blanks fun _ => ?_
  refine within_bind (within_commit within_operator) fun op => ?_
  split
  · exact within_give
  · exact within_bind (within_commit within_expr) fun _ => within_give

theorem within_connectiveWord {upper lower : String} : Within (connectiveWord upper lower) := by
  unfold connectiveWord
  exact within_bind within_blanks fun _ => within_orElse within_keyword within_keyword

theorem within_chain {word : Reader Unit} {join : Condition → Condition → Condition}
    (hword : Within word) (h : Within p) : Within (chain word join p) :=
  within_bind h fun _ =>
    within_bind (within_many (within_after hword (within_commit h))) fun _ => within_give

theorem within_conditionWith (h : Within p) : Within (conditionWith p) := by
  unfold conditionWith
  exact within_bind within_blanks fun _ =>
    within_chain within_connectiveWord (within_chain within_connectiveWord h)

theorem within_grouped (h : Within p) : Within (grouped p) :=
  within_between within_char within_closing (within_conditionWith h)

theorem within_primary (h : Within p) : Within (primary p) := by
  unfold primary
  exact within_bind within_blanks fun _ =>
    within_label (within_orElse (within_grouped h) within_comparison)

theorem within_negationWord : Within negationWord := within_orElse within_keyword within_keyword

theorem within_unaryWith (h : Within p) : Within (unaryWith p) := by
  unfold unaryWith
  refine within_bind within_blanks fun _ =>
    within_bind (within_optional within_negationWord) fun negation => ?_
  cases negation with
  | some _ => exact within_map (within_commit h)
  | none => exact within_primary h

theorem within_unary : Within unary := within_fix fun _ => within_unaryWith

theorem within_andChain : Within andChain := within_chain within_connectiveWord within_unary

theorem within_condition : Within condition := within_conditionWith within_unary

theorem within_wholeCondition : Within wholeCondition :=
  within_bind within_condition fun _ => within_bind within_blanks fun _ => within_give

end Conditions

section Rules

theorem within_target : Within target := within_optional (within_after within_blanks within_name)

theorem within_assigned : Within assigned := within_after within_spaced (within_commit within_expr)

theorem within_quoted : Within quoted :=
  within_label (within_after within_blanks (within_commit within_quotedString))

theorem within_params : Within params :=
  within_map (within_between within_spaced within_closing
    (within_separated within_spaced (within_mapEntry within_literal)))

theorem ActionShape.within {p : Reader Action} (h : ActionShape p) : Within p := by
  cases h with
  | targeted kind _ => exact within_bind within_target fun _ => within_give
  | withExpr kind _ =>
    exact within_bind within_target fun _ => within_bind within_assigned fun _ => within_give
  | withText kind _ =>
    exact within_bind within_target fun _ => within_bind within_quoted fun _ => within_give
  | custom =>
    refine within_bind (within_after within_blanks (within_commit within_ident)) fun _ => ?_
    refine within_bind (within_optional within_params) fun _ => ?_
    exact within_bind (within_optional within_assigned) fun _ => within_give
  | unknown => exact within_abort

theorem within_action : Within action := by
  unfold action
  exact within_bind within_blanks fun _ =>
    within_bind (within_label within_ident) fun word => (actionShape word).within

theorem within_ruleNote : Within ruleNote := by
  refine within_between within_spaced within_closing (within_label (within_commit ?_))
  refine within_orElse ?priority (within_orElse ?debounce (within_map within_keyword))
  case priority =>
    exact within_map (within_after within_keyword (within_after within_blanks within_int32))
  case debounce =>
    exact within_map (within_after within_keyword (within_after within_blanks within_uint64))

theorem within_comma : Within comma := by
  unfold comma
  exact within_bind within_blanks fun _ => within_bind within_char fun _ => within_give

theorem within_ruleBody (finish : Condition → List Action → Rule) : Within (ruleBody finish) := by
  have hthen : Within (Reader.bind blanks fun _ => commit (keyword "then")) :=
    within_bind within_blanks fun _ => within_commit within_keyword
  unfold ruleBody
  refine within_bind within_blanks fun _ => within_bind (within_commit within_char) fun _ => ?_
  refine within_bind within_blanks fun _ => ?_
  refine within_bind (within_label (within_commit within_keyword)) fun _ => ?_
  refine within_bind (within_commit within_condition) fun condition => ?_
  refine within_bind (within_label hthen) fun _ => ?_
  exact within_bind (within_commit (within_separated1 within_comma within_action)) fun _ =>
    within_give

theorem within_ruleAfter : Within ruleAfter := by
  have htitle : Within titleReader := within_after within_blanks within_quotedString
  have hword : Within onWord := by
    unfold onWord
    exact within_bind within_blanks fun _ => within_bind within_keyword fun _ => within_blanks
  have hsubject : Within subjectReader := within_after hword (within_commit within_name)
  refine within_bind (within_label (within_commit within_name)) fun id => ?_
  refine within_bind (within_optional htitle) fun title => ?_
  refine within_bind (within_optional hsubject) fun subject => ?_
  exact within_bind (within_many within_ruleNote) fun notes => within_ruleBody _

theorem within_rule : Within rule := by
  rw [rule_eq_after]
  exact within_after within_blanks
    (within_after within_keyword (within_after within_blanks within_ruleAfter))

theorem within_rules : Within rules :=
  within_bind (within_many within_rule) fun _ => within_bind within_blanks fun _ => within_give

end Rules

end FormRules.RuleText
