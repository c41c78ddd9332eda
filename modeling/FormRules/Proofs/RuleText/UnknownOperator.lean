import FormRules.Proofs.RuleText.Position
import FormRules.Proofs.RuleText.Precedence

/-!
Unknown operators. A word that is no operator stops the reading of a condition for good, and
groups and negations around the comparison pass this on as it is (`Opening.stops`). So the error
names the word and its place, however deep the comparison stands
(`readCondition_unknown_operator`).
-/

namespace FormRules.RuleText

open Reader

section Stopping

variable {α β : Type} {p q : Reader α} {text mid rest : List Char} {cause : EvalError}

/-- Reading stops for good before some text, for a cause. -/
def Stops (p : Reader α) (text rest : List Char) (cause : EvalError) : Prop :=
  ∃ labels, p text = .failed { rest, isFinal := true, labels, cause := some cause }

namespace Stops

theorem congr {other : List Char} (h : Stops p text rest cause) (heq : q other = p text) :
    Stops q other rest cause := by
  rw [Stops, heq]
  exact h

theorem bind {f : α → Reader β} (h : Stops p text rest cause) :
    Stops (Reader.bind p f) text rest cause := by
  obtain ⟨labels, hp⟩ := h
  exact ⟨labels, by simp [Reader.bind, hp]⟩

theorem behind {f : α → Reader β} {v : α} (hp : p text = .done v mid)
    (h : Stops (f v) mid rest cause) : Stops (Reader.bind p f) text rest cause :=
  h.congr (bind_of_done hp)

theorem map {f : α → β} (h : Stops p text rest cause) :
    Stops (Reader.map f p) text rest cause := by
  obtain ⟨labels, hp⟩ := h
  exact ⟨labels, by simp [Reader.map, hp]⟩

theorem commit (h : Stops p text rest cause) : Stops (Reader.commit p) text rest cause := by
  obtain ⟨labels, hp⟩ := h
  exact ⟨labels, by simp [Reader.commit, hp]⟩

theorem label {l : Label} (h : Stops p text rest cause) :
    Stops (Reader.label l p) text rest cause := by
  obtain ⟨labels, hp⟩ := h
  exact ⟨labels ++ [l], by simp [Reader.label, hp]⟩

/-- No alternative is tried. -/
theorem orElse (h : Stops p text rest cause) : Stops (Reader.orElse p q) text rest cause := by
  obtain ⟨labels, hp⟩ := h
  exact ⟨labels, by simp [Reader.orElse, hp]⟩

theorem chain {word : Reader Unit} {join : Condition → Condition → Condition}
    {part : Reader Condition} (h : Stops part text rest cause) :
    Stops (chain word join part) text rest cause :=
  h.bind

end Stops

end Stopping

/-- Parentheses and words of negations, each with a gap behind it. -/
inductive Opening : List Char → Prop where
  | nil : Opening []
  | paren {gap more : List Char} :
      Gap gap → gap ≠ [] → Opening more → Opening ('(' :: (gap ++ more))
  | negation {word : String} {gap more : List Char} : word ∈ ["NOT", "not"] →
      Gap gap → gap ≠ [] → Opening more → Opening (word.toList ++ (gap ++ more))

/-- A field and a gap, and where its operator should stand a word that is none. -/
structure LacksOperator (field : String) (gap word rest : List Char) : Prop where
  identifier : isIdentifier field = true
  not_reserved : field ∉ reserved
  skipped : Gap gap
  gap_ne : gap ≠ []
  word_ne : word ≠ []
  word_chars : ∀ c ∈ word, isOperatorChar c = true
  word_ends : ∀ c ∈ rest.head?, isOperatorChar c = false
  unknown : ∀ op : Operator, op.name ≠ String.ofList word

section Comparisons

variable {field : String} {gap word rest : List Char}

namespace LacksOperator

theorem stops_operator (h : LacksOperator field gap word rest) :
    Stops (commit operator) (word ++ rest) (word ++ rest)
      (.unknownOperator (String.ofList word)) := by
  have hrun : run1 isOperatorChar (word ++ rest) = .done word rest :=
    run1_eq_done_iff.mpr ⟨⟨h.word_ne, h.word_chars⟩, rfl, h.word_ends⟩
  have hname := Operator.ofName_eq_error h.unknown
  refine ⟨[.operator], ?_⟩
  unfold commit operator label refine
  change run1 (fun c => c.isLower || c == '_') (word ++ rest) = .done word rest at hrun
  simp only [hrun, hname, List.nil_append]

theorem startsToken_word (h : LacksOperator field gap word rest) : StartsToken (word ++ rest) := by
  cases hword : word with
  | nil => exact absurd hword h.word_ne
  | cons c tail =>
    have hc := h.word_chars c (hword ▸ List.mem_cons_self)
    exact startsToken_of_isIdentChar (isIdentChar_of_isOperatorChar hc)

theorem name_done (h : LacksOperator field gap word rest) :
    name (field.toList ++ (gap ++ (word ++ rest))) = .done field (gap ++ (word ++ rest)) := by
  have hends : EndsWord (gap ++ (word ++ rest)) :=
    h.skipped.endsWord fun hnil => absurd hnil h.gap_ne
  refine name_eq_done.mpr ⟨⟨h.identifier, ?_⟩, rfl, hends⟩
  simpa using h.not_reserved

/-- A comparison without an operator stops before the word that stands there. -/
theorem stops_comparison (h : LacksOperator field gap word rest) :
    Stops comparison (field.toList ++ (gap ++ (word ++ rest))) (word ++ rest)
      (.unknownOperator (String.ofList word)) := by
  have hdrop : dropBlanks (gap ++ (word ++ rest)) = word ++ rest := by
    rw [h.skipped.skipped, h.startsToken_word.dropBlanks]
  have hbar : (dropBlanks (gap ++ (word ++ rest))).head? ≠ some '|' := by
    rw [hdrop]
    intro hhead
    obtain ⟨c, tail, hword⟩ := List.exists_cons_of_ne_nil h.word_ne
    rw [hword] at hhead
    cases hhead
    exact absurd (h.word_chars '|' (hword ▸ List.mem_cons_self)) (by decide)
  have htail : Stops (comparisonTail field none) (gap ++ (word ++ rest)) (word ++ rest)
      (.unknownOperator (String.ofList word)) := by
    unfold comparisonTail
    refine Stops.behind (p := blanks) (blanks_eq _) ?_
    rw [hdrop]
    exact h.stops_operator.bind
  exact .behind h.name_done (.behind (optional_of_refuses (refuses_transformName hbar)) htail)

end LacksOperator

end Comparisons

section Openings

variable {field : String} {gap word rest text : List Char} {cause : EvalError}

/-- A group or a comparison is read where no word of a negation stands. -/
theorem unary_of_refuses (hstart : StartsToken text) (h : Refuses negationWord text) :
    unary text = label .condition (orElse (grouped unary) comparison) text := by
  have hunary : unary text = unaryWith unary text := congrFun unary_eq text
  rw [hunary, unaryWith_apply, hstart.dropBlanks, bind_of_done (optional_of_refuses h)]
  exact (primary_apply unary text).trans (congrArg _ hstart.dropBlanks)

theorem stops_group (hgap : Skipped gap) (h : Stops unary text rest cause) :
    Stops unary ('(' :: (gap ++ text)) rest cause := by
  have hstart : StartsToken ('(' :: (gap ++ text)) := startsToken_cons.mpr (by decide)
  have hword : Refuses negationWord ('(' :: (gap ++ text)) := refuses_negationWord_of_paren _
  have hcondition : Stops condition (gap ++ text) rest cause :=
    Stops.congr h.chain.chain (condition_gap hgap text)
  have hgrouped : Stops (grouped unary) ('(' :: (gap ++ text)) rest cause :=
    .behind (char_cons '(' _) hcondition.bind
  exact hgrouped.orElse.label.congr (unary_of_refuses hstart hword)

theorem stops_negation {spelling : String} (hspelling : spelling ∈ ["NOT", "not"]) (hgap : Gap gap)
    (hne : gap ≠ []) (h : Stops unary text rest cause) :
    Stops unary (spelling.toList ++ (gap ++ text)) rest cause := by
  have hidentifier : ∀ spelling ∈ ["NOT", "not"], isIdentifier spelling = true := by decide
  have hstart : StartsToken (spelling.toList ++ (gap ++ text)) :=
    (startsToken_of_isIdentifier (hidentifier spelling hspelling)).append _
  have hword : negationWord (spelling.toList ++ (gap ++ text)) = .done () (gap ++ text) :=
    spelling_append rfl rfl (by decide) hspelling (hgap.endsWord fun hnil => absurd hnil hne)
  have hinner : Stops unary (gap ++ text) rest cause := h.congr (unary_congr (hgap.skipped text))
  have hnegation : Stops (Reader.bind (optional negationWord) (afterNegation unary))
      (spelling.toList ++ (gap ++ text)) rest cause :=
    .behind (optional_of_done hword) hinner.commit.map
  refine hnegation.congr ((congrFun unary_eq _).trans ?_)
  rw [unaryWith_apply, hstart.dropBlanks]

theorem LacksOperator.stops_unary (h : LacksOperator field gap word rest) :
    Stops unary (field.toList ++ (gap ++ (word ++ rest))) (word ++ rest)
      (.unknownOperator (String.ofList word)) := by
  have hstart : StartsToken (field.toList ++ (gap ++ (word ++ rest))) :=
    (startsToken_of_isIdentifier h.identifier).append _
  have hgrouped : Refuses (grouped unary) (field.toList ++ (gap ++ (word ++ rest))) := by
    obtain ⟨c, tail, heq, hc⟩ := guardedBy_name.head h.name_done
    rw [heq]
    refine guardedBy_grouped _ fun d hd => ?_
    cases hd
    exact beq_false_of_ne (ne_of_apart hc (by decide))
  have hchoice := h.stops_comparison.congr (orElse_of_refuses hgrouped)
  exact hchoice.label.congr
    (unary_of_refuses hstart (refuses_negationWord_of_name h.name_done))

/-- Groups and negations pass on that reading has stopped. -/
theorem Opening.stops {lead : List Char} (hlead : Opening lead)
    (h : Stops unary text rest cause) : Stops unary (lead ++ text) rest cause := by
  induction hlead with
  | nil => exact h
  | paren hgap _ _ ih =>
    rw [List.cons_append, List.append_assoc]
    exact stops_group hgap.skipped ih
  | negation hspelling hgap hne _ ih =>
    rw [List.append_assoc, List.append_assoc]
    exact stops_negation hspelling hgap hne ih

end Openings

section Errors

variable {α : Type} {p : Reader α} {text : String} {rest : List Char} {cause : EvalError}

/-- What is written of a failure ends with its cause. -/
theorem Failure.cause_infix_detail {failure : Failure} (h : failure.cause = some cause) :
    cause.message.toList <:+: failure.detail.toList := by
  unfold Failure.detail
  rw [h]
  cases failure.labels with
  | nil => exact List.infix_refl _
  | cons l labels =>
    have hline (first second : String) :
        String.intercalate "\n" [first, second] = first ++ "\n" ++ second := rfl
    simp only [List.isEmpty_cons, Bool.false_eq_true, if_false, Option.toList_some, List.map_cons,
      List.map_nil, List.cons_append, List.nil_append, hline, String.toList_append]
    exact (List.suffix_append _ _).isInfix

/-- Where reading a whole text stops for a cause, the error tells the cause and the place. -/
theorem Stops.error {before : List Char} (h : Stops p text.toList rest cause)
    (hplace : text.toList = before ++ rest) :
    ∃ e, p.whole text = .error e ∧ cause.message.toList <:+: e.detail.toList ∧
      e.position = .behind before := by
  obtain ⟨labels, hfailed⟩ := h
  have hread : p.whole text = .error
      (.ofFailure text { rest, isFinal := true, labels, cause := some cause }) := by
    unfold whole
    rw [hfailed]
  exact ⟨_, hread, Failure.cause_infix_detail rfl, position_ofFailure hplace⟩

end Errors

/-- Whatever groups and negations a condition begins with, an unknown operator of its first
comparison is an error that names it and has the place of its first character. -/
theorem readCondition_unknown_operator {lead gap word rest : List Char} {field : String}
    (hlead : Opening lead) (h : LacksOperator field gap word rest) :
    ∃ e, readCondition (String.ofList (lead ++ (field.toList ++ (gap ++ (word ++ rest))))) =
        .error e ∧
      ("unknown operator '" ++ String.ofList word ++ "'").toList <:+: e.detail.toList ∧
      e.position = .behind (lead ++ (field.toList ++ gap)) := by
  have hunary := hlead.stops h.stops_unary
  have hread : Stops wholeCondition (lead ++ (field.toList ++ (gap ++ (word ++ rest))))
      (word ++ rest) (.unknownOperator (String.ofList word)) :=
    (hunary.chain.chain.congr (condition_gap Gap.nil.skipped _)).bind
  generalize htext : lead ++ (field.toList ++ (gap ++ (word ++ rest))) = text at hread
  have hplace : text = lead ++ (field.toList ++ gap) ++ (word ++ rest) := by
    rw [← htext]
    simp only [List.append_assoc]
  rw [← @String.toList_ofList text] at hread hplace
  exact hread.error hplace

/-- Behind two groups and a negation, with a comment between them. -/
theorem misspelled_operator_located :
    let lead := "( NOT # of all\n  ( ".toList
    Opening lead ∧ LacksOperator "total" [' '] "exceeds".toList " 100 ) )".toList ∧
      ∃ e, readCondition "( NOT # of all\n  ( total exceeds 100 ) )" = .error e ∧
        "unknown operator 'exceeds'".toList <:+: e.detail.toList ∧ e.position = ⟨2, 11⟩ := by
  have hspace : Gap [' '] := .blank (by decide) .nil
  have hcomment : Gap " # of all\n  ".toList :=
    .blank (by decide) (@Gap.comment " of all".toList "  ".toList (by decide) (by decide)
      (.blank (by decide) hspace))
  have hlead : Opening "( NOT # of all\n  ( ".toList :=
    .paren hspace (by decide) (.negation (List.mem_cons_self (a := "NOT")) hcomment (by decide)
      (.paren hspace (by decide) .nil))
  have hlacks : LacksOperator "total" [' '] "exceeds".toList " 100 ) )".toList :=
    { identifier := by decide
      not_reserved := by decide
      skipped := hspace
      gap_ne := by decide
      word_ne := by decide
      word_chars := List.all_eq_true.mp (by decide)
      word_ends := by rintro _ ⟨⟩; decide
      unknown := by intro op; cases op <;> decide }
  have htext : String.ofList ("( NOT # of all\n  ( ".toList ++ ("total".toList ++
      ([' '] ++ ("exceeds".toList ++ " 100 ) )".toList)))) =
        "( NOT # of all\n  ( total exceeds 100 ) )" := by cbv
  obtain ⟨e, hread, hdetail, hposition⟩ := readCondition_unknown_operator hlead hlacks
  rw [htext] at hread
  refine ⟨hlead, hlacks, e, hread, ?_, ?_⟩
  · rwa [String.ofList_toList] at hdetail
  · exact hposition.trans (by cbv)

end FormRules.RuleText
