import FormRules.Proofs.RuleText.Readback
import FormRules.RuleText

/-!
Reading conditions back. A comparison and a group in parentheses are read back wherever a
word may end behind them; a condition as a whole needs besides that no further `AND` or `OR`
follows (`EndsCondition`). Chains put back the children of a group, because the first child
is no group of the same connective.
-/

namespace FormRules

namespace Condition

open RuleText

/-- Conditions are joined into one group, unless the first one is such a group already. -/
theorem foldl_join {connective : Connective} {first : Condition} {others : List Condition}
    (hfirst : first.connective? ≠ some connective) (hothers : others ≠ []) :
    others.foldl (join connective) first = group connective (first :: others) := by
  have hjoin : ∀ (children rest : List Condition),
      rest.foldl (join connective) (group connective children) =
        group connective (children ++ rest) := by
    intro children rest
    induction rest generalizing children with
    | nil => simp
    | cons next tail ih => simp [join, ih]
  cases others with
  | nil => exact absurd rfl hothers
  | cons next tail =>
    have hnext : join connective first next = group connective [first, next] := by
      cases first with
      | comparison c => rfl
      | group own children =>
        have hne : own ≠ connective := by simpa [connective?] using hfirst
        rw [join, if_neg hne]
    rw [List.foldl_cons, hnext, hjoin]
    rfl

/-- The first child of a chain and the others. -/
theorem two_le_length_iff {connective : Connective} {children : List Condition} :
    (2 ≤ children.length ∧ ∀ first ∈ children.head?, first.connective? ≠ some connective) ↔
      ∃ first others, children = first :: others ∧ first.connective? ≠ some connective ∧
        others ≠ [] := by
  constructor
  · rintro ⟨hlength, hfirst⟩
    match children with
    | [] => simp at hlength
    | [_] => simp at hlength
    | first :: second :: others => exact ⟨first, second :: others, rfl, hfirst first rfl, by simp⟩
  · rintro ⟨first, others, rfl, hfirst, hothers⟩
    have hpos := List.length_pos_iff.mpr hothers
    refine ⟨by rw [List.length_cons]; omega, fun other hother => ?_⟩
    cases hother
    exact hfirst

variable {first : Condition} {others : List Condition} {rest : List Char}

theorem source_and :
    (group .and (first :: others)).source ++ rest =
      '(' :: (first.source ++
        (others.flatMap (fun x => " AND ".toList ++ x.source) ++ ')' :: rest)) := by
  rw [source, sources_eq_map, List.map_cons, joinWith_cons, List.flatMap_map]
  simp

theorem source_or :
    (group .or (first :: others)).source ++ rest =
      '(' :: (first.source ++
        (others.flatMap (fun x => " OR ".toList ++ x.source) ++ ')' :: rest)) := by
  rw [source, sources_eq_map, List.map_cons, joinWith_cons, List.flatMap_map]
  simp

end Condition

namespace RuleText

open Reader

theorem comparisonTail_source {c : Comparison} (hreadable : c.Readable)
    (hliterals : c.operand.Literals Value.Writable) {rest : List Char} (hrest : EndsWord rest) :
    comparisonTail c.field c.transform
      (' ' :: (c.operator.name.toList ++
        ((if c.operator.isUnary then [] else ' ' :: c.operand.source) ++ rest))) =
      .done (.comparison c) rest := by
  obtain ⟨field, op, operand, transform⟩ := c
  dsimp only at hliterals ⊢
  have hstart : StartsToken op.name.toList := by
    obtain ⟨hne, hchars⟩ := operator_name_chars op
    cases hname : op.name.toList with
    | nil => exact absurd hname hne
    | cons c chars =>
      exact startsToken_of_isIdentChar
        (isIdentChar_of_isOperatorChar (hchars c (hname ▸ List.mem_cons_self)))
  rw [comparisonTail_eq_done, (hstart.append _).dropBlanks_space]
  have hoperand := hreadable.operand
  dsimp only at hoperand
  cases hunary : op.isUnary with
  | true =>
    rw [hunary, if_pos rfl] at hoperand
    subst hoperand
    refine ⟨op, rest, _, operator_append hrest, ?_, rfl⟩
    rw [operandOf, hunary]
    rfl
  | false =>
    rw [hunary, if_neg (by decide)] at hoperand
    refine ⟨op, ' ' :: (operand.source ++ rest), operand,
      operator_append (endsWord_space), ?_, rfl⟩
    have hsource := expr_source hoperand hliterals rest hrest
    rw [expr_eq, exprWith_eq_done] at hsource
    rw [operandOf, hunary, if_neg (by decide), expr_eq, exprWith_eq_done,
      dropBlanks_blank (by decide)]
    exact hsource

/-- A comparison is read back from its source. -/
theorem comparison_source {c : Comparison} (hreadable : c.Readable)
    (hliterals : c.operand.Literals Value.Writable) :
    ReadsBack comparison c.source (.comparison c) := by
  intro rest hrest
  have htail := comparisonTail_source hreadable hliterals hrest
  have hname : ∀ more, EndsWord more → name (c.field.toList ++ more) = .done c.field more :=
    fun more hmore => name_eq_done.mpr ⟨hreadable.field, rfl, hmore⟩
  unfold Comparison.source
  simp only [List.append_assoc, List.cons_append]
  rw [comparison_eq_done]
  cases htransform : c.transform with
  | none =>
    rw [htransform] at htail
    exact ⟨c.field, _, hname _ (endsWord_space), .inr htail⟩
  | some word =>
    rw [htransform] at htail
    have hword : isIdentifier word = true := hreadable.transform word htransform
    refine ⟨c.field, _, hname _ (endsWord_space), .inl ⟨word, _, ?_, htail⟩⟩
    have hbar : ∀ more, spaced '|' (' ' :: '|' :: ' ' :: (word.toList ++ more)) =
        .done () (word.toList ++ more) := by
      intro more
      refine spaced_eq_done.mpr ⟨' ' :: (word.toList ++ more), ?_, ?_⟩
      · exact dropBlanks_space (by decide)
      · rw [((startsToken_of_isIdentifier hword).append more).dropBlanks_space]
    exact (bind_of_done (hbar _)).trans
      (commit_eq_done.mpr (ident_append hword (endsWord_space)))

section Chains

variable {rest : List Char}

theorem connectiveWord_eq (upper lower : String) (text : List Char) :
    connectiveWord upper lower text =
      orElse (keyword upper) (keyword lower) (dropBlanks text) := rfl

theorem refuses_connectiveWord {upper lower : String} :
    Refuses (connectiveWord upper lower) rest ↔
      Refuses (keyword upper) (dropBlanks rest) ∧ Refuses (keyword lower) (dropBlanks rest) :=
  refuses_orElse (p := keyword upper) (q := keyword lower)

/-- A connective is refused where another character stands. -/
theorem refuses_connectiveWord_of_head {upper lower : String} {u l : Char} {us ls : List Char}
    (hupper : upper.toList = u :: us) (hlower : lower.toList = l :: ls)
    (h : ∀ c ∈ (dropBlanks rest).head?, (c == u) = false ∧ (c == l) = false) :
    Refuses (connectiveWord upper lower) rest :=
  refuses_connectiveWord.mpr ⟨guardedBy_keyword hupper _ fun c hc => (h c hc).1,
    guardedBy_keyword hlower _ fun c hc => (h c hc).2⟩

theorem connectiveWord_upper (upper : String) {lower : String} (h : isIdentifier upper = true)
    (rest : List Char) :
    connectiveWord upper lower (' ' :: (upper.toList ++ ' ' :: rest)) = .done () (' ' :: rest) := by
  have hstart : StartsToken (upper.toList ++ ' ' :: rest) :=
    (startsToken_of_isIdentifier h).append _
  rw [connectiveWord_eq, hstart.dropBlanks_space]
  exact orElse_of_done (keyword_append upper (endsWord_space))

/-- Sources of conditions with a word between them are read as a chain. -/
theorem chain_flatMap {word : Reader Unit} {part : Reader Condition} {separator : List Char}
    {join : Condition → Condition → Condition} {F : List Char → Prop} {text : List Char}
    {first : Condition} {others : List Condition}
    (hfirst : ∀ more, F more → part (text ++ more) = .done first more)
    (hothers : ∀ x ∈ others, ∀ more, F more →
      after word (commit part) (separator ++ (x.source ++ more)) = .done x more)
    (hseparator : separator ≠ []) (hnext : ∀ more, F (separator ++ more)) (hrest : F rest)
    (hstop : Refuses word rest) :
    chain word join part
      (text ++ (others.flatMap (fun x => separator ++ x.source) ++ rest)) =
      .done (others.foldl join first) rest := by
  have hfollow : F (others.flatMap (fun x => separator ++ x.source) ++ rest) := by
    cases others with
    | nil => exact hrest
    | cons next tail =>
      rw [List.flatMap_cons, List.append_assoc, List.append_assoc]
      exact hnext _
  have hmany : many (after word (commit part))
      (others.flatMap (fun x => separator ++ x.source) ++ rest) = .done others rest := by
    refine many_flatMap (F := F) ?_ ?_ ?_ hrest (refuses_bind.mpr (.inl hstop))
    · intro x hx more hmore
      rw [List.append_assoc]
      exact hothers x hx more hmore
    · simp [hseparator]
    · intro x hx more
      rw [List.append_assoc]
      exact hnext _
  exact (bind_of_done (hfirst _ hfollow)).trans (bind_of_done hmany)

/-- What `AND` connects is read without regard to the blanks before it. -/
theorem unary_congr {text other : List Char} (h : dropBlanks text = dropBlanks other) :
    unary text = unary other := by
  rw [unary_eq, unaryWith_apply, unaryWith_apply, h]

theorem unary_blank (text : List Char) : unary (' ' :: text) = unary text :=
  unary_congr (dropBlanks_blank (by decide))

/-- What `OR` connects. -/
def andChain : Reader Condition := chain (connectiveWord "AND" "and") Condition.and unary

theorem andChain_congr {text other : List Char} (h : dropBlanks text = dropBlanks other) :
    andChain text = andChain other :=
  bind_of_eq (unary_congr h)

theorem andChain_blank (text : List Char) : andChain (' ' :: text) = andChain text :=
  andChain_congr (dropBlanks_blank (by decide))

theorem condition_eq (text : List Char) :
    condition text = chain (connectiveWord "OR" "or") Condition.or andChain (dropBlanks text) := rfl

/-- Nothing follows that would belong to the condition. -/
structure EndsCondition (rest : List Char) : Prop where
  endsWord : EndsWord rest
  refusesAnd : Refuses (connectiveWord "AND" "and") rest
  refusesOr : Refuses (connectiveWord "OR" "or") rest

theorem endsCondition_close (rest : List Char) : EndsCondition (')' :: rest) := by
  have hdrop : dropBlanks (')' :: rest) = ')' :: rest :=
    dropBlanks_cons (by decide)
  refine ⟨endsWord_cons.mpr (by decide), ?_, ?_⟩
  · exact refuses_connectiveWord_of_head rfl rfl (by rw [hdrop]; simp; decide)
  · exact refuses_connectiveWord_of_head rfl rfl (by rw [hdrop]; simp; decide)

variable {text : List Char} {first : Condition} {others : List Condition}

/-- Conditions with `AND` between them are read as a chain. -/
theorem andChain_flatMap (hfirst : ReadsBack unary text first)
    (hothers : ∀ x ∈ others, ReadsBack unary x.source x) (hends : EndsWord rest)
    (hstop : Refuses (connectiveWord "AND" "and") rest) :
    andChain (text ++ (others.flatMap (fun x => " AND ".toList ++ x.source) ++ rest)) =
      .done (others.foldl Condition.and first) rest := by
  refine chain_flatMap (F := EndsWord) hfirst ?_ (by decide) ?_ hends hstop
  · intro x hx more hmore
    refine (bind_of_done (connectiveWord_upper "AND" (by decide) _)).trans ?_
    rw [commit_eq_done, unary_blank]
    exact hothers x hx more hmore
  · exact fun more => endsWord_space

theorem andChain_single (h : ReadsBack unary text first) (hends : EndsWord rest)
    (hstop : Refuses (connectiveWord "AND" "and") rest) :
    andChain (text ++ rest) = .done first rest :=
  @andChain_flatMap rest text first [] h (by simp) hends hstop

/-- Conditions with `OR` between them are read as a chain. -/
theorem condition_flatMap (hstart : StartsToken text) (hfirst : ReadsBack unary text first)
    (hothers : ∀ x ∈ others, ReadsBack unary x.source x) (hends : EndsCondition rest) :
    condition (text ++ (others.flatMap (fun x => " OR ".toList ++ x.source) ++ rest)) =
      .done (others.foldl Condition.or first) rest := by
  rw [condition_eq, (hstart.append _).dropBlanks]
  refine chain_flatMap (F := fun more => EndsWord more ∧ Refuses (connectiveWord "AND" "and") more)
    ?_ ?_ (by decide) ?_ ⟨hends.endsWord, hends.refusesAnd⟩ hends.refusesOr
  · exact fun more hmore => andChain_single hfirst hmore.1 hmore.2
  · intro x hx more hmore
    refine (bind_of_done (connectiveWord_upper "OR" (by decide) _)).trans ?_
    rw [commit_eq_done, andChain_blank]
    exact andChain_single (hothers x hx) hmore.1 hmore.2
  · intro more
    refine ⟨endsWord_space, refuses_connectiveWord_of_head rfl rfl ?_⟩
    have hdrop : dropBlanks (" OR ".toList ++ more) = 'O' :: 'R' :: ' ' :: more :=
      dropBlanks_space (by decide)
    rw [hdrop]
    simp
    decide

theorem condition_single (hstart : StartsToken text) (h : ReadsBack unary text first)
    (hends : EndsCondition rest) : condition (text ++ rest) = .done first rest :=
  @condition_flatMap rest text first [] hstart h (by simp) hends

/-- A chain of `AND` alone is a condition. -/
theorem condition_andChain (hstart : StartsToken text) (hfirst : ReadsBack unary text first)
    (hothers : ∀ x ∈ others, ReadsBack unary x.source x) (hends : EndsCondition rest) :
    condition (text ++ (others.flatMap (fun x => " AND ".toList ++ x.source) ++ rest)) =
      .done (others.foldl Condition.and first) rest := by
  rw [condition_eq, (hstart.append _).dropBlanks]
  have hpart := andChain_flatMap hfirst hothers hends.endsWord hends.refusesAnd
  have hnone : many (after (connectiveWord "OR" "or") (commit andChain)) rest = .done [] rest :=
    many_of_refuses (refuses_bind.mpr (.inl hends.refusesOr))
  exact (bind_of_done hpart).trans (bind_of_done hnone)

end Chains

section Conditions

theorem startsToken_condition {c : Condition} (h : c.Readable) : StartsToken c.source := by
  cases c with
  | comparison c =>
    obtain ⟨hfield, _⟩ := (show c.Readable from h).field
    rw [Condition.source, Comparison.source, List.append_assoc, List.append_assoc]
    exact (startsToken_of_isIdentifier hfield).append _
  | group connective children =>
    cases connective <;> exact startsToken_cons.mpr (by decide)

/-- A condition in parentheses is read as it is without them. -/
theorem unary_of_grouped {text mid rest : List Char} {c : Condition}
    (h : condition text = .done c mid) (hclose : dropBlanks mid = ')' :: rest) :
    unary ('(' :: text) = .done c rest := by
  have hgrouped : grouped unary ('(' :: text) = .done c rest := by
    unfold grouped between
    rw [bind_of_done (char_cons '(' _)]
    refine (bind_of_done h).trans ?_
    rw [bind_of_done (closing_eq_done.mpr hclose)]
    rfl
  have hdrop : dropBlanks ('(' :: text) = '(' :: text :=
    dropBlanks_cons (by decide)
  rw [unary_eq, unaryWith_eq_done, hdrop]
  exact .inr (.inl hgrouped)

theorem unary_grouped {text rest : List Char} {c : Condition}
    (h : condition text = .done c (')' :: rest)) : unary ('(' :: text) = .done c rest :=
  unary_of_grouped h (dropBlanks_cons (by decide))

/-- A condition is read back from its source. -/
theorem unary_source {c : Condition} (hreadable : c.Readable)
    (hliterals : c.Literals Value.Writable) : ReadsBack unary c.source c := by
  induction c with
  | comparison c =>
    intro rest hrest
    have hstart := (startsToken_condition hreadable).append rest
    rw [unary_eq, unaryWith_eq_done, hstart.dropBlanks]
    exact .inr (.inr (comparison_source hreadable hliterals rest hrest))
  | group connective children ih =>
    obtain ⟨hshape, hchildren⟩ := Condition.every_group.mp hreadable
    obtain ⟨_, hvalues⟩ := Condition.every_group.mp hliterals
    have hread : ∀ x ∈ children, ReadsBack unary x.source x := fun x hx =>
      ih x hx (hchildren x hx) (hvalues x hx)
    intro rest _
    have hclose := endsCondition_close rest
    cases connective with
    | not =>
      obtain ⟨child, rfl⟩ := List.length_eq_one_iff.mp hshape
      have hchild := hread child List.mem_cons_self
      have hnegation : ReadsBack unary ("NOT ".toList ++ child.source) child.negate := by
        intro more hmore
        have hword : negationWord ("NOT ".toList ++ child.source ++ more) =
            .done () (' ' :: (child.source ++ more)) := by
          refine negationWord_eq_done.mpr (.inl (keyword_eq_done.mpr ⟨?_, ?_⟩))
          · rw [List.append_assoc]
            rfl
          · exact endsWord_space
        have hstart : StartsToken ("NOT ".toList ++ child.source ++ more) :=
          startsToken_cons.mpr (by decide)
        rw [unary_eq, unaryWith_eq_done, hstart.dropBlanks]
        refine .inl ⟨(), _, child, hword, ?_, rfl⟩
        rw [unary_blank]
        exact hchild more hmore
      have hstart : StartsToken ("NOT ".toList ++ child.source) :=
        startsToken_cons.mpr (by decide)
      have hsource : (Condition.group .not [child]).source ++ rest =
          '(' :: ("NOT ".toList ++ child.source ++ ')' :: rest) := by
        rw [Condition.source, Condition.sources_eq_map]
        simp
      rw [hsource]
      exact unary_grouped (condition_single hstart hnegation hclose)
    | and =>
      obtain ⟨first, others, rfl, hfirst, hothers⟩ := Condition.two_le_length_iff.mp hshape
      rw [List.forall_mem_cons] at hread hchildren
      rw [Condition.source_and, ← Condition.foldl_join hfirst hothers]
      exact unary_grouped
        (condition_andChain (startsToken_condition hchildren.1) hread.1 hread.2 hclose)
    | or =>
      obtain ⟨first, others, rfl, hfirst, hothers⟩ := Condition.two_le_length_iff.mp hshape
      rw [List.forall_mem_cons] at hread hchildren
      rw [Condition.source_or, ← Condition.foldl_join hfirst hothers]
      exact unary_grouped
        (condition_flatMap (startsToken_condition hchildren.1) hread.1 hread.2 hclose)

/-- A condition is read back from its source, unless more of it could follow. -/
theorem condition_source {c : Condition} {rest : List Char} (hreadable : c.Readable)
    (hliterals : c.Literals Value.Writable) (hends : EndsCondition rest) :
    condition (c.source ++ rest) = .done c rest :=
  condition_single (startsToken_condition hreadable) (unary_source hreadable hliterals) hends

theorem endsCondition_nil : EndsCondition [] := by
  refine ⟨endsWord_nil, ?_, ?_⟩
  · exact refuses_connectiveWord_of_head rfl rfl (by simp [dropBlanks_nil])
  · exact refuses_connectiveWord_of_head rfl rfl (by simp [dropBlanks_nil])

theorem whole_eq_ok {α : Type} {p : Reader α} {text : String} {v : α} :
    p.whole text = .ok v ↔ p text.toList = .done v [] := by
  unfold Reader.whole
  cases p text.toList with
  | done w rest => cases rest <;> simp
  | failed failure => simp

/-- A reader with blanks behind it reads all of the text but blanks at its end. -/
theorem whole_trailing {α : Type} {p : Reader α} {text : String} {v : α} :
    (Reader.bind p fun v => Reader.bind blanks fun _ => give v).whole text = .ok v ↔
      ∃ rest, p text.toList = .done v rest ∧ dropBlanks rest = [] := by
  rw [whole_eq_ok, bind_eq_done]
  constructor
  · rintro ⟨other, mid, hread, hblanks⟩
    rw [bind_of_done (blanks_eq mid)] at hblanks
    obtain ⟨rfl, hnil⟩ := give_eq_done.mp hblanks
    exact ⟨mid, hread, hnil.symm⟩
  · rintro ⟨rest, hread, hrest⟩
    refine ⟨v, rest, hread, ?_⟩
    rw [bind_of_done (blanks_eq rest), hrest]
    rfl

/-- Reading a condition reads all of the text but blanks at its end. -/
theorem readCondition_eq_ok {text : String} {c : Condition} :
    readCondition text = .ok c ↔
      ∃ rest, condition text.toList = .done c rest ∧ dropBlanks rest = [] :=
  whole_trailing

theorem readCondition_source {c : Condition} (hreadable : c.Readable)
    (hliterals : c.Literals Value.Writable) :
    readCondition (String.ofList c.source) = .ok c := by
  have h := condition_source hreadable hliterals endsCondition_nil
  rw [List.append_nil] at h
  rw [readCondition_eq_ok, String.toList_ofList]
  exact ⟨[], h, dropBlanks_nil⟩

end Conditions

end RuleText

end FormRules
