import FormRules.Proofs.Condition.Algebra
import FormRules.Proofs.RuleText.LocalGrammar

/-!
What a condition means by its text. A text is derived by three rules that bind from loose to
tight: conjunctions joined by `OR`, unary parts joined by `AND`, and negations, groups and
comparisons (`Derives`). With a derivation goes the truth that the text claims, made of the
truth of its comparisons. The reader accepts every such text, and the condition that it gives
has this truth (`readCondition_of_derives`), although it flattens chains and groups.
-/

namespace FormRules

namespace Condition

/-- Joining gives a comparison only where nothing is joined. -/
theorem foldl_join_eq_comparison {connective : Connective} {others : List Condition}
    {first : Condition} {c : Comparison}
    (h : others.foldl (join connective) first = comparison c) :
    others = [] ∧ first = comparison c := by
  induction others generalizing first with
  | nil => exact ⟨rfl, h⟩
  | cons next tail ih =>
    obtain ⟨_, hjoin⟩ := ih h
    rw [join_eq] at hjoin
    cases hjoin

end Condition

namespace RuleText

open Reader

section Derivations

/-- Blanks, and comments that run to the end of their line. -/
inductive Gap : List Char → Prop where
  | nil : Gap []
  | blank {c : Char} {gap : List Char} : isBlank c = true → Gap gap → Gap (c :: gap)
  | comment {words gap : List Char} : '\n' ∉ words → '\r' ∉ words → Gap gap →
      Gap ('#' :: (words ++ '\n' :: gap))

/-- A text that is accepted as one comparison. It begins with a token, and reading it leaves
nothing, so it ends with one. -/
structure ComparisonText (text : List Char) (c : Comparison) : Prop where
  accepted : readCondition (String.ofList text) = .ok (.comparison c)
  begins : dropBlanks text = text
  ends : ∀ result rest, condition text = .done result rest → rest = []

/-- The truth of a condition by the context and the functions. -/
abbrev Truth : Type := Context → Functions → Bool

/-- How tightly the parts of a text bind. -/
inductive Level where
  | disjunction
  | conjunction
  | unary

/-- The texts of conditions and their truth. The gaps around a word are not empty; those inside
parentheses may be. -/
inductive Derives : Level → List Char → Truth → Prop where
  | comparison {text : List Char} {c : Comparison} : ComparisonText text c →
      Derives .unary text fun ctx fns => (Condition.comparison c).holds ctx fns
  | negation {word : String} {gap text : List Char} {truth : Truth} :
      word ∈ ["NOT", "not"] → Gap gap → gap ≠ [] → Derives .unary text truth →
      Derives .unary (word.toList ++ (gap ++ text)) fun ctx fns => !truth ctx fns
  | group {before text after : List Char} {truth : Truth} :
      Gap before → Gap after → Derives .disjunction text truth →
      Derives .unary ('(' :: (before ++ (text ++ (after ++ [')'])))) truth
  | unary {text : List Char} {truth : Truth} :
      Derives .unary text truth → Derives .conjunction text truth
  | and {word : String} {left before after right : List Char} {first second : Truth} :
      Derives .conjunction left first → Gap before → before ≠ [] → word ∈ ["AND", "and"] →
      Gap after → after ≠ [] → Derives .unary right second →
      Derives .conjunction (left ++ (before ++ word.toList ++ (after ++ right)))
        fun ctx fns => first ctx fns && second ctx fns
  | conjunction {text : List Char} {truth : Truth} :
      Derives .conjunction text truth → Derives .disjunction text truth
  | or {word : String} {left before after right : List Char} {first second : Truth} :
      Derives .disjunction left first → Gap before → before ≠ [] → word ∈ ["OR", "or"] →
      Gap after → after ≠ [] → Derives .conjunction right second →
      Derives .disjunction (left ++ (before ++ word.toList ++ (after ++ right)))
        fun ctx fns => first ctx fns || second ctx fns

theorem Gap.skipped {gap : List Char} (h : Gap gap) : Skipped gap := by
  induction h with
  | nil => exact fun _ => rfl
  | blank hblank _ ih =>
    intro more
    rw [List.cons_append, dropBlanks_blank hblank, ih]
  | @comment words gap hline hreturn _ ih =>
    intro more
    have hwords : Inline words := inline_of_not_mem hline hreturn
    have hcomment : afterComment? (words ++ '\n' :: (gap ++ more)) =
        some ('\n' :: (gap ++ more)) :=
      afterComment?_eq_some.mpr ⟨words, rfl, hwords, .inr (.inl ⟨_, rfl⟩)⟩
    rw [List.cons_append, List.append_assoc, List.cons_append, dropBlanks_comment hcomment,
      dropBlanks_blank (by decide), ih]

/-- A gap ends the word before it. -/
theorem Gap.endsWord {gap more : List Char} (h : Gap gap) (hmore : gap = [] → EndsWord more) :
    EndsWord (gap ++ more) := by
  cases h with
  | nil => exact hmore rfl
  | @blank c gap hblank _ =>
    refine endsWord_cons.mpr ?_
    cases hc : isIdentChar c with
    | false => rfl
    | true => exact absurd (not_isBlank_of_isIdentChar hc) (by simp [hblank])
  | comment => exact endsWord_cons.mpr (by decide)

end Derivations

section Reading

variable {word : Reader Unit} {connect : Condition → Condition → Condition}
  {part : Reader Condition} {F : List Char → Prop} {text left right lead gap more rest : List Char}
  {c d : Condition}

/-- Before more of a chain the text counts for a condition, which the chain goes on from. -/
def ReadsOn (word : Reader Unit) (connect : Condition → Condition → Condition)
    (part : Reader Condition) (F : List Char → Prop) (text : List Char) (c : Condition) : Prop :=
  ∀ more vs rest, EndsWord more → F more → many (after word (commit part)) more = .done vs rest →
    chain word connect part (text ++ more) = .done (vs.foldl connect c) rest

theorem readsOn_part (h : ∀ more, EndsWord more → F more → part (text ++ more) = .done c more) :
    ReadsOn word connect part F text c :=
  fun more _ _ hends hF hmany => (bind_of_done (h more hends hF)).trans (bind_of_done hmany)

/-- The chain ends where its connective does not follow. -/
theorem ReadsOn.chain (h : ReadsOn word connect part F text c) (hends : EndsWord more)
    (hF : F more) (hstop : Refuses word more) :
    chain word connect part (text ++ more) = .done c more :=
  h more [] more hends hF (many_of_refuses (refuses_bind.mpr (.inl hstop)))

/-- Either spelling of a connective is read behind a gap. -/
theorem connectiveWord_of_mem {upper lower spelling : String} {u l : Char} {us ls : List Char}
    (hupper : upper.toList = u :: us) (hlower : lower.toList = l :: ls) (hne : (u == l) = false)
    (hwords : [upper, lower].all isIdentifier = true) (hspelling : spelling ∈ [upper, lower])
    (hgap : Skipped gap) (hends : EndsWord more) :
    connectiveWord upper lower (gap ++ spelling.toList ++ more) = .done () more := by
  have hidentifier := List.all_eq_true.mp hwords spelling hspelling
  have hstart := (startsToken_of_isIdentifier hidentifier).append more
  rw [connectiveWord_eq, List.append_assoc, hgap, hstart.dropBlanks]
  exact spelling_append hupper hlower hne hspelling hends

/-- A chain goes on with its connective, in either spelling, and another part. -/
theorem ReadsOn.snoc {upper lower spelling : String} {u l : Char} {us ls : List Char}
    (hupper : upper.toList = u :: us) (hlower : lower.toList = l :: ls) (hne : (u == l) = false)
    (hwords : [upper, lower].all isIdentifier = true)
    (hnext : ∀ text rest, connectiveWord upper lower text = .done () rest → F text)
    (hcongr : ∀ {text other}, dropBlanks text = dropBlanks other → part text = part other)
    (h : ReadsOn (connectiveWord upper lower) connect part F left c)
    (hlead : Gap lead) (hlead' : lead ≠ []) (hspelling : spelling ∈ [upper, lower])
    (hgap : Gap gap) (hgap' : gap ≠ [])
    (hright : ∀ more, EndsWord more → F more → part (right ++ more) = .done d more) :
    ReadsOn (connectiveWord upper lower) connect part F
      (left ++ (lead ++ spelling.toList ++ (gap ++ right))) (connect c d) := by
  intro more vs rest hends hF hmany
  have hendsGap : EndsWord (gap ++ (right ++ more)) := hgap.endsWord fun hnil => absurd hnil hgap'
  have hendsLead : EndsWord (lead ++ spelling.toList ++ (gap ++ (right ++ more))) := by
    rw [List.append_assoc]
    exact hlead.endsWord fun hnil => absurd hnil hlead'
  have hword : connectiveWord upper lower (lead ++ spelling.toList ++ (gap ++ (right ++ more))) =
      .done () (gap ++ (right ++ more)) :=
    connectiveWord_of_mem hupper hlower hne hwords hspelling hlead.skipped hendsGap
  have hpart : part (gap ++ (right ++ more)) = .done d more :=
    (hcongr (hgap.skipped _)).trans (hright more hends hF)
  have hitem : after (connectiveWord upper lower) (commit part)
      (lead ++ spelling.toList ++ (gap ++ (right ++ more))) = .done d more :=
    (bind_of_done hword).trans (commit_eq_done.mpr hpart)
  have hlt : more.length < (lead ++ spelling.toList ++ (gap ++ (right ++ more))).length := by
    have hpos := List.length_pos_iff.mpr hlead'
    simp only [List.length_append]
    omega
  have hchain := h _ (d :: vs) rest hendsLead (hnext _ _ hword) (many_of_done hitem hlt hmany)
  have htext : left ++ (lead ++ spelling.toList ++ (gap ++ right)) ++ more =
      left ++ (lead ++ spelling.toList ++ (gap ++ (right ++ more))) := by
    simp only [List.append_assoc]
  rw [htext]
  exact hchain

/-- A chain that gives a comparison has only one part. -/
theorem chain_eq_comparison {connective : Connective} {c : Comparison}
    (h : chain word (Condition.join connective) part text = .done (.comparison c) rest) :
    part text = .done (.comparison c) rest := by
  obtain ⟨first, mid, hfirst, htail⟩ := bind_eq_done.mp h
  obtain ⟨others, _, hothers, hgive⟩ := bind_eq_done.mp htail
  obtain ⟨heq, rfl⟩ := give_eq_done.mp hgive
  obtain ⟨rfl, rfl⟩ := Condition.foldl_join_eq_comparison heq.symm
  rcases many_eq_done.mp hothers with ⟨_, _, rfl⟩ | ⟨_, _, _, _, _, _, hcons⟩
  · exact hfirst
  · cases hcons

theorem unary_of_condition {c : Comparison} (h : condition text = .done (.comparison c) rest) :
    unary (dropBlanks text) = .done (.comparison c) rest := by
  rw [condition_eq] at h
  exact chain_eq_comparison (chain_eq_comparison h)

/-- The text of a comparison is read as this comparison wherever it stands. -/
theorem ComparisonText.readsBack {c : Comparison} (h : ComparisonText text c) :
    ReadsBack unary text (.comparison c) := by
  obtain ⟨rest, hread, _⟩ := readCondition_eq_ok.mp h.accepted
  rw [String.toList_ofList] at hread
  have hrest := h.ends _ rest hread
  subst hrest
  have hunary := unary_of_condition hread
  rw [h.begins] at hunary
  obtain ⟨used, hused, _, hmore⟩ := @local_unary Anyhow _ _ _ hunary
  rw [List.append_nil] at hused
  subst hused
  exact fun more hends => hmore more (.inl hends) trivial

theorem comparisonText_of_done {c : Comparison} (hstart : StartsToken text)
    (h : condition text = .done (.comparison c) []) : ComparisonText text c := by
  refine ⟨readCondition_eq_ok.mpr ⟨[], ?_, dropBlanks_nil⟩, hstart.dropBlanks, ?_⟩
  · rw [String.toList_ofList]
    exact h
  · intro result rest hread
    rw [h, Reply.done_eq_done] at hread
    exact hread.2

/-- How the text of a level is read. -/
def ReadsAs : Level → List Char → Condition → Prop
  | .unary => ReadsBack unary
  | .conjunction => ReadsOn (connectiveWord "AND" "and") Condition.and unary Anyhow
  | .disjunction => ReadsOn (connectiveWord "OR" "or") Condition.or andChain
      (Refuses (connectiveWord "AND" "and"))

theorem readsAs_comparison {c : Comparison} (htext : c.source = text) (hreadable : c.Readable)
    (hliterals : c.operand.Literals Value.Writable) : ReadsAs .unary text (.comparison c) := by
  rw [← htext]
  exact @unary_source (.comparison c) hreadable hliterals

/-- A gap before a disjunction is passed over. -/
theorem condition_gap (hgap : Skipped gap) (text : List Char) :
    condition (gap ++ text) = chain (connectiveWord "OR" "or") Condition.or andChain text := by
  rw [condition_eq, hgap]
  exact bind_of_eq (andChain_congr (dropBlanks_idem text))

theorem readsAs_group {before : List Char} (hbefore : Gap before) (hgap : Gap gap)
    (h : ReadsAs .disjunction text c) :
    ReadsAs .unary ('(' :: (before ++ (text ++ (gap ++ [')'])))) c := by
  intro more _
  have hclose : dropBlanks (gap ++ ')' :: more) = ')' :: more := by
    rw [hgap.skipped, dropBlanks_cons (by decide)]
  have hends : EndsWord (gap ++ ')' :: more) :=
    hgap.endsWord fun _ => endsWord_cons.mpr (by decide)
  obtain ⟨hand, hor⟩ := refuses_connectives_of_close hclose
  have hread : condition (before ++ (text ++ (gap ++ ')' :: more))) =
      .done c (gap ++ ')' :: more) := by
    rw [condition_gap hbefore.skipped]
    exact h.chain hends hand hor
  have hunary := unary_of_grouped hread hclose
  simpa using hunary

theorem readsAs_negation {spelling : String} (hspelling : spelling ∈ ["NOT", "not"])
    (hgap : Gap gap) (hne : gap ≠ []) (h : ReadsAs .unary text c) :
    ReadsAs .unary (spelling.toList ++ (gap ++ text)) c.negate := by
  intro more hends
  have hidentifier : ∀ spelling ∈ ["NOT", "not"], isIdentifier spelling = true := by decide
  have hstart : StartsToken (spelling.toList ++ (gap ++ text) ++ more) := by
    rw [List.append_assoc]
    exact (startsToken_of_isIdentifier (hidentifier spelling hspelling)).append _
  have hword : negationWord (spelling.toList ++ (gap ++ text) ++ more) =
      .done () (gap ++ (text ++ more)) := by
    rw [List.append_assoc, List.append_assoc]
    exact spelling_append rfl rfl (by decide) hspelling
      (hgap.endsWord fun hnil => absurd hnil hne)
  have hinner : unary (gap ++ (text ++ more)) = .done c more := by
    rw [unary_congr (hgap.skipped _)]
    exact h more hends
  rw [unary_eq, unaryWith_eq_done, hstart.dropBlanks]
  exact .inl ⟨(), _, c, hword, hinner, rfl⟩

theorem readsAs_and {spelling : String} (hleft : ReadsAs .conjunction left c) (hlead : Gap lead)
    (hlead' : lead ≠ []) (hspelling : spelling ∈ ["AND", "and"]) (hgap : Gap gap) (hgap' : gap ≠ [])
    (hright : ReadsAs .unary right d) :
    ReadsAs .conjunction (left ++ (lead ++ spelling.toList ++ (gap ++ right))) (c.and d) :=
  ReadsOn.snoc rfl rfl (by decide) (by decide) (fun _ _ _ => trivial) unary_congr hleft hlead hlead'
    hspelling hgap hgap' fun more hends _ => hright more hends

theorem readsAs_or {spelling : String} (hleft : ReadsAs .disjunction left c) (hlead : Gap lead)
    (hlead' : lead ≠ []) (hspelling : spelling ∈ ["OR", "or"]) (hgap : Gap gap) (hgap' : gap ≠ [])
    (hright : ReadsAs .conjunction right d) :
    ReadsAs .disjunction (left ++ (lead ++ spelling.toList ++ (gap ++ right))) (c.or d) :=
  ReadsOn.snoc rfl rfl (by decide) (by decide) (fun _ _ => refuses_and_of_or) andChain_congr hleft
    hlead hlead' hspelling hgap hgap' fun _ hends hstop => hright.chain hends trivial hstop

theorem readsAs_conjunction (h : ReadsAs .unary text c) : ReadsAs .conjunction text c :=
  readsOn_part fun more hends _ => h more hends

theorem readsAs_disjunction (h : ReadsAs .conjunction text c) : ReadsAs .disjunction text c :=
  readsOn_part fun _ hends hstop => h.chain hends trivial hstop

/-- A text that is read as a disjunction is accepted, also between gaps. -/
theorem readCondition_of_readsAs {trail : List Char} (hlead : Gap lead)
    (h : ReadsAs .disjunction text c) (htrail : Gap trail) :
    readCondition (String.ofList (lead ++ (text ++ trail))) = .ok c := by
  have hdrop : dropBlanks trail = [] := by
    have hskipped := htrail.skipped []
    rwa [List.append_nil, dropBlanks_nil] at hskipped
  have hends : EndsWord trail := by
    have hnil := htrail.endsWord fun _ => endsWord_nil
    rwa [List.append_nil] at hnil
  have hand : Refuses (connectiveWord "AND" "and") trail :=
    refuses_connectiveWord_of_head rfl rfl (by simp [hdrop])
  have hor : Refuses (connectiveWord "OR" "or") trail :=
    refuses_connectiveWord_of_head rfl rfl (by simp [hdrop])
  have hcondition : condition (lead ++ (text ++ trail)) = .done c trail := by
    rw [condition_gap hlead.skipped]
    exact h.chain hends hand hor
  refine readCondition_eq_ok.mpr ⟨trail, ?_, hdrop⟩
  rw [String.toList_ofList]
  exact hcondition

/-- Every derived text is read as a condition with the truth of its derivation. -/
theorem Derives.readsAs {level : Level} {truth : Truth} (h : Derives level text truth) :
    ∃ c, ReadsAs level text c ∧ ∀ ctx fns, c.holds ctx fns = truth ctx fns := by
  induction h with
  | comparison h => exact ⟨_, h.readsBack, fun _ _ => rfl⟩
  | negation hspelling hgap hne _ ih =>
    obtain ⟨c, hread, htruth⟩ := ih
    refine ⟨c.negate, readsAs_negation hspelling hgap hne hread, fun ctx fns => ?_⟩
    rw [Condition.holds_negate, htruth]
  | group hbefore hafter _ ih =>
    obtain ⟨c, hread, htruth⟩ := ih
    exact ⟨c, readsAs_group hbefore hafter hread, htruth⟩
  | unary _ ih =>
    obtain ⟨c, hread, htruth⟩ := ih
    exact ⟨c, readsAs_conjunction hread, htruth⟩
  | and _ hlead hlead' hspelling hgap hgap' _ ihleft ihright =>
    obtain ⟨c, hleft, hfirst⟩ := ihleft
    obtain ⟨d, hright, hsecond⟩ := ihright
    refine ⟨c.and d, readsAs_and hleft hlead hlead' hspelling hgap hgap' hright, fun ctx fns => ?_⟩
    rw [Condition.holds_and, hfirst, hsecond]
  | conjunction _ ih =>
    obtain ⟨c, hread, htruth⟩ := ih
    exact ⟨c, readsAs_disjunction hread, htruth⟩
  | or _ hlead hlead' hspelling hgap hgap' _ ihleft ihright =>
    obtain ⟨c, hleft, hfirst⟩ := ihleft
    obtain ⟨d, hright, hsecond⟩ := ihright
    refine ⟨c.or d, readsAs_or hleft hlead hlead' hspelling hgap hgap' hright, fun ctx fns => ?_⟩
    rw [Condition.holds_or, hfirst, hsecond]

end Reading

/-- A derived text is accepted, also between gaps, and the condition that it gives holds
exactly where its derivation is true. -/
theorem readCondition_of_derives {lead text trail : List Char} {truth : Truth} (hlead : Gap lead)
    (h : Derives .disjunction text truth) (htrail : Gap trail) :
    ∃ c, readCondition (String.ofList (lead ++ (text ++ trail))) = .ok c ∧
      ∀ ctx fns, c.holds ctx fns = truth ctx fns := by
  obtain ⟨c, hread, htruth⟩ := h.readsAs
  exact ⟨c, readCondition_of_readsAs hlead hread htrail, htruth⟩

/-- A condition that mixes the three connectives, with a comment inside. -/
def eligibility : List Char :=
  "( age less_than 18 or plan is_empty ) AND # as before\n not name is_empty".toList

/-- What the condition says. -/
def eligible : Truth := fun ctx fns =>
  (Condition.holds ctx fns (.comparison ⟨"age", .lessThan, .literal (.int 18), none⟩) ||
    Condition.holds ctx fns (.comparison ⟨"plan", .isEmpty, .literal .null, none⟩)) &&
  !Condition.holds ctx fns (.comparison ⟨"name", .isEmpty, .literal .null, none⟩)

theorem eligibility_read_as_eligible :
    Derives .disjunction eligibility eligible ∧
      ∃ c, readCondition (String.ofList ([] ++ (eligibility ++ []))) = .ok c ∧
        ∀ ctx fns, c.holds ctx fns = eligible ctx fns := by
  have hage : ComparisonText "age less_than 18".toList
      ⟨"age", .lessThan, .literal (.int 18), none⟩ :=
    comparisonText_of_done (startsToken_cons.mpr (by decide)) (by with_unfolding_all rfl)
  have hplan : ComparisonText "plan is_empty".toList ⟨"plan", .isEmpty, .literal .null, none⟩ :=
    comparisonText_of_done (startsToken_cons.mpr (by decide)) (by with_unfolding_all rfl)
  have hname : ComparisonText "name is_empty".toList ⟨"name", .isEmpty, .literal .null, none⟩ :=
    comparisonText_of_done (startsToken_cons.mpr (by decide)) (by with_unfolding_all rfl)
  have hspace : Gap [' '] := .blank (by decide) .nil
  have hcomment : Gap " # as before\n ".toList :=
    .blank (by decide) (@Gap.comment " as before".toList [' '] (by decide) (by decide) hspace)
  have hor := Derives.or (.conjunction (.unary (.comparison hage))) hspace (by decide)
    (List.mem_cons_of_mem "OR" (List.mem_singleton.mpr rfl)) hspace (by decide)
    (.unary (.comparison hplan))
  have hnot := Derives.negation (List.mem_cons_of_mem "NOT" (List.mem_singleton.mpr rfl)) hspace
    (by decide) (.comparison hname)
  have hand := Derives.and (.unary (.group hspace hspace hor)) hspace (by decide)
    (List.mem_cons_self (a := "AND")) hcomment (by decide) hnot
  have hderives : Derives .disjunction eligibility eligible := .conjunction hand
  exact ⟨hderives, readCondition_of_derives .nil hderives .nil⟩

end RuleText

end FormRules
