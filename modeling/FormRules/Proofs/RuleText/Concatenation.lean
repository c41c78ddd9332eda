import FormRules.Proofs.RuleText.LocalRule
import FormRules.Proofs.RuleText.Precedence

/-!
Files of rules on top of each other (`readRules_append`). A file ends with its last rule and
perhaps blanks and comments. The line break behind it closes a comment that is still open, and
the next rule begins with a reserved word, which nothing at the end of a rule takes up; so the
rules of both files are read as they were.
-/

namespace FormRules.RuleText

open Reader

section BlankTexts

/-- White space and comments. A comment runs to the end of its line or of the text. -/
inductive BlankText : List Char → Prop where
  | nil : BlankText []
  | blank {c : Char} {text : List Char} : isBlank c = true → BlankText text →
      BlankText (c :: text)
  | comment {words text : List Char} : Inline words → EndsLine text → BlankText text →
      BlankText ('#' :: (words ++ text))

/-- Nothing is left of white space and comments. -/
theorem dropBlanks_eq_nil {text : List Char} : dropBlanks text = [] ↔ BlankText text := by
  constructor
  · intro h
    fun_induction dropBlanks text with
    | case1 => exact .nil
    | case2 c rest hblank ih => exact .blank hblank (ih h)
    | case3 rest tail hcomment _ _ ih =>
      obtain ⟨words, rfl, hwords, hline⟩ := afterComment?_eq_some.mp hcomment
      exact .comment hwords hline (ih h)
    | case4 => cases h
    | case5 => cases h
  · intro h
    induction h with
    | nil => exact dropBlanks_nil
    | blank hblank _ ih => rw [dropBlanks_blank hblank, ih]
    | @comment words text hwords hline _ ih =>
      have hcomment : afterComment? (words ++ text) = some text :=
        afterComment?_eq_some.mpr ⟨words, rfl, hwords, hline⟩
      rw [dropBlanks_comment hcomment, ih]

variable {text more : List Char}

/-- A line break ends every comment before it. -/
theorem BlankText.dropBlanks_line (h : BlankText text) :
    dropBlanks (text ++ '\n' :: more) = dropBlanks more := by
  induction h with
  | nil => exact dropBlanks_blank (by decide)
  | blank hblank _ ih => rw [List.cons_append, dropBlanks_blank hblank, ih]
  | @comment words text hwords hline _ ih =>
    have hends : EndsLine (text ++ '\n' :: more) := by
      rcases hline with rfl | ⟨rest, rfl⟩ | ⟨rest, rfl⟩
      · exact .inr (.inl ⟨more, rfl⟩)
      · exact .inr (.inl ⟨_, rfl⟩)
      · exact .inr (.inr ⟨_, rfl⟩)
    have hcomment : afterComment? (words ++ (text ++ '\n' :: more)) = some (text ++ '\n' :: more) :=
      afterComment?_eq_some.mpr ⟨words, rfl, hwords, hends⟩
    rw [List.cons_append, List.append_assoc, dropBlanks_comment hcomment, ih]

/-- White space and comments end a word. -/
theorem BlankText.follows (h : BlankText text) (hmore : EndsWord more) :
    Follows text (text ++ more) := by
  cases h with
  | nil => exact .inl hmore
  | @blank c _ hblank _ =>
    refine .inr ⟨c, ?_, rfl, rfl⟩
    rintro rfl
    cases hblank
  | comment => exact .inr ⟨'#', by decide, rfl, rfl⟩

/-- After the line that white space and comments begin with, there are more of them. -/
theorem BlankText.of_afterComment? {tail : List Char} (h : BlankText text)
    (hline : afterComment? text = some tail) : BlankText tail := by
  induction h with
  | nil =>
    cases hline
    exact .nil
  | @blank c text hblank htext ih =>
    rw [afterComment?] at hline
    split at hline
    · cases hline
      exact .blank hblank htext
    · split at hline
      · split at hline
        · cases hline
          exact .blank hblank htext
        · cases hline
      · exact ih hline
  | @comment words text hwords hends htext =>
    have hcomment : afterComment? (words ++ text) = some text :=
      afterComment?_eq_some.mpr ⟨words, rfl, hwords, hends⟩
    rw [afterComment?, if_neg (by decide), if_neg (by decide), hcomment] at hline
    cases hline
    exact htext

/-- An open comment takes up the line that follows it. -/
theorem BlankText.open_comment {words tail : List Char} (hwords : Inline words)
    (h : BlankText text) (hline : afterComment? text = some tail) :
    BlankText ('#' :: (words ++ text)) := by
  have htail := h.of_afterComment? hline
  obtain ⟨others, rfl, hothers, hends⟩ := afterComment?_eq_some.mp hline
  have hlonger : Inline (words ++ others) := fun c hc =>
    (List.mem_append.mp hc).elim (hwords c) (hothers c)
  rw [← List.append_assoc]
  exact .comment hlonger hends htail

/-- No comment is open at the end of a text: behind every number sign there is a line break. -/
def CommentsEnd (text : List Char) : Prop :=
  ∀ before behind, text = before ++ '#' :: behind → '\n' ∈ behind

theorem CommentsEnd.of_append (before : List Char) (h : CommentsEnd (before ++ text)) :
    CommentsEnd text := fun others behind htext =>
  h (before ++ others) behind (by rw [htext, List.append_assoc])

/-- More white space and comments, if no comment is open to which they could belong, or if they
begin with a line that ends. -/
theorem BlankText.append (h : BlankText text) (hmore : BlankText more)
    (hends : CommentsEnd text ∨ (afterComment? more).isSome = true) :
    BlankText (text ++ more) := by
  induction h with
  | nil => exact hmore
  | @blank c _ hblank _ ih => exact .blank hblank (ih (hends.imp_left (.of_append [c])))
  | @comment words text hwords hline _ ih =>
    have hbehind : CommentsEnd text ∨ (afterComment? more).isSome = true :=
      hends.imp_left (.of_append ('#' :: words))
    rw [List.cons_append, List.append_assoc]
    rcases hline with rfl | ⟨rest, rfl⟩ | ⟨rest, rfl⟩
    · rcases hends with hends | hends
      · have hbreak := hends [] (words ++ []) rfl
        rw [List.append_nil] at hbreak
        exact absurd rfl (hwords _ hbreak).1
      · obtain ⟨tail, htail⟩ := Option.isSome_iff_exists.mp hends
        exact hmore.open_comment hwords htail
    · exact .comment hwords (.inr (.inl ⟨_, rfl⟩)) (ih hbehind)
    · exact .comment hwords (.inr (.inr ⟨_, rfl⟩)) (ih hbehind)

theorem Gap.blankText (h : Gap text) : BlankText text := by
  induction h with
  | nil => exact .nil
  | blank hblank _ ih => exact .blank hblank ih
  | @comment words gap hline hreturn _ ih =>
    exact .comment (inline_of_not_mem hline hreturn) (.inr (.inl ⟨gap, rfl⟩))
      (.blank (by decide) ih)

end BlankTexts

section Files

variable {text other tail : List Char} {list : List Rule}

/-- A rule takes up text. -/
theorem consumes_rule : Consumes rule := local_rule.consumes

/-- Where a rule begins, the rule before it ends. -/
theorem stopsRule_of_rule {r : Rule} (h : rule text = .done r tail) : StopsRule text := by
  rw [rule_eq] at h
  obtain ⟨_, mid, hword, _⟩ := bind_eq_done.mp h
  obtain ⟨hdrop, hends⟩ := keyword_eq_done.mp hword
  have hhead : ∀ c, c ≠ 'r' → (dropBlanks text).head? ≠ some c := by
    intro c hc heq
    rw [hdrop] at heq
    exact hc (Option.some.inj heq).symm
  have hname : Refuses name (dropBlanks text) := by
    rw [hdrop, refuses_name]
    exact .inr ⟨"rule", mid, ident_append (by decide) hends, by decide⟩
  exact ⟨stopsAction_of_head hname (hhead _ (by decide)) (hhead _ (by decide)),
    refuses_comma (hhead _ (by decide))⟩

/-- A rule ends before white space and comments. -/
theorem stopsRule_of_blank (h : dropBlanks text = []) : StopsRule text := by
  have hname : Refuses name (dropBlanks text) := by
    rw [h]
    exact guardedBy_name [] (by simp)
  refine ⟨stopsAction_of_head hname ?_ ?_, refuses_comma ?_⟩ <;> simp [h]

/-- A file of rules follows a rule. -/
theorem stopsRule_of_file (h : many rule text = .done list tail) (htail : dropBlanks tail = []) :
    StopsRule text := by
  rcases many_eq_done.mp h with ⟨_, _, rfl⟩ | ⟨r, mid, _, hr, _⟩
  · exact stopsRule_of_blank htail
  · exact stopsRule_of_rule hr

/-- White space and comments before the rules of a file do not matter. -/
theorem many_rule_congr (hdrop : dropBlanks text = dropBlanks other)
    (h : many rule text = .done list tail) (htail : dropBlanks tail = []) :
    ∃ tail, many rule other = .done list tail ∧ dropBlanks tail = [] := by
  have hrule : rule other = rule text := by
    rw [rule_eq, rule_eq, hdrop]
  rcases many_eq_done.mp h with ⟨hrefuses, rfl, rfl⟩ | ⟨r, mid, others, hr, _, hothers, rfl⟩
  · exact ⟨other, many_of_refuses ((refuses_congr hrule).mpr hrefuses), hdrop.symm.trans htail⟩
  · rw [← hrule] at hr
    exact ⟨tail, many_of_done hr (consumes_rule other r mid hr) hothers, htail⟩

/-- Rules are read on behind a file. -/
theorem many_rule_append {first more mid last : List Char} {xs ys : List Rule}
    (hfirst : many rule first = .done xs mid) (hmid : BlankText mid) (hends : EndsWord more)
    (hmore : many rule (mid ++ more) = .done ys last) (hlast : dropBlanks last = []) :
    many rule (first ++ more) = .done (xs ++ ys) last := by
  obtain ⟨used, rfl, _, hread⟩ :=
    local_many_append local_rule (fun _ _ _ => stopsRule_of_rule) hfirst
  rw [List.append_assoc]
  exact hread _ ys last (hmid.follows hends) (stopsRule_of_file hmore hlast) hmore

/-- White space and comments are a file without rules. -/
theorem many_rule_blank (h : BlankText text) : many rule text = .done [] text := by
  have hrule : rule text = rule [] := by
    rw [rule_eq, rule_eq, dropBlanks_eq_nil.mpr h, dropBlanks_nil]
  exact many_of_refuses ((refuses_congr hrule).mpr refuses_rule_nil)

/-- Two files with a line break between them are read as one. -/
theorem readRules_line {first second : String} {xs ys : List Rule}
    (hfirst : readRules first = .ok xs) (hsecond : readRules second = .ok ys) :
    readRules (first ++ "\n" ++ second) = .ok (xs ++ ys) := by
  obtain ⟨mid, hxs, hmid⟩ := readRules_eq_ok.mp hfirst
  obtain ⟨tail, hys, htail⟩ := readRules_eq_ok.mp hsecond
  have hblank : BlankText mid := dropBlanks_eq_nil.mp hmid
  obtain ⟨last, hmore, hlast⟩ := many_rule_congr hblank.dropBlanks_line.symm hys htail
  have htext : (first ++ "\n" ++ second).toList = first.toList ++ '\n' :: second.toList := by
    simp [String.toList_append]
  refine readRules_eq_ok.mpr ⟨last, ?_, hlast⟩
  rw [htext]
  exact many_rule_append hxs hblank (endsWord_cons.mpr (by decide)) hmore hlast

theorem readRules_blank {gap : String} (h : BlankText gap.toList) : readRules gap = .ok [] :=
  readRules_eq_ok.mpr ⟨gap.toList, many_rule_blank h, dropBlanks_eq_nil.mpr h⟩

/-- Closed comments may stand directly before a file. -/
theorem readRules_before {text gap : String} {list : List Rule} (h : readRules text = .ok list)
    (hgap : Gap gap.toList) : readRules (gap ++ text) = .ok list := by
  obtain ⟨mid, hlist, hmid⟩ := readRules_eq_ok.mp h
  rw [readRules_eq_ok, String.toList_append]
  exact many_rule_congr (hgap.skipped text.toList).symm hlist hmid

/-- White space and comments may stand directly behind a file if they do not break a comment
there. -/
theorem readRules_behind {text gap : String} {list : List Rule} (h : readRules text = .ok list)
    (hgap : Gap gap.toList)
    (hends : CommentsEnd text.toList ∨ (afterComment? gap.toList).isSome = true) :
    readRules (text ++ gap) = .ok list := by
  obtain ⟨mid, hlist, hmid⟩ := readRules_eq_ok.mp h
  obtain ⟨used, hused, -⟩ := local_many_append local_rule (fun _ _ _ => stopsRule_of_rule) hlist
  rw [hused] at hends
  have hword : EndsWord (gap.toList ++ []) := hgap.endsWord fun _ => endsWord_nil
  rw [List.append_nil] at hword
  have hblank : BlankText (mid ++ gap.toList) :=
    (dropBlanks_eq_nil.mp hmid).append hgap.blankText (hends.imp_left (.of_append used))
  have hdrop : dropBlanks (mid ++ gap.toList) = [] := dropBlanks_eq_nil.mpr hblank
  have hread := many_rule_append hlist (dropBlanks_eq_nil.mp hmid) hword
    (many_rule_blank hblank) hdrop
  rw [List.append_nil] at hread
  rw [readRules_eq_ok, String.toList_append]
  exact ⟨_, hread, hdrop⟩

/-- A file on top of another one gives its rules and then those of the other. So white space
and comments change nothing on lines of their own. They change nothing either where they stand
directly before a file; nor do they directly behind it, as long as no comment is open at its end
or their first line ends, and not with a carriage return alone. -/
theorem readRules_append {first second : String} {xs ys : List Rule}
    (hfirst : readRules first = .ok xs) (hsecond : readRules second = .ok ys) :
    readRules (first ++ "\n" ++ second) = .ok (xs ++ ys) ∧
      (∀ gap : String, BlankText gap.toList →
        readRules (gap ++ "\n" ++ first) = .ok xs ∧
          readRules (first ++ "\n" ++ gap) = .ok xs) ∧
      ∀ gap : String, Gap gap.toList →
        readRules (gap ++ first) = .ok xs ∧
          (CommentsEnd first.toList ∨ (afterComment? gap.toList).isSome = true →
            readRules (first ++ gap) = .ok xs) := by
  refine ⟨readRules_line hfirst hsecond, fun gap hgap => ?_, fun gap hgap => ?_⟩
  · have hunder := readRules_line hfirst (readRules_blank hgap)
    rw [List.append_nil] at hunder
    exact ⟨readRules_line (readRules_blank hgap) hfirst, hunder⟩
  · exact ⟨readRules_before hfirst hgap, readRules_behind hfirst hgap⟩

/-- A rule that begins where another one ends. -/
def refund : Rule where
  id := some "refund"
  condition := .comparison ⟨"fee", .greaterThan, .literal (.int 0), none⟩
  actions := [⟨.enable, some "refund"⟩]

theorem writable_refund : refund.Writable := by
  have hreadable : refund.condition.Readable := ⟨by decide, by simp, trivial⟩
  have hactions : ∀ action ∈ refund.actions, action.Writable := by
    simp only [refund, List.forall_mem_singleton]
    refine ⟨trivial, ?_, fun h => absurd h Bool.false_ne_true⟩
    rintro word ⟨⟩
    decide
  exact ⟨⟨_, rfl, by decide⟩, rfl, by simp [refund], hreadable, trivial, by simp [refund], hactions⟩

/-- The first file ends with an action that could name a field. -/
theorem surcharge_then_refund :
    let first := writeRules [surcharge]
    let second := writeRules [refund]
    readRules first = .ok [surcharge] ∧ readRules second = .ok [refund] ∧
      readRules (first ++ "\n" ++ second) = .ok [surcharge, refund] ∧
      readRules ("# fees" ++ "\n" ++ first) = .ok [surcharge] := by
  intro first second
  have hread : ∀ r : Rule, r.Writable → readRules (writeRules [r]) = .ok [r] := by
    intro r hr
    rw [readRules_eq_ok, writeRules, String.toList_ofList]
    exact ⟨[], many_rule [r] (List.forall_mem_singleton.mpr hr), dropBlanks_nil⟩
  have hfirst := hread surcharge writable_surcharge
  have hsecond := hread refund writable_refund
  have hwords : Inline " fees".toList := inline_of_not_mem (by decide) (by decide)
  have hgap : BlankText "# fees".toList := .comment hwords (.inl rfl) .nil
  obtain ⟨hboth, hblank, _⟩ := readRules_append hfirst hsecond
  exact ⟨hfirst, hsecond, hboth, (hblank "# fees" hgap).1⟩

end Files

end FormRules.RuleText
