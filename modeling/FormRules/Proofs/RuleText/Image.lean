import FormRules.Proofs.Dict
import FormRules.Proofs.Path
import FormRules.Proofs.RuleText.Lexeme
import FormRules.Proofs.RuleText.Readable

/-!
What the readers of literals, expressions and conditions can give: only what rule text can
express (`yields_condition`). On the way the readers that use themselves are shown to be
fixed points of their bodies (`literal_eq`, `expr_eq`, `unary_eq`).
-/

namespace FormRules.RuleText

open Reader

section Punctuation

theorem yields_spaced {c : Char} : Yields (fun _ => True) (spaced c) := by
  unfold spaced
  exact yields_bind yields_blanks fun _ _ => yields_bind yields_char fun _ _ => yields_blanks

theorem yields_opening {c : Char} : Yields (fun _ => True) (opening c) := by
  unfold opening
  exact yields_bind yields_char fun _ _ => yields_blanks

theorem consumes_opening {c : Char} : Consumes (opening c) := by
  unfold opening
  exact consumes_bind consumes_satisfy fun _ => yields_blanks

theorem yields_closing {c : Char} : Yields (fun _ => True) (closing c) := by
  unfold closing
  refine yields_bind yields_blanks fun _ _ => ?_
  exact yields_bind (yields_commit yields_char) fun _ _ => yields_give trivial

theorem yields_listEnd {c : Char} : Yields (fun _ => True) (listEnd c) := by
  unfold listEnd
  refine yields_bind yields_blanks fun _ _ => ?_
  refine yields_bind (yields_optional (yields_after yields_char yields_blanks)) fun _ _ => ?_
  exact yields_bind (yields_commit yields_char) fun _ _ => yields_give trivial

end Punctuation

section Literals

variable {p q : Reader Value} {n : Nat} {G : Value → Prop}

theorem yields_mapEntry (hp : Yields G p) : Yields (fun entry => G entry.2) (mapEntry p) := by
  refine yields_bind (yields_orElse yields_quotedString (yields_ident.mono fun _ _ => trivial))
    fun key _ => ?_
  refine yields_bind yields_blanks fun _ _ => ?_
  refine yields_bind (yields_commit yields_char) fun _ _ => ?_
  refine yields_bind yields_blanks fun _ _ => ?_
  exact yields_bind (yields_commit hp) fun value hvalue => yields_give hvalue

theorem agree_mapEntry (h : AgreeBelow n p q) (hp : Yields G p) :
    AgreeBelow n (mapEntry p) (mapEntry q) := by
  have hkey : Yields (fun _ => True) (orElse quotedString ident) :=
    yields_orElse yields_quotedString (yields_ident.mono fun _ _ => trivial)
  refine agree_bind hkey (.refl _ _) fun key => ?_
  refine agree_bind yields_blanks (.refl _ _) fun _ => ?_
  refine agree_bind (yields_commit yields_char) (.refl _ _) fun _ => ?_
  refine agree_bind yields_blanks (.refl _ _) fun _ => ?_
  exact agree_bind (yields_commit hp) (agree_commit h) fun _ => .refl _ _

theorem yields_literalWith (hp : Yields Value.Normal p) :
    Yields Value.Normal (literalWith p) := by
  refine yields_label ?_
  refine yields_orElse (yields_map yields_quotedString fun _ _ => trivial) ?_
  refine yields_orElse (yields_map yields_keyword fun _ _ => trivial) ?_
  refine yields_orElse (yields_map yields_keyword fun _ _ => trivial) ?_
  refine yields_orElse (yields_map yields_keyword fun _ _ => trivial) ?_
  refine yields_orElse ?number (yields_orElse ?array ?map)
  case number =>
    refine yields_number.mono fun value hvalue => ?_
    rcases hvalue with ⟨n, rfl⟩ | ⟨x, rfl⟩ <;> trivial
  case array =>
    refine yields_map (yields_between yields_opening yields_listEnd
      (yields_separated yields_spaced hp)) fun items hitems => ?_
    exact Value.every_array.mpr ⟨trivial, hitems⟩
  case map =>
    refine yields_map (yields_between yields_opening yields_listEnd
      (yields_separated yields_spaced (yields_mapEntry hp))) fun entries hentries => ?_
    exact Value.every_map.mpr ⟨Entries.sorted_ofList entries,
      fun entry hmem => hentries entry (Entries.mem_of_mem_ofList hmem)⟩

theorem agree_literalWith (hp : Yields G p) (h : AgreeBelow n p q) :
    AgreeBelow (n + 1) (literalWith p) (literalWith q) := by
  refine agree_label ?_
  refine agree_orElse (.refl _ _) (agree_orElse (.refl _ _) (agree_orElse (.refl _ _)
    (agree_orElse (.refl _ _) (agree_orElse (.refl _ _) (agree_orElse ?array ?map)))))
  case array =>
    refine agree_map (agree_bind_of_consumes consumes_opening fun _ => ?_)
    exact agree_bind (yields_separated yields_spaced hp) (agree_separated yields_spaced hp h)
      fun _ => .refl _ _
  case map =>
    refine agree_map (agree_bind_of_consumes consumes_opening fun _ => ?_)
    exact agree_bind (yields_separated yields_spaced (yields_mapEntry hp))
      (agree_separated yields_spaced (yields_mapEntry hp) (agree_mapEntry h hp))
      fun _ => .refl _ _

theorem literal_eq : literal = literalWith literal :=
  fix_eq_body (fun _ => yields_literalWith) (fun _ _ _ => agree_literalWith)

/-- Literals have their maps sorted. -/
theorem yields_literal : Yields Value.Normal literal := fix_ensures fun _ => yields_literalWith

end Literals

section Expressions

variable {p q : Reader Expr} {n : Nat}

/-- What can be read as an expression. -/
def ExprImage (e : Expr) : Prop := e.Readable ∧ e.Literals Value.Normal

theorem splitFirst?_of_isIdentifier {path field property : String}
    (hpath : isIdentifier path = true)
    (hsplit : Path.splitFirst? path = some (field, property)) :
    isIdentifier field = true ∧ '.' ∉ field.toList ∧
      ∀ c ∈ property.toList, isIdentChar c = true := by
  obtain ⟨c, rest, hcons, hstart, hall⟩ := isIdentifier_iff.mp hpath
  obtain ⟨hdot, happend⟩ := Path.toList_of_splitFirst? hsplit
  rw [happend] at hcons hall
  refine ⟨isIdentifier_iff.mpr ?_, hdot, fun d hd => ?_⟩
  · cases hfield : field.toList with
    | nil =>
      rw [hfield] at hcons
      cases (List.cons.inj hcons).1
      exact absurd rfl (ne_of_apart hstart (by decide))
    | cons first others =>
      rw [hfield] at hcons hall
      cases (List.cons.inj hcons).1
      exact ⟨c, others, rfl, hstart, fun d hd => hall d (List.mem_append_left _ hd)⟩
  · exact hall d (List.mem_append_right _ (List.mem_cons_of_mem _ hd))

theorem yields_fieldReference : Yields ExprImage fieldReference := by
  refine yields_bind yields_char fun _ _ => yields_bind (yields_commit yields_ident)
    fun path hpath => ?_
  split
  · rename_i field property hsplit
    obtain ⟨hfield, hdot, hproperty⟩ := splitFirst?_of_isIdentifier hpath hsplit
    exact yields_give ⟨⟨hfield, hdot, by simpa using hproperty⟩, trivial⟩
  · rename_i hsplit
    have hdot : '.' ∉ path.toList := Path.no_dot_of_splitFirst?_eq_none hsplit
    exact yields_give ⟨⟨hpath, hdot, by simp⟩, trivial⟩

theorem yields_contextReference : Yields ExprImage contextReference :=
  yields_bind yields_char fun _ _ => yields_bind (yields_commit yields_ident)
    fun _ hpath => yields_give ⟨hpath, trivial⟩

theorem refuses_keyword_of_refuses_literal {word : String} {text : List Char}
    (hword : word ∈ literalWords) (h : Refuses literal text) : Refuses (keyword word) text := by
  rw [literal_eq, literalWith, refuses_label] at h
  simp only [refuses_orElse, refuses_map] at h
  obtain ⟨_, htrue, hfalse, hnull, _⟩ := h
  simp only [literalWords, List.mem_cons, List.not_mem_nil, or_false] at hword
  rcases hword with rfl | rfl | rfl
  · exact htrue
  · exact hfalse
  · exact hnull

theorem functionCall_eq_done {text rest : List Char} {e : Expr} :
    functionCall p text = .done e rest ↔
      ∃ name mid args, ident text = .done name mid ∧
        between (opening '(') (closing ')') (separated (spaced ',') p) mid = .done args rest ∧
        e = .call name args := by
  unfold functionCall
  simp only [bind_eq, pure_eq, bind_eq_done, give_eq_done]
  constructor
  · rintro ⟨name, mid, hname, args, tail, hargs, rfl, rfl⟩
    exact ⟨name, mid, args, hname, hargs, rfl⟩
  · rintro ⟨name, mid, args, hname, hargs, rfl⟩
    exact ⟨name, mid, hname, args, rest, hargs, rfl, rfl⟩

theorem yields_call (hp : Yields ExprImage p) :
    Yields ExprImage (orElse (map Expr.literal literal) (functionCall p)) := by
  intro text e rest hdone
  rcases orElse_eq_done.mp hdone with h | ⟨hrefuses, h⟩
  · exact yields_map yields_literal (fun _ hvalue => ⟨trivial, hvalue⟩) text e rest h
  · obtain ⟨name, mid, args, hname, hargs, rfl⟩ := functionCall_eq_done.mp h
    obtain ⟨hsuffix, hgood⟩ := yields_between yields_opening yields_closing
      (yields_separated yields_spaced hp) mid args rest hargs
    obtain ⟨hident, rfl, hends⟩ := ident_eq_done.mp hname
    have hword : name ∉ literalWords := fun hmem =>
      (refuses_keyword_of_refuses_literal hmem (refuses_map.mp hrefuses)).ne_done
        (keyword_append _ hends)
    refine ⟨hsuffix.trans (List.suffix_append _ _), ?_, ?_⟩
    · exact Expr.every_call.mpr ⟨⟨hident, hword⟩, fun arg hmem => (hgood arg hmem).1⟩
    · exact Expr.every_call.mpr ⟨trivial, fun arg hmem => (hgood arg hmem).2⟩

theorem yields_exprWith (hp : Yields ExprImage p) : Yields ExprImage (exprWith p) :=
  yields_bind yields_blanks fun _ _ => yields_label (yields_orElse yields_fieldReference
    (yields_orElse yields_contextReference (yields_call hp)))

theorem agree_functionCall {G : Expr → Prop} (hp : Yields G p) (h : AgreeBelow n p q) :
    AgreeBelow (n + 1) (functionCall p) (functionCall q) := by
  refine agree_bind_of_consumes consumes_ident fun _ => ?_
  have hargs : AgreeBelow n (between (opening '(') (closing ')') (separated (spaced ',') p))
      (between (opening '(') (closing ')') (separated (spaced ',') q)) :=
    agree_bind yields_opening (.refl _ _) fun _ =>
      agree_bind (yields_separated yields_spaced hp) (agree_separated yields_spaced hp h)
        fun _ => .refl _ _
  exact agree_bind (yields_between yields_opening yields_closing
    (yields_separated yields_spaced hp)) hargs fun _ => .refl _ _

theorem agree_exprWith {G : Expr → Prop} (hp : Yields G p) (h : AgreeBelow n p q) :
    AgreeBelow (n + 1) (exprWith p) (exprWith q) := by
  refine agree_bind yields_blanks (.refl _ _) fun _ => agree_label ?_
  refine agree_orElse (.refl _ _) (agree_orElse (.refl _ _) (agree_orElse (.refl _ _) ?_))
  exact agree_functionCall hp h

theorem expr_eq : expr = exprWith expr :=
  fix_eq_body (fun _ => yields_exprWith) (fun _ _ _ => agree_exprWith)

theorem yields_expr : Yields ExprImage expr := fix_ensures fun _ => yields_exprWith

end Expressions

section Conditions

variable {p q : Reader Condition} {n : Nat}

/-- What can be read as a condition. -/
def ConditionImage (condition : Condition) : Prop :=
  condition.Readable ∧ condition.Literals Value.Normal

theorem conditionImage_join {connective : Connective} (hnot : connective ≠ .not)
    {left right : Condition} (hleft : ConditionImage left) (hright : ConditionImage right) :
    ConditionImage (Condition.join connective left right) :=
  ⟨Condition.readable_join hnot hleft.1 hright.1, Condition.literals_join hleft.2 hright.2⟩

theorem conditionImage_foldl {connective : Connective} (hnot : connective ≠ .not)
    {first : Condition} {others : List Condition} (hfirst : ConditionImage first)
    (hothers : ∀ other ∈ others, ConditionImage other) :
    ConditionImage (others.foldl (Condition.join connective) first) := by
  induction others generalizing first with
  | nil => exact hfirst
  | cons other rest ih =>
    obtain ⟨hother, hrest⟩ := List.forall_mem_cons.mp hothers
    exact ih (conditionImage_join hnot hfirst hother) hrest

theorem yields_comparison : Yields ConditionImage comparison := by
  unfold comparison
  refine yields_bind yields_name fun field hfield => ?_
  refine yields_bind (yields_optional (yields_after yields_spaced (yields_commit yields_ident)))
    fun transform htransform => ?_
  refine yields_bind yields_blanks fun _ _ => ?_
  refine yields_bind (yields_commit yields_operator) fun op _ => ?_
  cases hunary : op.isUnary with
  | true => exact yields_give ⟨⟨hfield, htransform, by simp [hunary]⟩, trivial⟩
  | false =>
    refine yields_bind (yields_commit yields_expr) fun operand hoperand => yields_give ?_
    exact ⟨⟨hfield, htransform, by simpa [hunary] using hoperand.1⟩, hoperand.2⟩

theorem yields_connectiveWord {upper lower : String} :
    Yields (fun _ => True) (connectiveWord upper lower) := by
  unfold connectiveWord
  exact yields_bind yields_blanks fun _ _ => yields_orElse yields_keyword yields_keyword

theorem yields_chain {word : Reader Unit} {connective : Connective} (hnot : connective ≠ .not)
    (hword : Yields (fun _ => True) word) (hp : Yields ConditionImage p) :
    Yields ConditionImage (chain word (Condition.join connective) p) := by
  unfold chain
  refine yields_bind hp fun first hfirst => ?_
  refine yields_bind (yields_many (yields_after hword (yields_commit hp))) fun others hothers => ?_
  exact yields_give (conditionImage_foldl hnot hfirst hothers)

theorem agree_chain {word : Reader Unit} {join : Condition → Condition → Condition}
    {G : Condition → Prop} (hword : Yields (fun _ => True) word) (hp : Yields G p)
    (h : AgreeBelow n p q) : AgreeBelow n (chain word join p) (chain word join q) := by
  unfold chain
  refine agree_bind hp h fun first => ?_
  have hmany : AgreeBelow n (many (after word (commit p))) (many (after word (commit q))) :=
    agree_many (agree_bind hword (.refl _ _) fun _ => agree_commit h)
  exact agree_bind (yields_many (yields_after hword (yields_commit hp))) hmany fun _ => .refl _ _

theorem yields_conditionWith (hp : Yields ConditionImage p) :
    Yields ConditionImage (conditionWith p) := by
  unfold conditionWith
  refine yields_bind yields_blanks fun _ _ => ?_
  refine yields_chain (by decide) yields_connectiveWord ?_
  exact yields_chain (by decide) yields_connectiveWord hp

/-- A chain leaves an end of the text, whatever it is a chain of. -/
theorem yields_anyChain {word : Reader Unit} {join : Condition → Condition → Condition}
    {G : Condition → Prop} (hword : Yields (fun _ => True) word) (hp : Yields G p) :
    Yields (fun _ => True) (chain word join p) := by
  unfold chain
  refine yields_bind hp fun _ _ => ?_
  refine yields_bind (yields_many (yields_after hword (yields_commit hp))) fun _ _ => ?_
  exact yields_give trivial

theorem yields_anyCondition {G : Condition → Prop} (hp : Yields G p) :
    Yields (fun _ => True) (conditionWith p) := by
  unfold conditionWith
  refine yields_bind yields_blanks fun _ _ => ?_
  exact yields_anyChain yields_connectiveWord (yields_anyChain yields_connectiveWord hp)

theorem agree_conditionWith {G : Condition → Prop} (hp : Yields G p) (h : AgreeBelow n p q) :
    AgreeBelow n (conditionWith p) (conditionWith q) := by
  unfold conditionWith
  refine agree_bind yields_blanks (.refl _ _) fun _ => ?_
  have hand : Yields (fun _ => True) (chain (connectiveWord "AND" "and") Condition.and p) :=
    yields_anyChain yields_connectiveWord hp
  exact agree_chain yields_connectiveWord hand (agree_chain yields_connectiveWord hp h)

theorem yields_primary (hp : Yields ConditionImage p) : Yields ConditionImage (primary p) := by
  unfold primary grouped
  refine yields_bind yields_blanks fun _ _ => yields_label (yields_orElse ?_ yields_comparison)
  exact yields_between yields_char yields_closing (yields_conditionWith hp)

theorem agree_grouped {G : Condition → Prop} (hp : Yields G p) (h : AgreeBelow n p q) :
    AgreeBelow (n + 1) (grouped p) (grouped q) := by
  unfold grouped
  refine agree_bind_of_consumes consumes_satisfy fun _ => ?_
  exact agree_bind (yields_anyCondition hp) (agree_conditionWith hp h) fun _ => .refl _ _

theorem agree_primary {G : Condition → Prop} (hp : Yields G p) (h : AgreeBelow n p q) :
    AgreeBelow (n + 1) (primary p) (primary q) := by
  unfold primary
  refine agree_bind yields_blanks (.refl _ _) fun _ => ?_
  exact agree_label (agree_orElse (agree_grouped hp h) (.refl _ _))

theorem yields_unaryWith (hp : Yields ConditionImage p) :
    Yields ConditionImage (unaryWith p) := by
  unfold unaryWith
  refine yields_bind yields_blanks fun _ _ => ?_
  refine yields_bind (yields_optional (yields_orElse yields_keyword yields_keyword))
    fun negation _ => ?_
  cases negation with
  | none => exact yields_primary hp
  | some _ =>
    exact yields_map (yields_commit hp) fun c hc =>
      ⟨Condition.readable_negate hc.1, Condition.literals_negate hc.2⟩

theorem agree_unaryWith {G : Condition → Prop} (hp : Yields G p) (h : AgreeBelow n p q) :
    AgreeBelow (n + 1) (unaryWith p) (unaryWith q) := by
  unfold unaryWith
  refine agree_bind yields_blanks (.refl _ _) fun _ => ?_
  refine agree_bind_optional ?_ (fun _ => agree_map (agree_commit h)) (agree_primary hp h)
  exact consumes_orElse (consumes_keyword (by decide)) (consumes_keyword (by decide))

theorem unary_eq : unary = unaryWith unary :=
  fix_eq_body (fun _ => yields_unaryWith) (fun _ _ _ => agree_unaryWith)

theorem yields_unary : Yields ConditionImage unary := fix_ensures fun _ => yields_unaryWith

/-- What is read as a condition can be expressed by rule text. -/
theorem yields_condition : Yields ConditionImage condition := yields_conditionWith yields_unary

end Conditions

end FormRules.RuleText
