import FormRules.Proofs.RuleText.RuleReadback

/-!
What the readers of actions and rules can give (`yields_rule`). An action that is left to the
host is named and names no field itself, and an action that sets something says what. A rule
has an id and actions, and the notes in its header change neither these nor its condition.
-/

namespace FormRules

open RuleText

/-- What can be read as an action. -/
def Action.Readable (action : Action) : Prop :=
  match action.kind with
  | .custom name _ _ => isIdentifier name = true ∧ action.target = none
  | .setValue value required => value.isSome ∨ required.isSome
  | _ => True

/-- What can be read as a rule. -/
structure Rule.Readable (rule : Rule) : Prop where
  id : ∃ id, rule.id = some id ∧ IsName id
  condition : rule.condition.Readable
  actions : rule.actions ≠ []
  readable : ∀ action ∈ rule.actions, action.Readable

namespace RuleText

open Reader

section Actions

theorem yields_target : Yields (fun _ => True) target :=
  (yields_optional (yields_after yields_blanks yields_name)).mono fun _ _ => trivial

theorem yields_assigned : Yields (fun _ => True) assigned :=
  yields_after yields_spaced (yields_commit (yields_expr.mono fun _ _ => trivial))

theorem yields_quoted : Yields (fun _ => True) quoted :=
  yields_label (yields_after yields_blanks (yields_commit yields_quotedString))

theorem yields_params : Yields (fun _ => True) params := by
  have hentries := yields_separated (yields_spaced (c := ',')) (yields_mapEntry yields_literal)
  exact yields_map (yields_between yields_spaced yields_closing hentries) fun _ _ => trivial

/-- The readers of what follows the word of an action. A part behind the target is read by a
reader of its own. -/
inductive ActionShape : Reader Action → Prop where
  | targeted (kind : ActionKind) : (∀ target, Action.Readable ⟨kind, target⟩) →
      ActionShape (Reader.bind target fun target => give ⟨kind, target⟩)
  | withExpr (kind : Expr → ActionKind) : (∀ e target, Action.Readable ⟨kind e, target⟩) →
      ActionShape (Reader.bind target fun target => Reader.bind assigned fun e =>
        give ⟨kind e, target⟩)
  | withText (kind : String → ActionKind) : (∀ text target, Action.Readable ⟨kind text, target⟩) →
      ActionShape (Reader.bind target fun target => Reader.bind quoted fun text =>
        give ⟨kind text, target⟩)
  | custom : ActionShape (Reader.bind (after blanks (commit ident)) fun name =>
      Reader.bind (optional params) fun params => Reader.bind (optional assigned) fun value =>
        give ⟨.custom name value (params.getD {}), none⟩)
  | unknown : ActionShape abort

/-- Each word stands for one kind of action. -/
theorem actionShape (word : String) : ActionShape (actionAfter word) := by
  unfold actionAfter
  split
  · exact .targeted .show fun _ => trivial
  · exact .targeted .hide fun _ => trivial
  · exact .targeted .enable fun _ => trivial
  · exact .targeted .disable fun _ => trivial
  · exact .targeted (.setValue none (some true)) fun _ => .inr rfl
  · exact .targeted (.setValue none (some false)) fun _ => .inr rfl
  · exact .withExpr (fun e => .setValue (some e) none) fun _ _ => .inl rfl
  · exact .targeted .clearValue fun _ => trivial
  · exact .withText .showWarning fun _ _ => trivial
  · exact .withText .showError fun _ _ => trivial
  · exact .withText .addClass fun _ _ => trivial
  · exact .withText .removeClass fun _ _ => trivial
  · exact .withExpr .setOptions fun _ _ => trivial
  · exact .targeted .triggerValidation fun _ => trivial
  · exact .custom
  · exact .unknown

theorem ActionShape.yields {p : Reader Action} (h : ActionShape p) : Yields Action.Readable p := by
  cases h with
  | targeted kind hkind =>
    exact yields_bind yields_target fun target _ => yields_give (hkind target)
  | withExpr kind hkind =>
    refine yields_bind yields_target fun target _ => ?_
    exact yields_bind yields_assigned fun e _ => yields_give (hkind e target)
  | withText kind hkind =>
    refine yields_bind yields_target fun target _ => ?_
    exact yields_bind yields_quoted fun text _ => yields_give (hkind text target)
  | custom =>
    refine yields_bind (yields_after yields_blanks (yields_commit yields_ident))
      fun name hname => ?_
    refine yields_bind (yields_optional yields_params) fun params _ => ?_
    exact yields_bind (yields_optional yields_assigned) fun value _ => yields_give ⟨hname, rfl⟩
  | unknown => exact yields_abort

theorem yields_action : Yields Action.Readable action := by
  unfold action
  refine yields_bind yields_blanks fun _ _ => ?_
  exact yields_bind (yields_label yields_ident) fun word _ => (actionShape word).yields

end Actions

section Notes

theorem yields_positiveDigits : Yields (fun _ => True) positiveDigits :=
  yields_bind yields_satisfy fun _ _ => yields_bind yields_run fun _ _ => yields_give trivial

theorem yields_int32 : Yields (fun _ => True) int32 := by
  have hsigned : Yields (fun _ => True) signedInteger := by
    refine yields_orElse ?_ (yields_map yields_char fun _ _ => trivial)
    refine yields_bind (yields_optional yields_satisfy) fun _ _ => ?_
    exact yields_bind yields_positiveDigits fun _ _ => yields_give trivial
  exact yields_refine hsigned fun _ _ _ _ => trivial

theorem yields_uint64 : Yields (fun _ => True) uint64 := by
  have hunsigned : Yields (fun _ => True) unsignedInteger :=
    yields_orElse yields_positiveDigits (yields_map yields_char fun _ _ => trivial)
  exact yields_refine hunsigned fun _ _ _ _ => trivial

theorem yields_ruleNote : Yields (fun _ => True) ruleNote := by
  refine yields_between yields_spaced yields_closing (yields_label (yields_commit ?_))
  refine yields_orElse ?priority (yields_orElse ?debounce ?disabled)
  case priority =>
    have hword : Yields (fun _ => True) (keyword "priority") := yields_keyword
    exact yields_map (yields_after hword (yields_after yields_blanks yields_int32))
      fun _ _ => trivial
  case debounce =>
    have hword : Yields (fun _ => True) (keyword "debounce") := yields_keyword
    exact yields_map (yields_after hword (yields_after yields_blanks yields_uint64))
      fun _ _ => trivial
  case disabled => exact yields_map yields_keyword fun _ _ => trivial

/-- A note says nothing about the id, the condition and the actions. -/
theorem readable_apply {rule : Rule} (note : RuleNote) (h : rule.Readable) :
    (note.apply rule).Readable := by
  cases note <;> exact ⟨h.id, h.condition, h.actions, h.readable⟩

theorem readable_foldl_apply {rule : Rule} (notes : List RuleNote) (h : rule.Readable) :
    (notes.foldl RuleNote.apply rule).Readable := by
  induction notes generalizing rule with
  | nil => exact h
  | cons note rest ih => exact ih (readable_apply note h)

end Notes

section Rules

theorem yields_onWord : Yields (fun _ => True) onWord := by
  unfold onWord
  refine yields_bind yields_blanks fun _ _ => ?_
  exact yields_bind yields_keyword fun _ _ => yields_blanks

theorem yields_comma : Yields (fun _ => True) comma := by
  unfold comma
  refine yields_bind yields_blanks fun _ _ => ?_
  exact yields_bind yields_char fun _ _ => yields_give trivial

/-- What is read as a rule is readable. -/
theorem yields_rule : Yields Rule.Readable rule := by
  have hword : Yields (fun _ => True) (keyword "then") := yields_keyword
  have hthen := yields_bind yields_blanks fun _ _ => yields_commit hword
  unfold rule
  refine yields_bind yields_blanks fun _ _ => ?_
  refine yields_bind yields_keyword fun _ _ => ?_
  refine yields_bind yields_blanks fun _ _ => ?_
  refine yields_bind (yields_label (yields_commit yields_name)) fun id hid => ?_
  refine yields_bind (yields_optional (yields_after yields_blanks yields_quotedString))
    fun title _ => ?_
  refine yields_bind (yields_optional (yields_after yields_onWord (yields_commit yields_name)))
    fun subject _ => ?_
  refine yields_bind (yields_many yields_ruleNote) fun notes _ => ?_
  refine yields_bind yields_blanks fun _ _ => ?_
  refine yields_bind (yields_commit yields_char) fun _ _ => ?_
  refine yields_bind yields_blanks fun _ _ => ?_
  refine yields_bind (yields_label (yields_commit yields_keyword)) fun _ _ => ?_
  refine yields_bind (yields_commit yields_condition) fun condition hcondition => ?_
  refine yields_bind (yields_label hthen) fun _ _ => ?_
  refine yields_bind (yields_commit (yields_separated1 yields_comma yields_action))
    fun actions hactions => ?_
  exact yields_give (readable_foldl_apply notes
    ⟨⟨id, rfl, hid⟩, hcondition.1, hactions.1, hactions.2⟩)

/-- A file gives readable rules. -/
theorem yields_rules : Yields (fun list => ∀ rule ∈ list, rule.Readable) rules :=
  yields_bind (yields_many yields_rule) fun _ hlist =>
    yields_bind yields_blanks fun _ _ => yields_give hlist

end Rules

end RuleText

end FormRules
