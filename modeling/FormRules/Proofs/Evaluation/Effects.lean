import FormRules.Proofs.Evaluation.Report

/-!
Where the effects of an evaluation come from: each is an outcome of an action of some rule
that is enabled and holds (`mem_effects_ofRules_iff`), whatever the order of the rules.
-/

namespace FormRules

/-- Whether an effect writes to the form's values. -/
def Effect.writesValue : Effect → Bool
  | .setValue _ _ => true
  | .clearValue _ => true
  | .display _ => false
  | .custom _ => false

/-- Whether actions of a kind may write to the form's values. -/
def ActionKind.writesValue : ActionKind → Bool
  | .setValue (some _) _ => true
  | .clearValue => true
  | _ => false

/-- What an action of a kind may do to the field it applies to. A value that it sets is one
that the schema permits. -/
inductive ActionKind.MayCause {S : Type} [FieldSchema S] (schema : S) (field : String) :
    ActionKind → Effect → Prop where
  | display {kind : ActionKind} {transition : Transition} : transition.field? = some field →
      MayCause schema field kind (.display transition)
  | setValue {expr : Expr} {required : Option Bool} {value : Value} :
      FieldSchema.check schema field value = .ok () →
      MayCause schema field (.setValue (some expr) required) (.setValue field value)
  | clearValue : MayCause schema field .clearValue (.clearValue field)

namespace ActionKind

variable {S : Type} [FieldSchema S] {ctx : Context} {fns : Functions} {schema : S}
  {field : String} {effect : Effect}

theorem mem_valueOutcomes {kind : ActionKind} {expr : Expr}
    (hmem : .ok effect ∈ kind.valueOutcomes ctx fns schema field expr) :
    ∃ value, effect = .setValue field value ∧ FieldSchema.check schema field value = .ok () := by
  unfold valueOutcomes at hmem
  split at hmem
  · simp at hmem
  · simp at hmem
  · rename_i value _
    split at hmem
    · simp at hmem
    · rename_i hpermits
      have heffect : effect = .setValue field value := by simpa using hmem
      exact ⟨value, heffect, hpermits⟩

theorem mem_optionOutcomes {kind : ActionKind} {expr : Expr}
    (hmem : .ok effect ∈ kind.optionOutcomes ctx fns field expr) :
    ∃ items, effect = .display (.setOptions field items) := by
  unfold optionOutcomes at hmem
  split at hmem
  · simp at hmem
  · exact ⟨_, by simpa using hmem⟩
  · exact ⟨_, by simpa using hmem⟩
  · exact ⟨_, by simpa using hmem⟩

/-- What an action does to its field is all that its kind may do. -/
theorem mayCause_of_mem_outcomes {kind : ActionKind}
    (hmem : .ok effect ∈ kind.outcomes ctx fns schema field) :
    kind.MayCause schema field effect := by
  cases kind with
  | setValue value required =>
    rcases List.mem_append.mp hmem with hflag | hvalue
    · obtain ⟨flag, -, heq⟩ := List.mem_map.mp hflag
      cases heq
      exact .display rfl
    · obtain ⟨expr, hexpr, houtcome⟩ := List.mem_flatMap.mp hvalue
      obtain rfl : value = some expr := by simpa using hexpr
      obtain ⟨value, rfl, hpermits⟩ := mem_valueOutcomes houtcome
      exact .setValue hpermits
  | clearValue =>
    cases Except.ok.inj (List.mem_singleton.mp hmem)
    exact .clearValue
  | setOptions options =>
    obtain ⟨items, rfl⟩ := mem_optionOutcomes hmem
    exact .display rfl
  | triggerValidation | custom => simp [outcomes] at hmem
  | «show» | hide | enable | disable | showWarning | showError | addClass | removeClass =>
    cases Except.ok.inj (List.mem_singleton.mp hmem)
    exact .display rfl

end ActionKind

namespace Rule

variable {S : Type} [FieldSchema S] (ctx : Context) (fns : Functions) (schema : S)

theorem mem_effects_report_iff (rule : Rule) (effect : Effect) :
    effect ∈ (rule.report ctx fns schema).effects ↔
      rule.enabled = true ∧ rule.condition.evaluate ctx fns = .ok true ∧
        ∃ action ∈ rule.actions, .ok effect ∈ rule.outcomes ctx fns schema action := by
  rcases report_cases ctx fns schema rule with
    ⟨henabled, hreport⟩ | ⟨_, _, hcondition, hreport⟩ | ⟨_, hcondition, hreport⟩ |
    ⟨henabled, hcondition, hreport⟩
  · simp [hreport, henabled]
  · simp [hreport, hcondition]
  · simp [hreport, hcondition]
  · simp [hreport, henabled, hcondition, List.mem_flatMap, mem_effectsOf_iff]

theorem effects_reportAll_cons (rule : Rule) (rest : List Rule) :
    (reportAll ctx fns schema (rule :: rest)).effects =
      (rule.report ctx fns schema).effects ++ (reportAll ctx fns schema rest).effects :=
  congrArg Evaluation.effects (reportAll_cons ctx fns schema rule rest)

/-- An action of a rule is handed to the host, or it does to its target what its kind may. -/
theorem mem_outcomes_cases {rule : Rule} {action : Action} {effect : Effect}
    (hmem : .ok effect ∈ rule.outcomes ctx fns schema action) :
    action.kind.isCustom = true ∧ effect = .custom action ∨
      action.kind.isCustom = false ∧ ∃ field, rule.target? action = some field ∧
        action.kind.MayCause schema field effect := by
  unfold outcomes at hmem
  split at hmem
  · rename_i hcustom
    have heffect : effect = .custom action := by simpa using hmem
    exact .inl ⟨hcustom, heffect⟩
  · rename_i hcustom
    have hcustom : action.kind.isCustom = false := Bool.eq_false_iff.mpr hcustom
    split at hmem
    · simp at hmem
    · rename_i field htarget
      exact .inr ⟨hcustom, field, htarget, ActionKind.mayCause_of_mem_outcomes hmem⟩

/-- Only an action that may write a value has an effect that does. -/
theorem writesValue_of_mem_outcomes {rule : Rule} {action : Action} {effect : Effect}
    (hmem : .ok effect ∈ rule.outcomes ctx fns schema action)
    (hwrites : effect.writesValue = true) : action.kind.writesValue = true := by
  rcases mem_outcomes_cases ctx fns schema hmem with ⟨_, rfl⟩ | ⟨_, field, _, hcause⟩
  · cases hwrites
  · generalize action.kind = kind at hcause
    cases hcause with
    | display => cases hwrites
    | setValue => rfl
    | clearValue => rfl

end Rule

theorem mem_effects_ofRules_iff {S : Type} [FieldSchema S] (ctx : Context) (fns : Functions)
    (schema : S) (order : RuleOrder) (rules : List Rule) (effect : Effect) :
    effect ∈ (Evaluation.ofRules ctx fns schema order rules).effects ↔
      ∃ rule ∈ rules, rule.enabled = true ∧ rule.condition.evaluate ctx fns = .ok true ∧
        ∃ action ∈ rule.actions, .ok effect ∈ rule.outcomes ctx fns schema action := by
  rw [Rule.mem_part_ofRules_iff ctx fns schema Evaluation.effects rfl fun _ _ => rfl]
  simp only [Rule.mem_effects_report_iff]

/-- Rules without actions that write values have no effects that do. -/
theorem writesValue_eq_false_of_mem_effects {S : Type} [FieldSchema S] {ctx : Context}
    {fns : Functions} {schema : S} {order : RuleOrder} {rules : List Rule}
    (hrules : ∀ rule ∈ rules, ∀ action ∈ rule.actions, action.kind.writesValue = false) :
    ∀ effect ∈ (Evaluation.ofRules ctx fns schema order rules).effects,
      effect.writesValue = false := by
  intro effect hmem
  obtain ⟨rule, hrule, -, -, action, haction, houtcome⟩ :=
    (mem_effects_ofRules_iff ctx fns schema order rules effect).mp hmem
  cases hwrites : effect.writesValue with
  | false => rfl
  | true =>
    have hkind := Rule.writesValue_of_mem_outcomes ctx fns schema houtcome hwrites
    rw [hrules rule hrule action haction] at hkind
    cases hkind

end FormRules
