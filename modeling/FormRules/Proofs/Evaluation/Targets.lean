import FormRules.Proofs.Evaluation.Effects

/-!
Which fields an evaluation is about. An effect is about a field only if the field is a target
of its rule, so what happens to one field comes from the rules with this target, in their
order (`filter_isAbout_effects`).
-/

namespace FormRules

/-- Whether a transition may change something about a field. -/
def Transition.isAbout (field : String) : Transition → Bool
  | .declare fields => fields.contains field
  | transition => transition.field? == some field

/-- Whether an effect may change something about a field. -/
def Effect.isAbout (field : String) : Effect → Bool
  | .display transition => transition.isAbout field
  | .setValue other _ => other == field
  | .clearValue other => other == field
  | .custom _ => false

/-- What an action may do is about the field that it applies to. -/
theorem ActionKind.MayCause.eq_of_isAbout {S : Type} [FieldSchema S] {schema : S}
    {field other : String} {kind : ActionKind} {effect : Effect}
    (h : kind.MayCause schema field effect) (habout : effect.isAbout other = true) : other = field := by
  cases h with
  | @display _ transition hfield =>
    cases transition with
    | declare fields => cases hfield
    | _ =>
      cases hfield
      have hsame : (some field == some other) = true := habout
      exact (Option.some.inj (eq_of_beq hsame)).symm
  | setValue _ =>
    have hsame : (field == other) = true := habout
    exact (eq_of_beq hsame).symm
  | clearValue =>
    have hsame : (field == other) = true := habout
    exact (eq_of_beq hsame).symm

namespace Rule

/-- The fields that the actions of a rule apply to, other than custom ones. -/
def targets (rule : Rule) : List String :=
  (rule.actions.filter fun action => !action.kind.isCustom).filterMap rule.target?

theorem mem_targets_iff {rule : Rule} {field : String} :
    field ∈ rule.targets ↔
      ∃ action ∈ rule.actions, action.kind.isCustom = false ∧ rule.target? action = some field := by
  simp [targets, List.mem_filterMap, and_assoc]

/-- Whether two rules have a target in common. -/
def SharesTarget (first second : Rule) : Prop := ∃ field ∈ first.targets, field ∈ second.targets

instance (first second : Rule) : Decidable (first.SharesTarget second) :=
  inferInstanceAs (Decidable (∃ field ∈ first.targets, field ∈ second.targets))

variable {S : Type} [FieldSchema S] (ctx : Context) (fns : Functions) (schema : S)

theorem mem_targets_of_isAbout {rule : Rule} {effect : Effect} {field : String}
    (hmem : effect ∈ (rule.report ctx fns schema).effects)
    (habout : effect.isAbout field = true) : field ∈ rule.targets := by
  obtain ⟨-, -, action, haction, houtcome⟩ :=
    (mem_effects_report_iff ctx fns schema rule effect).mp hmem
  rcases mem_outcomes_cases ctx fns schema houtcome with
    ⟨_, rfl⟩ | ⟨hcustom, target, htarget, hcause⟩
  · cases habout
  · have hfield := hcause.eq_of_isAbout habout
    exact mem_targets_iff.mpr ⟨action, haction, hcustom, hfield ▸ htarget⟩

/-- Only the rules with a field among their targets do something to it. -/
theorem filter_isAbout_effects (rules : List Rule) (field : String) :
    (reportAll ctx fns schema rules).effects.filter (Effect.isAbout field) =
      (reportAll ctx fns schema (rules.filter fun rule =>
        rule.targets.contains field)).effects.filter (Effect.isAbout field) := by
  induction rules with
  | nil => rfl
  | cons rule rest ih =>
    rw [effects_reportAll_cons, List.filter_append, ih]
    cases htarget : rule.targets.contains field with
    | true =>
      rw [List.filter_cons_of_pos (by simpa using htarget), effects_reportAll_cons,
        List.filter_append]
    | false =>
      have hnone : (rule.report ctx fns schema).effects.filter (Effect.isAbout field) = [] := by
        apply List.filter_eq_nil_iff.mpr
        intro effect hmem habout
        have htargets := mem_targets_of_isAbout ctx fns schema hmem habout
        simp [htargets] at htarget
      rw [List.filter_cons_of_neg (by simpa using htarget), hnone, List.nil_append]

end Rule

end FormRules
