import FormRules.Proofs.Evaluation.Outcome
import Mathlib.Data.List.Nodup

/-!
What a report says of each rule. The report on a list of rules is put together from the
reports on each (`part_reportAll`), and each of these says one of four things
(`report_cases`): that the rule is disabled, that it failed, nothing, or that it held, with
what its actions lead to. So every rule adds its label at most once, to one of three lists
(`count_labels_ofRules_le`), and where the labels are distinct, the report on a list tells
which rule is which.
-/

namespace FormRules

/-- The rules that a report names by their labels: those that held, the disabled ones and
those that failed. -/
def Evaluation.labels (evaluation : Evaluation) : List String :=
  evaluation.fired ++ evaluation.skipped ++ evaluation.failures.map RuleFailure.rule

theorem RuleOrder.perm_arrange (order : RuleOrder) (rules : List Rule) :
    (order.arrange rules).Perm rules := by
  cases order with
  | declaration => exact List.Perm.refl rules
  | priority => exact List.mergeSort_perm rules Rule.precedes

namespace Rule

variable {S : Type} [FieldSchema S] (ctx : Context) (fns : Functions) (schema : S)

/-- Whether a rule is enabled and its condition evaluates to true. -/
def fires (rule : Rule) : Bool := rule.enabled && rule.condition.holds ctx fns

/-- The effects of an action of a rule that holds. -/
def effectsOf (rule : Rule) (action : Action) : List Effect :=
  (rule.outcomes ctx fns schema action).filterMap effect?

/-- The errors of an action of a rule that holds. -/
def errorsOf (rule : Rule) (action : Action) : List ActionError :=
  (rule.outcomes ctx fns schema action).filterMap error?

theorem mem_effectsOf_iff {rule : Rule} {action : Action} {effect : Effect} :
    effect ∈ rule.effectsOf ctx fns schema action ↔
      .ok effect ∈ rule.outcomes ctx fns schema action := by
  rw [effectsOf, List.mem_filterMap]
  constructor
  · rintro ⟨_ | _, hmem, ⟨⟩⟩
    exact hmem
  · exact fun hmem => ⟨_, hmem, rfl⟩

theorem mem_errorsOf_iff {rule : Rule} {action : Action} {error : ActionError} :
    error ∈ rule.errorsOf ctx fns schema action ↔
      .error error ∈ rule.outcomes ctx fns schema action := by
  rw [errorsOf, List.mem_filterMap]
  constructor
  · rintro ⟨_ | _, hmem, ⟨⟩⟩
    exact hmem
  · exact fun hmem => ⟨_, hmem, rfl⟩

/-- The report on a rule that holds: what its actions lead to, one after the other. -/
theorem report_of_holds {rule : Rule} (henabled : rule.enabled = true)
    (hholds : rule.condition.evaluate ctx fns = .ok true) :
    rule.report ctx fns schema =
      { effects := rule.actions.flatMap (rule.effectsOf ctx fns schema)
        fired := [rule.label]
        actionErrors := rule.actions.flatMap (rule.errorsOf ctx fns schema) } := by
  simp only [report, Evaluation.addRule, henabled, hholds, if_true,
    Evaluation.foldl_applyAction, Evaluation.foldl_addOutcome, List.filterMap_flatMap]
  rfl

/-- All that the report on a rule can be. -/
theorem report_cases (rule : Rule) :
    (rule.enabled = false ∧ rule.report ctx fns schema = { skipped := [rule.label] }) ∨
      (∃ error, rule.enabled = true ∧ rule.condition.evaluate ctx fns = .error error ∧
        rule.report ctx fns schema = { failures := [⟨rule.label, error⟩] }) ∨
      (rule.enabled = true ∧ rule.condition.evaluate ctx fns = .ok false ∧
        rule.report ctx fns schema = {}) ∨
      (rule.enabled = true ∧ rule.condition.evaluate ctx fns = .ok true ∧
        rule.report ctx fns schema =
          { effects := rule.actions.flatMap (rule.effectsOf ctx fns schema)
            fired := [rule.label]
            actionErrors := rule.actions.flatMap (rule.errorsOf ctx fns schema) }) := by
  cases henabled : rule.enabled with
  | false => exact .inl ⟨rfl, by simp [report, Evaluation.addRule, henabled]⟩
  | true =>
    cases hcondition : rule.condition.evaluate ctx fns with
    | error error =>
      exact .inr (.inl ⟨error, rfl, rfl,
        by simp [report, Evaluation.addRule, henabled, hcondition]⟩)
    | ok truth =>
      cases truth with
      | false =>
        exact .inr (.inr (.inl ⟨rfl, rfl,
          by simp [report, Evaluation.addRule, henabled, hcondition]⟩))
      | true =>
        exact .inr (.inr (.inr ⟨rfl, rfl, report_of_holds ctx fns schema henabled hcondition⟩))

theorem mem_fired_report_iff (rule : Rule) (label : String) :
    label ∈ (rule.report ctx fns schema).fired ↔
      label = rule.label ∧ rule.enabled = true ∧ rule.condition.evaluate ctx fns = .ok true := by
  rcases report_cases ctx fns schema rule with
    ⟨henabled, hreport⟩ | ⟨_, henabled, hcondition, hreport⟩ | ⟨henabled, hcondition, hreport⟩ |
    ⟨henabled, hcondition, hreport⟩
  · simp [hreport, henabled]
  · simp [hreport, hcondition]
  · simp [hreport, hcondition]
  · simp [hreport, henabled, hcondition]

theorem mem_skipped_report_iff (rule : Rule) (label : String) :
    label ∈ (rule.report ctx fns schema).skipped ↔
      label = rule.label ∧ rule.enabled = false := by
  rcases report_cases ctx fns schema rule with
    ⟨henabled, hreport⟩ | ⟨_, henabled, hcondition, hreport⟩ | ⟨henabled, hcondition, hreport⟩ |
    ⟨henabled, hcondition, hreport⟩
  · simp [hreport, henabled]
  · simp [hreport, henabled]
  · simp [hreport, henabled]
  · simp [hreport, henabled]

theorem mem_failures_report_iff (rule : Rule) (failure : RuleFailure) :
    failure ∈ (rule.report ctx fns schema).failures ↔
      failure.rule = rule.label ∧ rule.enabled = true ∧
        rule.condition.evaluate ctx fns = .error failure.error := by
  obtain ⟨label, cause⟩ := failure
  rcases report_cases ctx fns schema rule with
    ⟨henabled, hreport⟩ | ⟨_, henabled, hcondition, hreport⟩ | ⟨henabled, hcondition, hreport⟩ |
    ⟨henabled, hcondition, hreport⟩
  · simp [hreport, henabled]
  · simp [hreport, henabled, hcondition, eq_comm]
  · simp [hreport, hcondition]
  · simp [hreport, hcondition]

/-- The report on a rule names the rule in one of its lists, or in none. -/
theorem labels_report (rule : Rule) :
    (rule.report ctx fns schema).labels = [] ∨
      (rule.report ctx fns schema).labels = [rule.label] := by
  rcases report_cases ctx fns schema rule with
    ⟨-, hreport⟩ | ⟨_, -, -, hreport⟩ | ⟨-, -, hreport⟩ | ⟨-, -, hreport⟩
  · simp [hreport, Evaluation.labels]
  · simp [hreport, Evaluation.labels]
  · simp [hreport, Evaluation.labels]
  · simp [hreport, Evaluation.labels]

/-- Every rule adds its label at most once. -/
theorem count_labels_report_le (rule : Rule) (label : String) :
    (rule.report ctx fns schema).labels.count label ≤ [rule.label].count label := by
  rcases labels_report ctx fns schema rule with hnone | hone
  · rw [hnone]
    exact Nat.zero_le _
  · exact Nat.le_of_eq (congrArg (List.count label) hone)

section Parts

variable {α : Type} (part : Evaluation → List α) (hempty : part {} = [])
  (happend : ∀ first second : Evaluation, part (first ++ second) = part first ++ part second)

include hempty happend

/-- A list in a report is put together from the reports on each rule. -/
theorem part_reportAll (rules : List Rule) :
    part (reportAll ctx fns schema rules) =
      rules.flatMap fun rule => part (rule.report ctx fns schema) := by
  induction rules with
  | nil => exact hempty
  | cons rule rest ih => rw [reportAll_cons, happend, ih, List.flatMap_cons]

/-- What a list in a report has, it has from some rule, whatever their order. -/
theorem mem_part_ofRules_iff (order : RuleOrder) (rules : List Rule) (item : α) :
    item ∈ part (Evaluation.ofRules ctx fns schema order rules) ↔
      ∃ rule ∈ rules, item ∈ part (rule.report ctx fns schema) := by
  have hparts := part_reportAll ctx fns schema part hempty happend (order.arrange rules)
  rw [Evaluation.ofRules, ← reportAll, hparts, List.mem_flatMap]
  simp only [(order.perm_arrange rules).mem_iff]

end Parts

end Rule

namespace Evaluation

variable {S : Type} [FieldSchema S] (ctx : Context) (fns : Functions) (schema : S)
  (order : RuleOrder) (rules : List Rule)

theorem mem_fired_ofRules_iff (label : String) :
    label ∈ (ofRules ctx fns schema order rules).fired ↔
      ∃ rule ∈ rules, label = rule.label ∧ rule.enabled = true ∧
        rule.condition.evaluate ctx fns = .ok true := by
  rw [Rule.mem_part_ofRules_iff ctx fns schema fired rfl fun _ _ => rfl]
  simp only [Rule.mem_fired_report_iff]

theorem mem_skipped_ofRules_iff (label : String) :
    label ∈ (ofRules ctx fns schema order rules).skipped ↔
      ∃ rule ∈ rules, label = rule.label ∧ rule.enabled = false := by
  rw [Rule.mem_part_ofRules_iff ctx fns schema skipped rfl fun _ _ => rfl]
  simp only [Rule.mem_skipped_report_iff]

theorem mem_failures_ofRules_iff (failure : RuleFailure) :
    failure ∈ (ofRules ctx fns schema order rules).failures ↔
      ∃ rule ∈ rules, failure.rule = rule.label ∧ rule.enabled = true ∧
        rule.condition.evaluate ctx fns = .error failure.error := by
  rw [Rule.mem_part_ofRules_iff ctx fns schema failures rfl fun _ _ => rfl]
  simp only [Rule.mem_failures_report_iff]

theorem count_labels_append (first second : Evaluation) (label : String) :
    (first ++ second).labels.count label =
      first.labels.count label + second.labels.count label := by
  simp only [labels, append_def, List.map_append, List.count_append]
  omega

/-- A label is told at most as often as there are rules that have it. -/
theorem count_labels_ofRules_le (label : String) :
    (ofRules ctx fns schema order rules).labels.count label ≤
      (rules.map Rule.label).count label := by
  have hall : ∀ arranged : List Rule,
      (Rule.reportAll ctx fns schema arranged).labels.count label ≤
        (arranged.map Rule.label).count label := by
    intro arranged
    induction arranged with
    | nil => exact Nat.le_refl _
    | cons rule rest ih =>
      have hone := Rule.count_labels_report_le ctx fns schema rule label
      have hlabels : (rule :: rest).map Rule.label = [rule.label] ++ rest.map Rule.label := rfl
      rw [Rule.reportAll_cons, count_labels_append, hlabels, List.count_append]
      omega
  calc (ofRules ctx fns schema order rules).labels.count label
      ≤ ((order.arrange rules).map Rule.label).count label := hall _
    _ = (rules.map Rule.label).count label :=
        ((order.perm_arrange rules).map Rule.label).count_eq label

section Distinct

variable {rules} (hlabels : (rules.map Rule.label).Nodup)

include hlabels

/-- Where labels are distinct, no label is told twice. -/
theorem nodup_labels_ofRules : (ofRules ctx fns schema order rules).labels.Nodup :=
  List.nodup_iff_count.mpr fun label =>
    Nat.le_trans (count_labels_ofRules_le ctx fns schema order rules label)
      (List.nodup_iff_count.mp hlabels label)

variable {rule : Rule} (hmem : rule ∈ rules)

include hmem

theorem exists_label_iff {P : Rule → Prop} :
    (∃ other ∈ rules, rule.label = other.label ∧ P other) ↔ P rule := by
  constructor
  · rintro ⟨other, hother, hlabel, hP⟩
    rwa [List.inj_on_of_nodup_map hlabels hmem hother hlabel]
  · exact fun hP => ⟨rule, hmem, rfl, hP⟩

theorem label_mem_fired_iff :
    rule.label ∈ (ofRules ctx fns schema order rules).fired ↔
      rule.enabled = true ∧ rule.condition.evaluate ctx fns = .ok true := by
  rw [mem_fired_ofRules_iff]
  exact exists_label_iff hlabels hmem

theorem label_mem_skipped_iff :
    rule.label ∈ (ofRules ctx fns schema order rules).skipped ↔ rule.enabled = false := by
  rw [mem_skipped_ofRules_iff]
  exact exists_label_iff hlabels hmem

theorem failure_mem_failures_iff (error : EvalError) :
    ⟨rule.label, error⟩ ∈ (ofRules ctx fns schema order rules).failures ↔
      rule.enabled = true ∧ rule.condition.evaluate ctx fns = .error error := by
  rw [mem_failures_ofRules_iff]
  exact exists_label_iff hlabels hmem

end Distinct

end Evaluation

end FormRules
