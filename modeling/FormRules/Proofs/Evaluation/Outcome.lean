import FormRules.Evaluation

/-!
An evaluation taken apart into what each rule adds to the report. A rule adds to the ends of the
lists in the report, and never looks at what is in them: an action adds its outcomes
(`Evaluation.applyAction_eq`), and a rule what it leaves in an empty report
(`Evaluation.addRule_eq`). So the one report that all rules share is put together from the reports
on each of them alone (`Rule.reportAll_cons`).
-/

namespace FormRules

/-- What one action leads to: effects and errors in the order in which they arise. -/
abbrev Outcome := Except ActionError Effect

namespace ActionKind

variable {S : Type} [FieldSchema S] (ctx : Context) (fns : Functions)

/-- The outcome of setting a field to an expression's value, if there is one. -/
def valueOutcomes (schema : S) (kind : ActionKind) (field : String) (value : Expr) :
    List Outcome :=
  match value.resolve ctx fns with
  | .error cause => [.error (.unresolved field kind.name cause)]
  | .ok none => []
  | .ok (some value) =>
    match FieldSchema.check schema field value with
    | .error messages => [.error (.rejected field messages)]
    | .ok () => [.ok (.setValue field value)]

/-- The outcome of offering an expression's value as options. -/
def optionOutcomes (kind : ActionKind) (field : String) (options : Expr) : List Outcome :=
  match options.resolve ctx fns with
  | .error cause => [.error (.unresolved field kind.name cause)]
  | .ok none => [.ok (.display (.setOptions field []))]
  | .ok (some (.array items)) => [.ok (.display (.setOptions field items))]
  | .ok (some value) => [.ok (.display (.setOptions field [value]))]

/-- What an action does to the field it applies to. -/
def outcomes (schema : S) (kind : ActionKind) (field : String) : List Outcome :=
  match kind with
  | .show => [.ok (.display (.setVisible field true))]
  | .hide => [.ok (.display (.setVisible field false))]
  | .enable => [.ok (.display (.setDisabled field false))]
  | .disable => [.ok (.display (.setDisabled field true))]
  | .setValue value required =>
    required.toList.map (fun flag => .ok (.display (.setRequired field flag))) ++
      value.toList.flatMap (kind.valueOutcomes ctx fns schema field)
  | .clearValue => [.ok (.clearValue field)]
  | .showWarning message => [.ok (.display (.addWarning field message))]
  | .showError message => [.ok (.display (.addError field message))]
  | .addClass cls => [.ok (.display (.addClass field cls))]
  | .removeClass cls => [.ok (.display (.removeClass field cls))]
  | .setOptions options => kind.optionOutcomes ctx fns field options
  | .triggerValidation => []
  | .custom .. => []

end ActionKind

/-- One report after another. -/
instance : Append Evaluation where
  append x y := ⟨x.effects ++ y.effects, x.fired ++ y.fired, x.skipped ++ y.skipped,
    x.failures ++ y.failures, x.actionErrors ++ y.actionErrors⟩

namespace Rule

variable {S : Type} [FieldSchema S] (ctx : Context) (fns : Functions) (schema : S)

/-- What an action of a rule that holds leads to. -/
def outcomes (rule : Rule) (action : Action) : List Outcome :=
  if action.kind.isCustom then [.ok (.custom action)]
  else
    match rule.target? action with
    | none => [.error (.missingTarget rule.label action.kind.name)]
    | some field => action.kind.outcomes ctx fns schema field

/-- The effect of an outcome, if it is one. -/
def effect? : Outcome → Option Effect
  | .ok effect => some effect
  | .error _ => none

/-- The error of an outcome, if it is one. -/
def error? : Outcome → Option ActionError
  | .ok _ => none
  | .error error => some error

/-- The report on a rule alone. -/
def report (rule : Rule) : Evaluation := ({} : Evaluation).addRule ctx fns schema rule

/-- The report on a list of rules. -/
def reportAll (rules : List Rule) : Evaluation :=
  rules.foldl (Evaluation.addRule ctx fns schema) {}

end Rule

namespace Evaluation

theorem append_def (x y : Evaluation) :
    x ++ y = ⟨x.effects ++ y.effects, x.fired ++ y.fired, x.skipped ++ y.skipped,
      x.failures ++ y.failures, x.actionErrors ++ y.actionErrors⟩ := rfl

theorem append_assoc (x y z : Evaluation) : x ++ y ++ z = x ++ (y ++ z) := by
  simp [append_def]

theorem empty_append (x : Evaluation) : {} ++ x = x := by
  simp [append_def]

theorem append_empty (x : Evaluation) : x ++ {} = x := by
  simp [append_def]

/-- Adds an outcome to a report. -/
def addOutcome (report : Evaluation) : Outcome → Evaluation
  | .ok effect => report.addEffect effect
  | .error error => report.addActionError error

/-- Outcomes that are added one after the other come behind what is there. -/
theorem foldl_addOutcome (report : Evaluation) (outcomes : List Outcome) :
    outcomes.foldl addOutcome report =
      report ++ {
        effects := outcomes.filterMap Rule.effect?
        actionErrors := outcomes.filterMap Rule.error? } := by
  induction outcomes generalizing report with
  | nil => exact (append_empty report).symm
  | cons outcome rest ih =>
    rw [List.foldl_cons, ih, append_def, append_def]
    cases outcome with
    | ok effect =>
      simp [addOutcome, addEffect, List.filterMap_cons, Rule.effect?, Rule.error?]
    | error error =>
      simp [addOutcome, addActionError, List.filterMap_cons, Rule.effect?, Rule.error?]

variable {S : Type} [FieldSchema S] (ctx : Context) (fns : Functions) (schema : S)
  (report : Evaluation)

theorem setValue_eq (kind : ActionKind) (field : String) (value : Expr) :
    report.setValue ctx fns schema kind field value =
      (kind.valueOutcomes ctx fns schema field value).foldl addOutcome report := by
  unfold setValue ActionKind.valueOutcomes
  rcases value.resolve ctx fns with cause | _ | value
  · rfl
  · rfl
  · dsimp only
    cases FieldSchema.check schema field value with
    | error messages => rfl
    | ok _ => rfl

theorem setOptions_eq (kind : ActionKind) (field : String) (options : Expr) :
    report.setOptions ctx fns kind field options =
      (kind.optionOutcomes ctx fns field options).foldl addOutcome report := by
  unfold setOptions ActionKind.optionOutcomes
  rcases options.resolve ctx fns with cause | _ | value
  · rfl
  · rfl
  · cases value <;> rfl

/-- What an action does to its field is to add its outcomes. -/
theorem applyTo_eq (field : String) (kind : ActionKind) :
    report.applyTo ctx fns schema field kind =
      (kind.outcomes ctx fns schema field).foldl addOutcome report := by
  cases kind with
  | setValue value required =>
    cases value with
    | none => cases required <;> rfl
    | some value =>
      rw [ActionKind.outcomes, Option.toList_some, List.flatMap_singleton, List.foldl_append]
      cases required with
      | none => exact setValue_eq ctx fns schema report _ field value
      | some flag => exact setValue_eq ctx fns schema _ _ field value
  | setOptions options => exact setOptions_eq ctx fns report _ field options
  | «show» | hide | enable | disable | clearValue | showWarning | showError | addClass
  | removeClass | triggerValidation | custom => rfl

theorem applyAction_eq (rule : Rule) (action : Action) :
    report.applyAction ctx fns schema rule action =
      (rule.outcomes ctx fns schema action).foldl addOutcome report := by
  unfold applyAction Rule.outcomes
  split
  · rfl
  · cases rule.target? action with
    | none => rfl
    | some field => exact applyTo_eq ctx fns schema report field action.kind

/-- The actions of a rule add all their outcomes, action by action. -/
theorem foldl_applyAction (rule : Rule) (actions : List Action) :
    actions.foldl (applyAction ctx fns schema rule) report =
      (actions.flatMap (rule.outcomes ctx fns schema)).foldl addOutcome report := by
  induction actions generalizing report with
  | nil => rfl
  | cons action rest ih =>
    rw [List.foldl_cons, applyAction_eq, ih, List.flatMap_cons, List.foldl_append]

/-- One step: a rule adds to a report what it leaves in an empty one. -/
theorem addRule_eq (rule : Rule) :
    report.addRule ctx fns schema rule = report ++ rule.report ctx fns schema := by
  unfold Rule.report addRule
  split
  · rcases rule.condition.evaluate ctx fns with error | _ | _
    · simp [append_def]
    · simp [append_def]
    · simp [append_def, foldl_applyAction, foldl_addOutcome]
  · simp [append_def]

/-- A run: rules add to a report what they leave in an empty one. -/
theorem foldl_addRule (rules : List Rule) :
    rules.foldl (addRule ctx fns schema) report =
      report ++ Rule.reportAll ctx fns schema rules := by
  unfold Rule.reportAll
  induction rules generalizing report with
  | nil => exact (append_empty report).symm
  | cons rule rest ih =>
    rw [List.foldl_cons, List.foldl_cons, ih, ih (addRule ..), addRule_eq, addRule_eq, append_assoc,
      empty_append]

end Evaluation

namespace Rule

variable {S : Type} [FieldSchema S] (ctx : Context) (fns : Functions) (schema : S)

/-- The report that all rules share is put together from the reports on each rule alone. -/
theorem reportAll_cons (rule : Rule) (rest : List Rule) :
    reportAll ctx fns schema (rule :: rest) =
      rule.report ctx fns schema ++ reportAll ctx fns schema rest :=
  Evaluation.foldl_addRule ctx fns schema (rule.report ctx fns schema) rest

theorem reportAll_append (xs ys : List Rule) :
    reportAll ctx fns schema (xs ++ ys) =
      reportAll ctx fns schema xs ++ reportAll ctx fns schema ys :=
  List.foldl_append.trans
    (Evaluation.foldl_addRule ctx fns schema (reportAll ctx fns schema xs) ys)

end Rule

end FormRules
