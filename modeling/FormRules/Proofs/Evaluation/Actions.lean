import FormRules.Proofs.Evaluation.Report
import FormRules.Proofs.Rule.Defect

/-!
What becomes of the actions of a rule that holds. In a rule without defects no action is
lost: each has an effect or one error, but for those that have nothing to do
(`ActionKind.IsSilent`), and an error of one action keeps no other from its effects
(`accepted_actions_answered`).
-/

namespace FormRules

namespace ActionKind

/-- The expression that an action of a kind resolves. The value of a custom action is left to
the host. -/
def expr? : ActionKind → Option Expr
  | .setValue value _ => value
  | .setOptions options => some options
  | _ => none

/-- How an action of a kind fails on a field: the value that it sets is not permitted, or its
expression cannot be resolved. -/
inductive FailsWith {S : Type} [FieldSchema S] (ctx : Context) (fns : Functions) (schema : S)
    (field : String) : ActionKind → ActionError → Prop where
  | rejected {expr : Expr} {required : Option Bool} {value : Value} {messages : List String} :
      expr.resolve ctx fns = .ok (some value) →
      FieldSchema.check schema field value = .error messages →
      FailsWith ctx fns schema field (.setValue (some expr) required) (.rejected field messages)
  | unresolved {kind : ActionKind} {expr : Expr} {cause : EvalError} :
      kind.expr? = some expr → expr.resolve ctx fns = .error cause →
      FailsWith ctx fns schema field kind (.unresolved field kind.name cause)

/-- An action of a kind has nothing to do: it asks for validation, which is left to the host,
or it is to set a field, without a flag, to a value that is not there. -/
def IsSilent (ctx : Context) (fns : Functions) : ActionKind → Prop
  | .triggerValidation => True
  | .setValue (some value) none => value.resolve ctx fns = .ok none
  | _ => False

variable {S : Type} [FieldSchema S] (ctx : Context) (fns : Functions) (schema : S)
  (field : String)

theorem valueOutcomes_eq_nil_iff {kind : ActionKind} {value : Expr} :
    kind.valueOutcomes ctx fns schema field value = [] ↔ value.resolve ctx fns = .ok none := by
  unfold valueOutcomes
  split
  · rename_i herror
    simp [herror]
  · rename_i hnone
    simp [hnone]
  · rename_i hsome
    split <;> simp [hsome]

theorem length_valueOutcomes_le (kind : ActionKind) (value : Expr) :
    (kind.valueOutcomes ctx fns schema field value).length ≤ 1 := by
  unfold valueOutcomes
  split
  · exact Nat.le_refl 1
  · exact Nat.zero_le 1
  · split
    · exact Nat.le_refl 1
    · exact Nat.le_refl 1

theorem length_optionOutcomes (kind : ActionKind) (options : Expr) :
    (kind.optionOutcomes ctx fns field options).length = 1 := by
  unfold optionOutcomes
  split <;> rfl

/-- An action that has its payload and a field comes to nothing only if it is silent. -/
theorem outcomes_eq_nil_iff {kind : ActionKind} (hpayload : kind.hasPayload = true)
    (hcustom : kind.isCustom = false) :
    kind.outcomes ctx fns schema field = [] ↔ kind.IsSilent ctx fns := by
  cases kind with
  | setValue value required =>
    cases required with
    | some flag => simp [outcomes, IsSilent]
    | none =>
      cases value with
      | none => cases hpayload
      | some value => simp [outcomes, IsSilent, valueOutcomes_eq_nil_iff]
  | setOptions options =>
    have hlength := length_optionOutcomes ctx fns field (.setOptions options) options
    constructor
    · intro hnil
      change optionOutcomes ctx fns (.setOptions options) field options = [] at hnil
      rw [hnil] at hlength
      cases hlength
    · intro hsilent
      cases hsilent
  | triggerValidation => simp [outcomes, IsSilent]
  | custom => cases hcustom
  | «show» | hide | enable | disable | clearValue | showWarning | showError | addClass
  | removeClass => simp [outcomes, IsSilent]

/-- An action has at most one error: a flag is always set. -/
theorem length_errors_outcomes_le (kind : ActionKind) :
    ((kind.outcomes ctx fns schema field).filterMap Rule.error?).length ≤ 1 := by
  cases kind with
  | setValue value required =>
    have hflag : (required.toList.map fun flag =>
        (.ok (.display (.setRequired field flag)) : Outcome)).filterMap Rule.error? = [] := by
      cases required <;> rfl
    rw [outcomes, List.filterMap_append, hflag, List.nil_append]
    refine Nat.le_trans (List.length_filterMap_le _ _) ?_
    cases value with
    | none => exact Nat.zero_le 1
    | some value =>
      simpa using length_valueOutcomes_le ctx fns schema field (.setValue (some value) required)
        value
  | setOptions options =>
    exact Nat.le_trans (List.length_filterMap_le _ _)
      (Nat.le_of_eq (length_optionOutcomes ctx fns field (.setOptions options) options))
  | triggerValidation | custom => exact Nat.zero_le 1
  | «show» | hide | enable | disable | clearValue | showWarning | showError | addClass
  | removeClass => exact Nat.zero_le 1

variable {ctx fns schema field}

theorem failsWith_of_mem_outcomes {kind : ActionKind} {error : ActionError}
    (hmem : .error error ∈ kind.outcomes ctx fns schema field) :
    kind.FailsWith ctx fns schema field error := by
  cases kind with
  | setValue value required =>
    rcases List.mem_append.mp hmem with hflag | hvalue
    · simp at hflag
    · obtain ⟨expr, hexpr, houtcome⟩ := List.mem_flatMap.mp hvalue
      obtain rfl : value = some expr := by simpa using hexpr
      unfold valueOutcomes at houtcome
      split at houtcome
      · rename_i cause hcause
        cases Except.error.inj (List.mem_singleton.mp houtcome)
        exact .unresolved rfl hcause
      · cases houtcome
      · rename_i value hresolved
        split at houtcome
        · rename_i messages hrefused
          cases Except.error.inj (List.mem_singleton.mp houtcome)
          exact .rejected hresolved hrefused
        · simp at houtcome
  | setOptions options =>
    change .error error ∈ optionOutcomes ctx fns (.setOptions options) field options at hmem
    unfold optionOutcomes at hmem
    split at hmem
    · rename_i cause hcause
      cases Except.error.inj (List.mem_singleton.mp hmem)
      exact .unresolved rfl hcause
    · simp at hmem
    · simp at hmem
    · simp at hmem
  | triggerValidation | custom => cases hmem
  | «show» | hide | enable | disable | clearValue | showWarning | showError | addClass
  | removeClass => simp [outcomes] at hmem

/-- What an action does to a field does not fail for want of a field. -/
theorem not_failsWith_missingTarget {kind : ActionKind} {rule action : String} :
    ¬kind.FailsWith ctx fns schema field (.missingTarget rule action) := by
  rintro ⟨⟩

end ActionKind

namespace Rule

/-- Outcomes are effects and errors. -/
theorem effects_or_errors {outcomes : List Outcome} (h : outcomes ≠ []) :
    outcomes.filterMap effect? ≠ [] ∨ outcomes.filterMap error? ≠ [] := by
  cases outcomes with
  | nil => exact absurd rfl h
  | cons outcome rest =>
    cases outcome with
    | ok effect => exact .inl (by simp [effect?])
    | error error => exact .inr (by simp [error?])

section Sound

variable {S : Type} [FieldSchema S] {rule : Rule} {action : Action} (ctx : Context)
  (fns : Functions) (schema : S) (hsound : rule.actionDefect? action = none)

include hsound

/-- An action without defects goes to the host, or it has a field to do something to. -/
theorem outcomes_cases :
    (action.kind.isCustom = true ∧ rule.outcomes ctx fns schema action = [.ok (.custom action)]) ∨
      (action.kind.isCustom = false ∧ ∃ field, rule.target? action = some field ∧
        rule.outcomes ctx fns schema action = action.kind.outcomes ctx fns schema field) := by
  obtain ⟨-, htarget⟩ := actionDefect?_eq_none_iff.mp hsound
  cases hcustom : action.kind.isCustom with
  | true => exact .inl ⟨rfl, by simp [outcomes, hcustom]⟩
  | false =>
    obtain ⟨field, hfield⟩ := Option.isSome_iff_exists.mp (htarget hcustom)
    exact .inr ⟨rfl, field, hfield, by simp [outcomes, hcustom, hfield]⟩

theorem outcomes_eq_nil_iff :
    rule.outcomes ctx fns schema action = [] ↔ action.kind.IsSilent ctx fns := by
  rcases outcomes_cases ctx fns schema hsound with
    ⟨hcustom, houtcomes⟩ | ⟨hcustom, field, -, houtcomes⟩
  · rw [houtcomes]
    generalize action.kind = kind at hcustom
    cases kind with
    | custom => simp [ActionKind.IsSilent]
    | _ => cases hcustom
  · rw [houtcomes]
    have hpayload := (actionDefect?_eq_none_iff.mp hsound).1
    exact ActionKind.outcomes_eq_nil_iff ctx fns schema field hpayload hcustom

theorem length_errorsOf_le :
    (rule.errorsOf ctx fns schema action).length ≤ 1 := by
  rw [errorsOf]
  rcases outcomes_cases ctx fns schema hsound with
    ⟨-, houtcomes⟩ | ⟨-, field, -, houtcomes⟩
  · rw [houtcomes]
    exact Nat.zero_le 1
  · rw [houtcomes]
    exact ActionKind.length_errors_outcomes_le ctx fns schema field action.kind

/-- An action without defects that has something to do has an effect, or one error. -/
theorem answered_of_not_isSilent (hbusy : ¬action.kind.IsSilent ctx fns) :
    rule.effectsOf ctx fns schema action ≠ [] ∨
      (rule.errorsOf ctx fns schema action).length = 1 := by
  have houtcomes : rule.outcomes ctx fns schema action ≠ [] := fun hnil =>
    hbusy ((outcomes_eq_nil_iff ctx fns schema hsound).mp hnil)
  refine (effects_or_errors houtcomes).imp_right fun herrors => ?_
  have hpos : 0 < (rule.errorsOf ctx fns schema action).length := List.length_pos_iff.mpr herrors
  have hle := length_errorsOf_le ctx fns schema hsound
  omega

/-- A silent action leads to nothing. -/
theorem nothing_of_isSilent (hsilent : action.kind.IsSilent ctx fns) :
    rule.effectsOf ctx fns schema action = [] ∧ rule.errorsOf ctx fns schema action = [] := by
  have hnil := (outcomes_eq_nil_iff ctx fns schema hsound).mpr hsilent
  simp only [effectsOf, errorsOf, hnil]
  exact ⟨rfl, rfl⟩

end Sound

variable {S : Type} [FieldSchema S] {ctx : Context} {fns : Functions} {schema : S} {rule : Rule}
  {action : Action}

/-- An error of an action is that it has no field, or comes from what it does to its field. -/
theorem mem_errorsOf_cases {error : ActionError}
    (hmem : error ∈ rule.errorsOf ctx fns schema action) :
    (action.kind.isCustom = false ∧ rule.target? action = none ∧
        error = .missingTarget rule.label action.kind.name) ∨
      ∃ field, rule.target? action = some field ∧
        action.kind.FailsWith ctx fns schema field error := by
  have houtcome := (mem_errorsOf_iff ctx fns schema).mp hmem
  unfold outcomes at houtcome
  split at houtcome
  · simp at houtcome
  · rename_i hcustom
    split at houtcome
    · rename_i htarget
      cases Except.error.inj (List.mem_singleton.mp houtcome)
      exact .inl ⟨Bool.eq_false_iff.mpr hcustom, htarget, rfl⟩
    · rename_i field htarget
      exact .inr ⟨field, htarget, ActionKind.failsWith_of_mem_outcomes houtcome⟩

/-- An action without defects can fail only in what it does to its field. -/
theorem failsWith_of_mem_errorsOf (hsound : rule.actionDefect? action = none)
    {error : ActionError} (hmem : error ∈ rule.errorsOf ctx fns schema action) :
    ∃ field, rule.target? action = some field ∧
      action.kind.FailsWith ctx fns schema field error := by
  rcases mem_errorsOf_cases hmem with ⟨hcustom, htarget, -⟩ | hfails
  · have hfield := (actionDefect?_eq_none_iff.mp hsound).2 hcustom
    rw [htarget] at hfield
    cases hfield
  · exact hfails

/-- Only a rule with a defect has an action without a field. -/
theorem missingTarget_mem_report {label name : String}
    (hmem : .missingTarget label name ∈ (rule.report ctx fns schema).actionErrors) :
    rule.label = label ∧ rule.defect? ≠ none := by
  rcases report_cases ctx fns schema rule with
    ⟨-, hreport⟩ | ⟨_, -, -, hreport⟩ | ⟨-, -, hreport⟩ | ⟨-, -, hreport⟩ <;> rw [hreport] at hmem
  · cases hmem
  · cases hmem
  · cases hmem
  · obtain ⟨action, haction, herror⟩ := List.mem_flatMap.mp hmem
    refine ⟨?_, fun hsound => ?_⟩
    · rcases mem_errorsOf_cases herror with ⟨-, -, heq⟩ | ⟨field, -, hfails⟩
      · cases heq
        rfl
      · exact absurd hfails ActionKind.not_failsWith_missingTarget
    · have haction := (defect?_eq_none_iff.mp hsound).2.2 action haction
      obtain ⟨field, -, hfails⟩ := failsWith_of_mem_errorsOf haction herror
      exact ActionKind.not_failsWith_missingTarget hfails

/-- The report on a list of rules has, at each place where a rule stands that holds, all that
its actions lead to. -/
theorem reportAll_of_place (henabled : rule.enabled = true)
    (hholds : rule.condition.evaluate ctx fns = .ok true) (before after : List Rule) :
    let report := reportAll ctx fns schema (before ++ rule :: after)
    report.effects = (reportAll ctx fns schema before).effects ++
        (rule.actions.flatMap (rule.effectsOf ctx fns schema) ++
          (reportAll ctx fns schema after).effects) ∧
      report.actionErrors = (reportAll ctx fns schema before).actionErrors ++
        (rule.actions.flatMap (rule.errorsOf ctx fns schema) ++
          (reportAll ctx fns schema after).actionErrors) := by
  intro report
  have hreport : report = reportAll ctx fns schema before ++
      (rule.report ctx fns schema ++ reportAll ctx fns schema after) := by
    rw [← reportAll_cons]
    exact reportAll_append ctx fns schema before (rule :: after)
  rw [report_of_holds ctx fns schema henabled hholds] at hreport
  rw [hreport]
  exact ⟨rfl, rfl⟩

/-- A rule without defects that holds is evaluated, in whatever order, with all its actions:
what the report has at its place are their effects and errors, action by action. An action
has an effect or exactly one error, unless it is silent; then it has neither. Its errors say
that the schema does not permit the value or that the expression cannot be resolved, and no
error says that it has no field, unless another rule with the same label has a defect. -/
theorem accepted_actions_answered {rule : Rule} (haccepted : rule.defect? = none)
    {ctx : Context} {fns : Functions} (henabled : rule.enabled = true)
    (hholds : rule.condition.evaluate ctx fns = .ok true) (schema : S) (order : RuleOrder)
    {rules : List Rule} (hmem : rule ∈ rules) :
    let report := Evaluation.ofRules ctx fns schema order rules
    let effects := rule.effectsOf ctx fns schema
    let errors := rule.errorsOf ctx fns schema
    rule ∈ order.arrange rules ∧
      (∀ before after, order.arrange rules = before ++ rule :: after →
        report.effects = (reportAll ctx fns schema before).effects ++
            (rule.actions.flatMap effects ++ (reportAll ctx fns schema after).effects) ∧
          report.actionErrors = (reportAll ctx fns schema before).actionErrors ++
            (rule.actions.flatMap errors ++ (reportAll ctx fns schema after).actionErrors)) ∧
      (∀ action ∈ rule.actions,
        (action.kind.IsSilent ctx fns → effects action = [] ∧ errors action = []) ∧
          (¬action.kind.IsSilent ctx fns → effects action ≠ [] ∨ (errors action).length = 1) ∧
          (errors action).length ≤ 1 ∧
          ∀ error ∈ errors action, ∃ field, rule.target? action = some field ∧
            action.kind.FailsWith ctx fns schema field error) ∧
      ∀ name, .missingTarget rule.label name ∈ report.actionErrors →
        ∃ other ∈ rules, other.label = rule.label ∧ other.defect? ≠ none := by
  intro report effects errors
  have hsound := (defect?_eq_none_iff.mp haccepted).2.2
  refine ⟨(order.perm_arrange rules).mem_iff.mpr hmem, ?place, ?action, ?target⟩
  case place =>
    intro before after hplace
    have hreport : report = reportAll ctx fns schema (before ++ rule :: after) := by
      rw [← hplace]
      rfl
    rw [hreport]
    exact reportAll_of_place henabled hholds before after
  case action =>
    intro action haction
    have hdefect := hsound action haction
    exact ⟨nothing_of_isSilent ctx fns schema hdefect,
      answered_of_not_isSilent ctx fns schema hdefect, length_errorsOf_le ctx fns schema hdefect,
      fun error => failsWith_of_mem_errorsOf hdefect⟩
  case target =>
    intro name herror
    obtain ⟨other, hother, hreported⟩ := (mem_part_ofRules_iff ctx fns schema
      Evaluation.actionErrors rfl (fun _ _ => rfl) order rules _).mp herror
    exact ⟨other, hother, missingTarget_mem_report hreported⟩

/-- A rule with an action that the schema refuses, one that sets a flag but has no value to
set, two that have nothing to do, and two that have their effects all the same. -/
def checkout : Rule where
  id := some "checkout"
  subject := some "fee"
  condition := .compare "age" .isNotEmpty (.literal .null) none
  actions := [
    .setValue "age" (.literal (.string "old")),
    ⟨.setValue (some (.call "rate" [])) (some true), none⟩,
    ⟨.setValue (some (.field "discount" none)) none, none⟩,
    ⟨.triggerValidation, none⟩,
    ⟨.show, none⟩,
    .custom "ping"]

/-- Both errors of `checkout` are there, and so are the effects of the actions behind them. -/
theorem checkout_answered :
    let ctx : Context := { formData := Dict.ofList [("age", .int 30)] }
    let schema : Schema := ⟨[{ name := "age", kind := .integer }, { name := "fee", kind := .any }]⟩
    let report := Evaluation.ofRules ctx .builtin schema .declaration [checkout]
    checkout.defect? = none ∧ checkout.enabled = true ∧
      checkout.condition.evaluate ctx .builtin = .ok true ∧
      report.effects = [.display (.setRequired "fee" true), .display (.setVisible "fee" true),
        .custom (.custom "ping")] ∧
      report.actionErrors = [.rejected "age" ["age must be integer, got string"],
        .unresolved "fee" "set_value" (.unknownFunction "rate")] ∧
      (⟨.triggerValidation, none⟩ ∈ checkout.actions ∧
        checkout.errorsOf ctx .builtin schema ⟨.triggerValidation, none⟩ = []) ∧
      ∀ name, .missingTarget "checkout" name ∉ report.actionErrors := by
  intro ctx schema report
  have haccepted : checkout.defect? = none := rfl
  have hholds : checkout.condition.evaluate ctx .builtin = .ok true := rfl
  obtain ⟨-, hplace, haction, htarget⟩ := accepted_actions_answered haccepted rfl hholds schema
    .declaration (List.mem_singleton_self checkout)
  have hvalidation : ⟨.triggerValidation, none⟩ ∈ checkout.actions := by simp [checkout]
  refine ⟨haccepted, rfl, hholds, (hplace [] [] rfl).1, (hplace [] [] rfl).2,
    ⟨hvalidation, ((haction _ hvalidation).1 trivial).2⟩, fun name hname => ?_⟩
  obtain ⟨other, hother, -, hdefect⟩ := htarget name hname
  rw [List.mem_singleton.mp hother] at hdefect
  exact hdefect haccepted

end Rule

end FormRules
