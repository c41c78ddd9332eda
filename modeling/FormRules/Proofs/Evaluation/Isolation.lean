import FormRules.Proofs.Evaluation.Priority

/-!
What rules have to do with each other in an evaluation: nothing, although they all add to one
report. Every list in the report on two lists of rules is what the one leads to, followed by what
the other does; rules that do not fire may be taken out without a change of what the others do;
and a rule is named at most once for each time that it is listed (`rules_isolated`).
-/

namespace FormRules

namespace Rule

variable {S : Type} [FieldSchema S] (ctx : Context) (fns : Functions) (schema : S)

/-- A rule that does not fire is disabled, or its condition is false or fails. -/
theorem fires_eq_false_iff {rule : Rule} :
    rule.fires ctx fns = false ↔
      rule.enabled = false ∨ rule.condition.evaluate ctx fns = .ok false ∨
        ∃ error, rule.condition.evaluate ctx fns = .error error := by
  unfold fires Condition.holds
  cases rule.enabled <;> rcases rule.condition.evaluate ctx fns with _ | _ | _ <;> simp

/-- A rule that does not fire has no effects, and none of its actions fails. -/
theorem quiet_report_of_not_fires (rule : Rule) (h : rule.fires ctx fns = false) :
    (rule.report ctx fns schema).effects = [] ∧ (rule.report ctx fns schema).fired = [] ∧
      (rule.report ctx fns schema).actionErrors = [] := by
  rcases (fires_eq_false_iff ctx fns).mp h with hdisabled | hfalse | ⟨error, herror⟩
  · simp [report, Evaluation.addRule, hdisabled]
  · cases henabled : rule.enabled <;> simp [report, Evaluation.addRule, henabled, hfalse]
  · cases henabled : rule.enabled <;> simp [report, Evaluation.addRule, henabled, herror]

section Parts

variable {α : Type} (part : Evaluation → List α)
  (happend : ∀ first second : Evaluation, part (first ++ second) = part first ++ part second)
  (hquiet : ∀ rule : Rule, rule.fires ctx fns = false → part (rule.report ctx fns schema) = [])

include happend hquiet

/-- What only rules that fire contribute to is the same without the others. -/
theorem part_filter_fires (rules : List Rule) :
    part (reportAll ctx fns schema (rules.filter (fires ctx fns))) =
      part (reportAll ctx fns schema rules) := by
  induction rules with
  | nil => rfl
  | cons rule rest ih =>
    cases hfires : rule.fires ctx fns with
    | true =>
      rw [List.filter_cons_of_pos hfires, reportAll_cons, reportAll_cons, happend, happend, ih]
    | false =>
      rw [List.filter_cons_of_neg (by simp [hfires]), reportAll_cons, happend, hquiet rule hfires,
        List.nil_append, ih]

/-- The same in an evaluation, whatever the order. -/
theorem part_ofRules_of_fires {rules others : List Rule} (order : RuleOrder)
    (h : rules.filter (fires ctx fns) = others.filter (fires ctx fns)) :
    part (Evaluation.ofRules ctx fns schema order rules) =
      part (Evaluation.ofRules ctx fns schema order others) := by
  have hfiring : ∀ rules : List Rule, part (Evaluation.ofRules ctx fns schema order rules) =
      part (Evaluation.ofRules ctx fns schema order (rules.filter (fires ctx fns))) := by
    intro rules
    have hfilter := part_filter_fires ctx fns schema part happend hquiet (order.arrange rules)
    rw [← order.arrange_filter] at hfilter
    exact hfilter.symm
  rw [hfiring rules, h, ← hfiring others]

end Parts

end Rule

namespace Evaluation

variable {S : Type} [FieldSchema S] (ctx : Context) (fns : Functions) (schema : S)

/-- Rules are isolated. As they are listed, two lists one after the other have the effects of
the first and then those of the second, and so with all lists of the report. Where the same
rules fire, the effects are the same, whatever other rules are listed with them, and so are the
errors of actions. The report on a rule has its label in at most one place. -/
theorem rules_isolated :
    (∀ first second : List Rule,
        let both := ofRules ctx fns schema .declaration (first ++ second)
        let one := ofRules ctx fns schema .declaration first
        let other := ofRules ctx fns schema .declaration second
        both.effects = one.effects ++ other.effects ∧ both.fired = one.fired ++ other.fired ∧
          both.skipped = one.skipped ++ other.skipped ∧
          both.failures = one.failures ++ other.failures ∧
          both.actionErrors = one.actionErrors ++ other.actionErrors) ∧
      (∀ (order : RuleOrder) (rules kept : List Rule),
        kept.filter (Rule.fires ctx fns) = rules.filter (Rule.fires ctx fns) →
          let all := ofRules ctx fns schema order rules
          let rest := ofRules ctx fns schema order kept
          rest.effects = all.effects ∧ rest.fired = all.fired ∧
            rest.actionErrors = all.actionErrors) ∧
      ∀ rule : Rule,
        let own := ofRules ctx fns schema .declaration [rule]
        own.fired ++ own.skipped ++ own.failures.map RuleFailure.rule = [] ∨
          own.fired ++ own.skipped ++ own.failures.map RuleFailure.rule = [rule.label] := by
  refine ⟨fun first second => ?append, fun order rules kept h => ?removal, fun rule => ?label⟩
  case append =>
    have hboth : ofRules ctx fns schema .declaration (first ++ second) =
        ofRules ctx fns schema .declaration first ++
          ofRules ctx fns schema .declaration second :=
      Rule.reportAll_append ctx fns schema first second
    simp only [hboth]
    exact ⟨rfl, rfl, rfl, rfl, rfl⟩
  case removal =>
    have hquiet := Rule.quiet_report_of_not_fires ctx fns schema
    exact ⟨
      Rule.part_ofRules_of_fires ctx fns schema effects (fun _ _ => rfl)
        (fun rule hidle => (hquiet rule hidle).1) order h,
      Rule.part_ofRules_of_fires ctx fns schema fired (fun _ _ => rfl)
        (fun rule hidle => (hquiet rule hidle).2.1) order h,
      Rule.part_ofRules_of_fires ctx fns schema actionErrors (fun _ _ => rfl)
        (fun rule hidle => (hquiet rule hidle).2.2) order h⟩
  case label =>
    exact Rule.labels_report ctx fns schema rule

/-- A disabled rule and one that calls an unknown function among rules that fire. The failure is
told with the list that it comes from, and by priority the others have the effects that they
have without these two. -/
theorem greetings_isolated :
    let ctx : Context := { formData := Dict.ofList [("name", .string "Ada")] }
    let off := { greeting "off" none with enabled := false }
    let broken := { greeting "broken" (some 1) with
      condition := .comparison ⟨"name", .equals, .call "rate" [], none⟩ }
    let rules := [greeting "two" (some 2), broken] ++ [off, greeting "one" (some 1)]
    let kept := [greeting "two" (some 2), greeting "one" (some 1)]
    kept.filter (Rule.fires ctx .builtin) = rules.filter (Rule.fires ctx .builtin) ∧
      (ofRules ctx .builtin ({} : Schema) .declaration rules).failures =
        [⟨"broken", .unknownFunction "rate"⟩] ++ [] ∧
      (ofRules ctx .builtin ({} : Schema) .priority rules).effects =
        (ofRules ctx .builtin ({} : Schema) .priority kept).effects := by
  intro ctx off broken rules kept
  have hkept : kept.filter (Rule.fires ctx .builtin) = rules.filter (Rule.fires ctx .builtin) := rfl
  obtain ⟨happend, hremoval, -⟩ := rules_isolated ctx .builtin ({} : Schema)
  obtain ⟨-, -, -, hfailures, -⟩ := happend [greeting "two" (some 2), broken]
    [off, greeting "one" (some 1)]
  exact ⟨hkept, hfailures, (hremoval .priority rules kept hkept).1.symm⟩

end Evaluation

end FormRules
