import FormRules.Proofs.Evaluation.Report
import FormRules.Proofs.Everywhere

/-!
How an evaluation can fail. Only calls fail: of a function that is not registered, or of one
that fails itself (`Expr.mayRaise_of_resolve`). The second makes a comparison false, and a group
takes any failure for false, so a condition fails only where it is a single comparison whose
operand calls an unknown function; and a report tells of no other failure
(`evaluate_fails_only_for_unknown`).
-/

namespace FormRules

namespace Expr

/-- A function of some name is called in an expression, at whatever depth. -/
inductive Calls (name : String) : Expr → Prop where
  | here (args : List Expr) : Calls name (call name args)
  | inside {other : String} {args : List Expr} {arg : Expr} :
      arg ∈ args → Calls name arg → Calls name (call other args)

/-- The errors that an expression may raise: a function that it calls is not registered, or it
is and fails. -/
inductive MayRaise (fns : Functions) (e : Expr) : EvalError → Prop where
  | unknownFunction {name : String} :
      e.Calls name → fns.function? name = none → MayRaise fns e (.unknownFunction name)
  | functionFailed {name reason : String} {f : HostFunction} {values : List Value} :
      e.Calls name → fns.function? name = some f → f values = .error reason →
      MayRaise fns e (.functionFailed name reason)

variable {ctx : Context} {fns : Functions} {error : EvalError}

/-- A call may raise what its arguments may. -/
theorem MayRaise.inside {name : String} {args : List Expr} {arg : Expr} (hmem : arg ∈ args)
    (h : arg.MayRaise fns error) : (call name args).MayRaise fns error := by
  cases h with
  | unknownFunction hcalls hnone => exact .unknownFunction (.inside hmem hcalls) hnone
  | functionFailed hcalls hsome hfails =>
    exact .functionFailed (.inside hmem hcalls) hsome hfails

/-- Arguments fail with the error of one of them. -/
theorem exists_of_resolveArgs {args : List Expr} (h : resolveArgs ctx fns args = .error error) :
    ∃ arg ∈ args, arg.resolve ctx fns = .error error := by
  induction args with
  | nil => cases h
  | cons arg rest ih =>
    rw [resolveArgs] at h
    cases hfirst : arg.resolve ctx fns with
    | error cause =>
      rw [hfirst] at h
      cases h
      exact ⟨arg, List.mem_cons_self, hfirst⟩
    | ok value =>
      cases hrest : resolveArgs ctx fns rest with
      | error cause =>
        rw [hfirst, hrest] at h
        cases h
        obtain ⟨other, hmem, hother⟩ := ih hrest
        exact ⟨other, List.mem_cons_of_mem _ hmem, hother⟩
      | ok values =>
        rw [hfirst, hrest] at h
        cases h

/-- An expression fails in no other way than by a call. -/
theorem mayRaise_of_resolve {e : Expr} (h : e.resolve ctx fns = .error error) :
    e.MayRaise fns error := by
  induction e with
  | literal value => cases h
  | field name property => cases h
  | context path => cases h
  | call name args ih =>
    rw [resolve] at h
    cases hfunction : fns.function? name with
    | none =>
      rw [hfunction] at h
      cases h
      exact .unknownFunction (.here args) hfunction
    | some f =>
      cases hargs : resolveArgs ctx fns args with
      | error cause =>
        rw [hfunction, hargs] at h
        cases h
        obtain ⟨arg, hmem, harg⟩ := exists_of_resolveArgs hargs
        exact (ih arg hmem harg).inside hmem
      | ok values =>
        cases hresult : f values with
        | error reason =>
          simp only [hfunction, hargs, hresult, Except.error.injEq] at h
          subst h
          exact .functionFailed (.here args) hfunction hresult
        | ok value =>
          simp only [hfunction, hargs, hresult] at h
          cases h

end Expr

/-- A condition calls a function that is not registered where that makes it fail: in the operand
of an operator that has one, in a comparison that is not inside a group. -/
inductive Condition.CallsUnknown (fns : Functions) (name : String) : Condition → Prop where
  | operand {c : Comparison} : c.operator.isUnary = false → c.operand.Calls name →
      fns.function? name = none → CallsUnknown fns name (.comparison c)

variable (ctx : Context) (fns : Functions)

namespace Comparison

/-- What an operand that cannot be resolved does to a comparison. -/
theorem evaluate_of_error {c : Comparison} {error : EvalError}
    (hbinary : c.operator.isUnary = false) (h : c.operand.resolve ctx fns = .error error) :
    c.evaluate ctx fns = if error.isDefinitionError then .error error else .ok false := by
  simp [evaluate, hbinary, h]

theorem evaluate_of_ok {c : Comparison} {right : Option Value}
    (h : c.operand.resolve ctx fns = .ok right) :
    ∃ truth, c.evaluate ctx fns = .ok truth := by
  cases hunary : c.operator.isUnary with
  | true =>
    exact ⟨c.operator.holds (c.fieldValue? ctx fns) none, by simp [evaluate, hunary]⟩
  | false =>
    exact ⟨c.operator.holds (c.fieldValue? ctx fns) right, by simp [evaluate, hunary, h]⟩

/-- A comparison fails only for want of a function. -/
theorem callsUnknown_of_evaluate {c : Comparison} {error : EvalError}
    (h : c.evaluate ctx fns = .error error) :
    ∃ name, error = .unknownFunction name ∧ (Condition.comparison c).CallsUnknown fns name := by
  cases hunary : c.operator.isUnary with
  | true => simp [evaluate, hunary] at h
  | false =>
    cases hoperand : c.operand.resolve ctx fns with
    | ok right =>
      obtain ⟨truth, htruth⟩ := evaluate_of_ok ctx fns hoperand
      rw [htruth] at h
      cases h
    | error cause =>
      rw [evaluate_of_error ctx fns hunary hoperand] at h
      cases Expr.mayRaise_of_resolve hoperand with
      | unknownFunction hcalls hnone =>
        cases h
        exact ⟨_, rfl, .operand hunary hcalls hnone⟩
      | functionFailed => cases h

end Comparison

namespace Condition

/-- A condition that fails is a single comparison, and it fails for want of a function. -/
theorem callsUnknown_of_evaluate {condition : Condition} {error : EvalError}
    (h : condition.evaluate ctx fns = .error error) :
    ∃ name, error = .unknownFunction name ∧ condition.CallsUnknown fns name := by
  cases condition with
  | comparison c => exact c.callsUnknown_of_evaluate ctx fns h
  | group connective children =>
    rw [evaluate_group] at h
    cases h

/-- A condition that does not fail has a truth value. -/
theorem exists_truth {condition : Condition} (h : ∀ name, ¬condition.CallsUnknown fns name) :
    ∃ truth, condition.evaluate ctx fns = .ok truth := by
  cases hevaluate : condition.evaluate ctx fns with
  | ok truth => exact ⟨truth, rfl⟩
  | error error =>
    obtain ⟨name, -, hunknown⟩ := callsUnknown_of_evaluate ctx fns hevaluate
    exact absurd hunknown (h name)

/-- Evaluating a condition fails only with an unknown function, and only where a single
comparison with an operand calls a function of this name that is not registered. So a group
never fails; a function that fails makes a comparison false; and a comparison whose operand
calls registered functions only has a truth value, whatever these functions do. Hence the
failures in a report are unknown functions of enabled rules with such conditions. -/
theorem evaluate_fails_only_for_unknown :
    (∀ (condition : Condition) (error : EvalError),
        condition.evaluate ctx fns = .error error →
          ∃ name, error = .unknownFunction name ∧ condition.CallsUnknown fns name) ∧
      (∀ (connective : Connective) (children : List Condition),
        ∃ truth, (group connective children).evaluate ctx fns = .ok truth) ∧
      (∀ (c : Comparison) (name reason : String), c.operator.isUnary = false →
        c.operand.resolve ctx fns = .error (.functionFailed name reason) →
          (comparison c).evaluate ctx fns = .ok false) ∧
      (∀ c : Comparison, (∀ name, c.operand.Calls name → (fns.function? name).isSome) →
        ∃ truth, (comparison c).evaluate ctx fns = .ok truth) ∧
      ∀ (S : Type) [FieldSchema S] (schema : S) (order : RuleOrder) (rules : List Rule),
        ∀ failure ∈ (Evaluation.ofRules ctx fns schema order rules).failures,
          ∃ rule ∈ rules, rule.enabled = true ∧ failure.rule = rule.label ∧
            ∃ name, failure.error = .unknownFunction name ∧
              rule.condition.CallsUnknown fns name := by
  refine ⟨fun condition error => callsUnknown_of_evaluate ctx fns,
    fun connective children => ?group, fun c name reason hbinary hfails => ?failing,
    fun c hregistered => ?registered, fun S _ schema order rules failure hmem => ?report⟩
  case group => exact ⟨_, evaluate_group ctx fns connective children⟩
  case failing => exact c.evaluate_of_error ctx fns hbinary hfails
  case registered =>
    apply exists_truth ctx fns
    rintro name ⟨_, hcalls, hnone⟩
    have hsome := hregistered name hcalls
    rw [hnone] at hsome
    cases hsome
  case report =>
    obtain ⟨rule, hrule, hlabel, henabled, hfails⟩ :=
      (Evaluation.mem_failures_ofRules_iff ctx fns schema order rules failure).mp hmem
    exact ⟨rule, hrule, henabled, hlabel, callsUnknown_of_evaluate ctx fns hfails⟩

/-- The fee is compared with what a function gives for an argument that is a call itself. -/
def feeCheck (inner : String) : Comparison :=
  ⟨"fee", .equals, .call "discount" [.call inner []], none⟩

/-- A function that always fails. -/
def refusing : Functions :=
  Functions.empty.withFunction "discount" fun _ => .error "no discount"

/-- The call inside fails before the function that refuses is called; in a group this counts as
false; and where the call inside is known, the refusal does. -/
theorem feeCheck_fails_for_inner :
    let ctx : Context := { formData := Dict.ofList [("fee", .int 5)] }
    let known := refusing.withFunction "rate" fun _ => .ok (.int 1)
    (comparison (feeCheck "rate")).evaluate ctx refusing = .error (.unknownFunction "rate") ∧
      (comparison (feeCheck "rate")).CallsUnknown refusing "rate" ∧
      (group .not [comparison (feeCheck "rate")]).evaluate ctx refusing = .ok true ∧
      (comparison (feeCheck "rate")).evaluate ctx known = .ok false := by
  intro ctx known
  have hfails : (comparison (feeCheck "rate")).evaluate ctx refusing =
      .error (.unknownFunction "rate") := rfl
  obtain ⟨hunknown, -⟩ := evaluate_fails_only_for_unknown ctx refusing
  obtain ⟨-, -, hfailing, -⟩ := evaluate_fails_only_for_unknown ctx known
  obtain ⟨name, hname, hcalls⟩ := hunknown _ _ hfails
  cases hname
  exact ⟨hfails, hcalls, rfl, hfailing _ "discount" "no discount" rfl rfl⟩

end Condition

end FormRules
