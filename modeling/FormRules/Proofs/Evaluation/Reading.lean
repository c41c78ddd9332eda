import FormRules.Proofs.Context.Lookup
import FormRules.Proofs.Evaluation.Actions
import FormRules.Proofs.Everywhere

/-!
What rules read of the form data. A compared name is read under the whole name and under its
first segment; a reference with a property is read under the field in front of the property
as well; and a path into the context comes to the form data only through the section of that
name. Rules that mention a field in none of these ways are evaluated alike whatever the form
data has under it (`Evaluation.ofRules_of_sameBut`).
-/

namespace FormRules

/-- Two contexts that differ at most in what the form data has under one field. -/
structure Context.SameBut (field : String) (one other : Context) : Prop where
  formData : ∀ name, name ≠ field → one.formData.get? name = other.formData.get? name
  user : one.user = other.user
  permissions : one.permissions = other.permissions
  metadata : one.metadata = other.metadata
  timestamp : one.timestamp = other.timestamp
  custom : one.custom = other.custom

/-- A field is neither a dotted name nor its first segment. -/
def Path.Avoids (field path : String) : Prop := path ≠ field ∧ first path ≠ field

instance (field path : String) : Decidable (Path.Avoids field path) :=
  inferInstanceAs (Decidable (path ≠ field ∧ Path.first path ≠ field))

namespace Expr

/-- The name that a reference to a field has with its property. -/
def dottedName (name : String) : Option String → String
  | none => name
  | some property => name ++ "." ++ property

/-- An expression itself does not refer to a field, nor to the form data as a section of the
context. -/
def PassesBy (field : String) : Expr → Prop
  | .field name property => name ≠ field ∧ Path.Avoids field (dottedName name property)
  | context path => Path.first path ≠ "formData" ∧ Path.first path ≠ "form_data"
  | _ => True

/-- Nothing in an expression refers to a field. -/
def Avoids (field : String) (e : Expr) : Prop := e.Every (PassesBy field)

end Expr

/-- A comparison is not of a field, and its operand does not refer to it. -/
structure Comparison.Avoids (field : String) (c : Comparison) : Prop where
  compared : Path.Avoids field c.field
  operand : c.operand.Avoids field

namespace Condition

def PassesBy (field : String) : Condition → Prop
  | comparison c => c.Avoids field
  | group _ _ => True

/-- No comparison in a condition mentions a field. -/
def Avoids (field : String) (condition : Condition) : Prop := condition.Every (PassesBy field)

end Condition

/-- A rule does not mention a field: its condition does not, and no expression that one of
its actions resolves. What it does to the field is another matter. -/
structure Rule.Avoids (field : String) (rule : Rule) : Prop where
  condition : rule.condition.Avoids field
  payloads : ∀ action ∈ rule.actions, ∀ payload ∈ action.kind.expr?, payload.Avoids field

section Congruence

/-! The parts of an evaluation take from the context only what their own parts take. -/

variable {S : Type} [FieldSchema S] {one other : Context} {fns : Functions} {schema : S}

theorem Expr.resolveArgs_congr {args : List Expr}
    (h : ∀ arg ∈ args, arg.resolve one fns = arg.resolve other fns) :
    resolveArgs one fns args = resolveArgs other fns args := by
  induction args with
  | nil => rfl
  | cons arg rest ih =>
    obtain ⟨hfirst, hrest⟩ := List.forall_mem_cons.mp h
    simp only [resolveArgs, hfirst, ih hrest]

theorem Condition.groupHolds_congr {connective : Connective} {children : List Condition}
    (h : ∀ child ∈ children, child.evaluate one fns = child.evaluate other fns) :
    groupHolds one fns connective children = groupHolds other fns connective children := by
  induction children with
  | nil => rfl
  | cons child rest ih =>
    obtain ⟨hfirst, hrest⟩ := List.forall_mem_cons.mp h
    cases connective with
    | and | or => simp only [groupHolds, hfirst, ih hrest]
    | not => simp only [groupHolds, hfirst]

theorem ActionKind.outcomes_congr {kind : ActionKind} {field : String}
    (h : ∀ payload ∈ kind.expr?, payload.resolve one fns = payload.resolve other fns) :
    kind.outcomes one fns schema field = kind.outcomes other fns schema field := by
  cases kind with
  | setValue value required =>
    cases value with
    | none => rfl
    | some value =>
      simp only [outcomes, Option.toList_some, List.flatMap_singleton, valueOutcomes, h value rfl]
  | setOptions options => simp only [outcomes, optionOutcomes, h options rfl]
  | triggerValidation | custom => rfl
  | «show» | hide | enable | disable | clearValue | showWarning | showError | addClass
  | removeClass => rfl

namespace Rule

theorem outcomes_congr {rule : Rule} {action : Action}
    (h : ∀ payload ∈ action.kind.expr?, payload.resolve one fns = payload.resolve other fns) :
    rule.outcomes one fns schema action = rule.outcomes other fns schema action := by
  unfold outcomes
  split
  · rfl
  · cases rule.target? action with
    | none => rfl
    | some field => exact ActionKind.outcomes_congr h

theorem report_congr {rule : Rule}
    (hcondition : rule.condition.evaluate one fns = rule.condition.evaluate other fns)
    (hactions : ∀ action ∈ rule.actions,
      rule.outcomes one fns schema action = rule.outcomes other fns schema action) :
    rule.report one fns schema = rule.report other fns schema := by
  simp only [report, Evaluation.addRule, Evaluation.foldl_applyAction, hcondition,
    List.flatMap_congr hactions]

theorem reportAll_congr {rules : List Rule}
    (h : ∀ rule ∈ rules, rule.report one fns schema = rule.report other fns schema) :
    reportAll one fns schema rules = reportAll other fns schema rules := by
  induction rules with
  | nil => rfl
  | cons rule rest ih =>
    obtain ⟨hfirst, hrest⟩ := List.forall_mem_cons.mp h
    rw [reportAll_cons, reportAll_cons, hfirst, ih hrest]

end Rule

end Congruence

section SameBut

variable {S : Type} [FieldSchema S] {field : String} {one other : Context} {fns : Functions}
  {schema : S}
  (hsame : one.SameBut field other)

include hsame

namespace Context

theorem SameBut.field?_eq {path : String} (h : Path.Avoids field path) :
    one.field? path = other.field? path := by
  obtain ⟨hpath, hfirst⟩ := h
  unfold field?
  rw [hsame.formData path hpath]
  cases other.formData.get? path with
  | some value => rfl
  | none =>
    cases hsplit : Path.splitFirst? path with
    | none => rfl
    | some parts =>
      obtain ⟨head, rest⟩ := parts
      rw [Path.first_of_splitFirst? hsplit] at hfirst
      simp only [hsame.formData head hfirst]

/-- The sections other than the form data are the same. -/
theorem SameBut.section?_eq {name : String} (hcamel : name ≠ "formData")
    (hsnake : name ≠ "form_data") : one.section? name = other.section? name := by
  simp only [section?, hcamel, hsnake, or_self, if_false, hsame.metadata, hsame.custom,
    hsame.user, hsame.permissions, hsame.timestamp]

theorem SameBut.lookup?_eq {path : String} (hcamel : Path.first path ≠ "formData")
    (hsnake : Path.first path ≠ "form_data") : one.lookup? path = other.lookup? path := by
  rw [lookup?_eq_descend?, lookup?_eq_descend?]
  cases hsegments : Path.segments path with
  | nil => rfl
  | cons name rest =>
    have hfirst : Path.first path = name := by rw [Path.first, hsegments]; rfl
    rw [hfirst] at hcamel hsnake
    rw [descend?, descend?, hsame.section?_eq hcamel hsnake]

end Context

namespace Expr

/-- A reference reads the form data under its dotted name and its field, and under the first
segment, which these two have in common. -/
theorem fieldValue?_eq {name : String} {property : Option String}
    (h : (Expr.field name property).PassesBy field) :
    fieldValue? one name property = fieldValue? other name property := by
  obtain ⟨hname, hdotted, hfirst⟩ := h
  cases property with
  | none => exact hsame.field?_eq ⟨hname, hfirst⟩
  | some path =>
    rw [dottedName, Path.first_append] at hfirst
    rw [dottedName] at hdotted
    simp only [fieldValue?, hsame.formData _ hdotted, hsame.field?_eq ⟨hname, hfirst⟩]

theorem resolve_eq {e : Expr} (h : e.Avoids field) : e.resolve one fns = e.resolve other fns := by
  induction e with
  | literal value => rfl
  | field name property => rw [resolve, resolve, fieldValue?_eq hsame h]
  | context path => rw [resolve, resolve, hsame.lookup?_eq h.1 h.2]
  | call name args ih =>
    have hargs : resolveArgs one fns args = resolveArgs other fns args :=
      resolveArgs_congr fun arg hmem => ih arg hmem ((every_call.mp h).2 arg hmem)
    rw [resolve, resolve, hargs]

end Expr

theorem Comparison.evaluate_eq {c : Comparison} (h : c.Avoids field) :
    c.evaluate one fns = c.evaluate other fns := by
  simp only [evaluate, fieldValue?, hsame.field?_eq h.compared, Expr.resolve_eq hsame h.operand]

theorem Condition.evaluate_eq {condition : Condition} (h : condition.Avoids field) :
    condition.evaluate one fns = condition.evaluate other fns := by
  induction condition with
  | comparison c => exact Comparison.evaluate_eq hsame h
  | group connective children ih =>
    rw [evaluate, evaluate,
      groupHolds_congr fun child hmem => ih child hmem ((every_group.mp h).2 child hmem)]

theorem Rule.report_eq {rule : Rule} (h : rule.Avoids field) :
    rule.report one fns schema = rule.report other fns schema :=
  report_congr (Condition.evaluate_eq hsame h.condition) fun action haction =>
    outcomes_congr fun payload hpayload =>
      Expr.resolve_eq hsame (h.payloads action haction payload hpayload)

/-- Rules read only the fields that they mention: in two contexts that differ in the value or
the presence of another field, rules have the same effects, the same ones hold, are disabled
and fail, and their actions fail in the same way. -/
theorem Evaluation.ofRules_of_sameBut {rules : List Rule} (order : RuleOrder)
    (havoids : ∀ rule ∈ rules, rule.Avoids field) :
    Evaluation.ofRules one fns schema order rules =
      Evaluation.ofRules other fns schema order rules :=
  Rule.reportAll_congr fun rule hrule =>
    Rule.report_eq hsame (havoids rule ((order.perm_arrange rules).mem_iff.mp hrule))

end SameBut

namespace Context

/-- Another value of a field, or a value where it has none. -/
theorem sameBut_insert (ctx : Context) (field : String) (value : Value) :
    ctx.SameBut field { ctx with formData := ctx.formData.insert field value } where
  formData _ hname := (Dict.get?_insert_of_ne _ (Ne.symm hname) value).symm
  user := rfl
  permissions := rfl
  metadata := rfl
  timestamp := rfl
  custom := rfl

end Context

namespace Evaluation

/-- Compares a loan with what the user may borrow. The remark is set, but never read. -/
def approval : Rule where
  id := some "approve"
  condition := .all [
    .compare "loan.sum" .lessThanOrEqual
      (.call "least" [.field "loan" (some "limit"), .context "user.limit"]) none,
    .negate (.compare "name" .isEmpty (.literal .null) none)]
  actions := [.setValue "remark" (.field "loan" (some "sum")),
    ⟨.setOptions (.field "loan" none), some "loan.sum"⟩]

def bank : Functions :=
  Functions.empty.withFunction "least" fun
    | [.int x, .int y] => .ok (.int (min x y))
    | _ => .error "two numbers"

def borrower : Context where
  formData := Dict.ofList [("loan", .map [("limit", .int 900), ("sum", .int 500)]),
    ("name", .string "Ada")]
  user := some (.map [("limit", .int 700)])

/-- The rule holds and reads two fields, whatever the remark is. -/
theorem approval_ignores_remark :
    let urgent := { borrower with formData := borrower.formData.insert "remark" (.string "!") }
    borrower.field? "remark" = none ∧ urgent.field? "remark" = some (.string "!") ∧
      (ofRules borrower bank ({} : Schema) .declaration [approval]).fired = ["approve"] ∧
      ofRules borrower bank ({} : Schema) .declaration [approval] =
        ofRules urgent bank ({} : Schema) .declaration [approval] := by
  have hfired : (ofRules borrower bank ({} : Schema) .declaration [approval]).fired =
      ["approve"] := by decide
  have havoids : approval.Avoids "remark" := {
    condition := by
      have hloan : Comparison.Avoids "remark" ⟨"loan.sum", .lessThanOrEqual,
          .call "least" [.field "loan" (some "limit"), .context "user.limit"], none⟩ :=
        ⟨by decide, trivial, ⟨by decide, by decide⟩, ⟨by decide, by decide⟩, trivial⟩
      have hname : Comparison.Avoids "remark" ⟨"name", .isEmpty, .literal .null, none⟩ :=
        ⟨by decide, trivial⟩
      exact ⟨trivial, hloan, ⟨trivial, hname, trivial⟩, trivial⟩
    payloads := by
      intro action haction payload hpayload
      rcases List.mem_pair.mp haction with rfl | rfl
      all_goals
        cases hpayload
        exact ⟨by decide, by decide⟩ }
  intro urgent
  have hsame : borrower.SameBut "remark" urgent := borrower.sameBut_insert "remark" _
  refine ⟨rfl, rfl, hfired, ofRules_of_sameBut hsame .declaration fun rule hrule => ?_⟩
  rwa [List.mem_singleton.mp hrule]

end Evaluation

end FormRules
