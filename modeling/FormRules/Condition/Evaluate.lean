import FormRules.Condition
import FormRules.Expr.Resolve
import FormRules.Operator.Meaning

/-!
Evaluation of conditions. A comparison fails when its operand calls an unknown
function; a group never fails, since a failing child counts as false
(`evaluate_group`).
-/

namespace FormRules

/-- The field's value after the transform, if the transform is registered. -/
def Comparison.fieldValue? (ctx : Context) (fns : Functions) (c : Comparison) : Option Value :=
  (ctx.field? c.field).map fun value =>
    match c.transform.bind fns.transform? with
    | some transform => transform value
    | none => value

/-- Evaluates a comparison. The operand of a unary operator is not resolved at all;
a function that fails makes the comparison false. -/
def Comparison.evaluate (ctx : Context) (fns : Functions) (c : Comparison) :
    Except EvalError Bool :=
  let left := c.fieldValue? ctx fns
  if c.operator.isUnary then .ok (c.operator.holds left none)
  else
    match c.operand.resolve ctx fns with
    | .ok right => .ok (c.operator.holds left right)
    | .error e => if e.isDefinitionError then .error e else .ok false

namespace Condition

mutual

def evaluate (ctx : Context) (fns : Functions) : Condition → Except EvalError Bool
  | comparison c => c.evaluate ctx fns
  | group connective children => .ok (groupHolds ctx fns connective children)

/-- Whether a group holds. -/
def groupHolds (ctx : Context) (fns : Functions) (connective : Connective) :
    List Condition → Bool
  | [] => connective != .or
  | child :: rest =>
    let holds :=
      match evaluate ctx fns child with
      | .ok truth => truth
      | .error _ => false
    match connective with
    | .and => holds && groupHolds ctx fns .and rest
    | .or => holds || groupHolds ctx fns .or rest
    | .not => !holds

end

/-- Whether a condition holds, an error counting as false. -/
def holds (ctx : Context) (fns : Functions) (condition : Condition) : Bool :=
  match condition.evaluate ctx fns with
  | .ok truth => truth
  | .error _ => false

theorem groupHolds_and (ctx : Context) (fns : Functions) (children : List Condition) :
    groupHolds ctx fns .and children = children.all (holds ctx fns) := by
  induction children with
  | nil => rfl
  | cons child rest ih =>
    simp only [groupHolds, List.all_cons, ih, holds]

theorem groupHolds_or (ctx : Context) (fns : Functions) (children : List Condition) :
    groupHolds ctx fns .or children = children.any (holds ctx fns) := by
  induction children with
  | nil => rfl
  | cons child rest ih =>
    simp only [groupHolds, List.any_cons, ih, holds]

theorem groupHolds_not (ctx : Context) (fns : Functions) (children : List Condition) :
    groupHolds ctx fns .not children = !(children.head?.any (holds ctx fns)) := by
  cases children with
  | nil => rfl
  | cons child rest => simp [groupHolds, holds]

/-- A group evaluates without an error, by the truth of its children. -/
theorem evaluate_group (ctx : Context) (fns : Functions) (connective : Connective)
    (children : List Condition) :
    (group connective children).evaluate ctx fns =
      .ok (match connective with
        | .and => children.all (holds ctx fns)
        | .or => children.any (holds ctx fns)
        | .not => !(children.head?.any (holds ctx fns))) := by
  rw [evaluate]
  cases connective with
  | and => rw [groupHolds_and]
  | or => rw [groupHolds_or]
  | not => rw [groupHolds_not]

end Condition

end FormRules
