import FormRules.Rule
import FormRules.Unicode.Blank

/-!
Defects of rules that show before any evaluation. A rule's defects are looked for
in a fixed order: no actions, then the condition from left to right, then the
actions one by one, each one's payload before its target. In a list of rules a
repeated id is reported before the rule's own defects.
-/

namespace FormRules

inductive Defect where
  | missingCondition (rule : String)
  | noActions (rule : String)
  | emptyField (rule : String)
  | emptyNot (rule : String)
  | missingTarget (rule : String) (action : String)
  | missingPayload (rule : String) (action : String)
  | duplicateId (id : String)
  deriving DecidableEq

namespace Defect

def message : Defect → String
  | missingCondition rule => "rule '" ++ rule ++ "' has no condition"
  | noActions rule => "rule '" ++ rule ++ "' has no actions"
  | emptyField rule => "rule '" ++ rule ++ "' compares an empty field name"
  | emptyNot rule => "rule '" ++ rule ++ "' has a 'not' condition without children"
  | missingTarget rule action =>
    "action '" ++ action ++ "' in rule '" ++ rule ++ "' has no target field"
  | missingPayload rule action =>
    "action '" ++ action ++ "' in rule '" ++ rule ++ "' is missing its payload"
  | duplicateId id => "duplicate rule id '" ++ id ++ "'"

end Defect

/-- Whether an action says what it is to do. -/
def ActionKind.hasPayload : ActionKind → Bool
  | .custom name _ _ => !Unicode.isBlankText name
  | .setValue value required => value.isSome || required.isSome
  | .showWarning message => !message.isEmpty
  | .showError message => !message.isEmpty
  | .addClass cls => !Unicode.isBlankText cls
  | .removeClass cls => !Unicode.isBlankText cls
  | _ => true

namespace Condition

mutual

/-- The first defect of a condition, in reading order. -/
def defect? (rule : String) : Condition → Option Defect
  | comparison c => if Unicode.isBlankText c.field then some (.emptyField rule) else none
  | group connective children =>
    if connective = .not ∧ children.isEmpty then some (.emptyNot rule)
    else defectOfAll? rule children

def defectOfAll? (rule : String) : List Condition → Option Defect
  | [] => none
  | child :: rest =>
    match defect? rule child with
    | some defect => some defect
    | none => defectOfAll? rule rest

end

end Condition

namespace Rule

/-- The defect of an action of a rule. Custom actions need no target. -/
def actionDefect? (rule : Rule) (action : Action) : Option Defect :=
  if !action.kind.hasPayload then some (.missingPayload rule.label action.kind.name)
  else if !action.kind.isCustom && (rule.target? action).isNone then
    some (.missingTarget rule.label action.kind.name)
  else none

/-- The first defect of a rule. -/
def defect? (rule : Rule) : Option Defect :=
  if rule.actions.isEmpty then some (.noActions rule.label)
  else
    match rule.condition.defect? rule.label with
    | some defect => some defect
    | none => rule.actions.findSome? rule.actionDefect?

/-- The first defect of a list of rules, given the ids before it. -/
def firstDefect? (ids : List String) : List Rule → Option Defect
  | [] => none
  | rule :: rest =>
    match rule.id with
    | none =>
      match rule.defect? with
      | some defect => some defect
      | none => firstDefect? ids rest
    | some id =>
      if ids.contains id then some (.duplicateId id)
      else
        match rule.defect? with
        | some defect => some defect
        | none => firstDefect? (id :: ids) rest

/-- The first defect of a list of rules. -/
def defectOfAll? (rules : List Rule) : Option Defect := firstDefect? [] rules

end Rule

end FormRules
