import FormRules.Condition.Evaluate
import FormRules.FormState
import FormRules.Rule
import FormRules.Schema

/-!
The evaluation of rules. Rules that hold yield effects, which someone else carries
out; rules that are disabled, that fail, and actions that cannot be carried out are
reported. There is one report for all rules: each rule adds to what the rules before
it have left.
-/

namespace FormRules

/-- Something that a rule does to the form. -/
inductive Effect where
  | display (transition : Transition)
  | setValue (field : String) (value : Value)
  /-- Empties a field and takes back its validation errors. -/
  | clearValue (field : String)
  | custom (action : Action)

/-- Why an action of a rule that holds has no effect. -/
inductive ActionError where
  | rejected (field : String) (messages : List String)
  | missingTarget (rule : String) (action : String)
  | unresolved (field : String) (action : String) (cause : EvalError)
  deriving DecidableEq

/-- The wording for a value that the schema does not permit. -/
def Schema.rejection (field : String) (messages : List String) : String :=
  "value for field '" ++ field ++ "' rejected by schema: " ++ String.intercalate "; " messages

def ActionError.message : ActionError → String
  | rejected field messages => Schema.rejection field messages
  | missingTarget rule action =>
    "action '" ++ action ++ "' in rule '" ++ rule ++ "' has no target field"
  | unresolved field action cause =>
    "action '" ++ action ++ "' on field '" ++ field ++ "' failed: " ++ cause.message

/-- A rule whose condition cannot be evaluated. It counts as one that does not hold. -/
structure RuleFailure where
  rule : String
  error : EvalError
  deriving DecidableEq

/-- What evaluating rules leads to, rules being named by their labels. -/
structure Evaluation where
  effects : List Effect := []
  /-- The rules that held. -/
  fired : List String := []
  /-- The disabled rules. -/
  skipped : List String := []
  failures : List RuleFailure := []
  actionErrors : List ActionError := []

namespace Evaluation

instance : Inhabited Evaluation := ⟨{}⟩

def addEffect (report : Evaluation) (effect : Effect) : Evaluation :=
  { report with effects := report.effects ++ [effect] }

def addActionError (report : Evaluation) (error : ActionError) : Evaluation :=
  { report with actionErrors := report.actionErrors ++ [error] }

def hasFired (evaluation : Evaluation) (rule : String) : Bool :=
  evaluation.fired.contains rule

/-- A part of the summary that is left out where there is nothing to tell. -/
def countText {α : Type} (title : String) (items : List α) : String :=
  if items.isEmpty then "" else ", " ++ title ++ ": " ++ Nat.repr items.length

/-- A summary: which rules held or were skipped, and how much there is of the rest. -/
def text (evaluation : Evaluation) : String :=
  "fired: [" ++ String.intercalate ", " evaluation.fired ++ "]" ++
    (if evaluation.skipped.isEmpty then ""
      else ", skipped: [" ++ String.intercalate ", " evaluation.skipped ++ "]") ++
    ", effects: " ++ Nat.repr evaluation.effects.length ++
    countText "failures" evaluation.failures ++
    countText "action errors" evaluation.actionErrors

end Evaluation

/-- In which order rules are evaluated. -/
inductive RuleOrder where
  /-- As they are listed. -/
  | declaration
  /-- By ascending priority, those without one last; as listed where these are equal. -/
  | priority
  deriving DecidableEq

/-- Whether a rule may come before another one by priority. -/
def Rule.precedes (x y : Rule) : Bool :=
  match x.priority, y.priority with
  | some p, some q => p ≤ q
  | some _, none => true
  | none, some _ => false
  | none, none => true

def RuleOrder.arrange (order : RuleOrder) (rules : List Rule) : List Rule :=
  match order with
  | declaration => rules
  | priority => rules.mergeSort Rule.precedes

namespace Evaluation

variable {S : Type} [FieldSchema S] (ctx : Context) (fns : Functions) (schema : S)

/-- Sets a field to an expression's value. A value that the schema does not permit is
refused; where there is no value nothing happens. -/
def setValue (kind : ActionKind) (field : String) (value : Expr) (report : Evaluation) :
    Evaluation :=
  match value.resolve ctx fns with
  | .error cause => report.addActionError (.unresolved field kind.name cause)
  | .ok none => report
  | .ok (some value) =>
    match FieldSchema.check schema field value with
    | .error messages => report.addActionError (.rejected field messages)
    | .ok () => report.addEffect (.setValue field value)

/-- Offers an expression's value as options: the items of a list, any other value as the
only option, and none where there is no value. -/
def setOptions (kind : ActionKind) (field : String) (options : Expr) (report : Evaluation) :
    Evaluation :=
  match options.resolve ctx fns with
  | .error cause => report.addActionError (.unresolved field kind.name cause)
  | .ok none => report.addEffect (.display (.setOptions field []))
  | .ok (some (.array items)) => report.addEffect (.display (.setOptions field items))
  | .ok (some value) => report.addEffect (.display (.setOptions field [value]))

/-- Does to a field what an action of a kind says. -/
def applyTo (field : String) (kind : ActionKind) (report : Evaluation) : Evaluation :=
  match kind with
  | .show => report.addEffect (.display (.setVisible field true))
  | .hide => report.addEffect (.display (.setVisible field false))
  | .enable => report.addEffect (.display (.setDisabled field false))
  | .disable => report.addEffect (.display (.setDisabled field true))
  | .setValue value required =>
    let report := match required with
      | some flag => report.addEffect (.display (.setRequired field flag))
      | none => report
    match value with
    | some value => report.setValue ctx fns schema kind field value
    | none => report
  | .clearValue => report.addEffect (.clearValue field)
  | .showWarning message => report.addEffect (.display (.addWarning field message))
  | .showError message => report.addEffect (.display (.addError field message))
  | .addClass cls => report.addEffect (.display (.addClass field cls))
  | .removeClass cls => report.addEffect (.display (.removeClass field cls))
  | .setOptions options => report.setOptions ctx fns kind field options
  | .triggerValidation => report
  | .custom .. => report

/-- Carries out an action of a rule that holds. A custom action goes to the host as it is;
every other one needs a field to apply to. -/
def applyAction (rule : Rule) (report : Evaluation) (action : Action) : Evaluation :=
  if action.kind.isCustom then report.addEffect (.custom action)
  else
    match rule.target? action with
    | none => report.addActionError (.missingTarget rule.label action.kind.name)
    | some field => report.applyTo ctx fns schema field action.kind

/-- Evaluates a rule. The label of a rule that holds is added after its actions. -/
def addRule (report : Evaluation) (rule : Rule) : Evaluation :=
  if rule.enabled then
    match rule.condition.evaluate ctx fns with
    | .ok true =>
      let report := rule.actions.foldl (applyAction ctx fns schema rule) report
      { report with fired := report.fired ++ [rule.label] }
    | .ok false => report
    | .error error => { report with failures := report.failures ++ [⟨rule.label, error⟩] }
  else { report with skipped := report.skipped ++ [rule.label] }

/-- Evaluates rules in an order. -/
def ofRules (order : RuleOrder) (rules : List Rule) : Evaluation :=
  (order.arrange rules).foldl (addRule ctx fns schema) {}

end Evaluation

end FormRules
