import FormRules.Dict
import FormRules.Expr

/-!
Actions: what a rule does while its condition holds.
-/

namespace FormRules

/-- What an action does, with its payload. -/
inductive ActionKind where
  | show
  | hide
  | enable
  | disable
  /-- Sets the required flag and the value of a field, either or both. -/
  | setValue (value : Option Expr) (required : Option Bool)
  | clearValue
  | showWarning (message : String)
  | showError (message : String)
  | addClass (cls : String)
  | removeClass (cls : String)
  | setOptions (options : Expr)
  /-- Left to the host, which decides when to validate. -/
  | triggerValidation
  /-- Handed to the host as it is. -/
  | custom (name : String) (value : Option Expr) (params : Dict Value)

/-- An action, with the field it applies to unless that is the rule's own. -/
structure Action where
  kind : ActionKind
  target : Option String := none

def ActionKind.name : ActionKind → String
  | .show => "show"
  | .hide => "hide"
  | .enable => "enable"
  | .disable => "disable"
  | .setValue .. => "set_value"
  | .clearValue => "clear_value"
  | .showWarning _ => "show_warning"
  | .showError _ => "show_error"
  | .addClass _ => "add_class"
  | .removeClass _ => "remove_class"
  | .setOptions _ => "set_options"
  | .triggerValidation => "trigger_validation"
  | .custom .. => "custom"

def ActionKind.isCustom : ActionKind → Bool
  | .custom .. => true
  | _ => false

namespace Action

/-- Redirects an action to a field. -/
def on (action : Action) (target : String) : Action :=
  { action with target := some target }

/-- Sets a parameter of a custom action; other actions have none. -/
def withParam (action : Action) (key : String) (value : Value) : Action :=
  match action.kind with
  | .custom name own params => { action with kind := .custom name own (params.insert key value) }
  | _ => action

/-- Gives a value to a custom action; other actions keep theirs. -/
def withValue (action : Action) (value : Expr) : Action :=
  match action.kind with
  | .custom name _ params => { action with kind := .custom name (some value) params }
  | _ => action

/-- Makes a field required or optional. -/
def require (target : String) (required : Bool) : Action :=
  ⟨.setValue none (some required), some target⟩

def setValue (target : String) (value : Expr) : Action :=
  ⟨.setValue (some value) none, some target⟩

/-- A custom action without value and parameters. -/
def custom (name : String) : Action := ⟨.custom name none {}, none⟩

/-- The kind of an action and its target, if it has one. -/
def text (action : Action) : String :=
  match action.target with
  | some target => action.kind.name ++ " " ++ target
  | none => action.kind.name

end Action

end FormRules
