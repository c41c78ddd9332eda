import FormRules.Rule.Defect

/-!
Drafts of rules, filled in step by step. A finished draft is a rule without
defects.
-/

namespace FormRules.Rule

/-- A rule in the making, whose condition may still be missing. -/
structure Draft where
  id : Option String := none
  title : Option String := none
  description : Option String := none
  subject : Option String := none
  condition : Option Condition := none
  actions : List Action := []
  priority : Option Int32 := none
  enabled : Bool := true
  debounce : Option UInt64 := none

namespace Draft

def withId (draft : Draft) (id : String) : Draft := { draft with id := some id }

def withTitle (draft : Draft) (title : String) : Draft := { draft with title := some title }

def withDescription (draft : Draft) (description : String) : Draft :=
  { draft with description := some description }

def withSubject (draft : Draft) (subject : String) : Draft := { draft with subject := some subject }

/-- Sets the condition; an earlier one is replaced. -/
def when (draft : Draft) (condition : Condition) : Draft :=
  { draft with condition := some condition }

/-- Adds an action after the earlier ones. -/
def andThen (draft : Draft) (action : Action) : Draft :=
  { draft with actions := draft.actions ++ [action] }

def withPriority (draft : Draft) (priority : Int32) : Draft :=
  { draft with priority := some priority }

def disabled (draft : Draft) : Draft := { draft with enabled := false }

def withDebounce (draft : Draft) (millis : UInt64) : Draft := { draft with debounce := some millis }

/-- Finishes a draft. -/
def build (draft : Draft) : Except Defect Rule :=
  match draft.condition with
  | none => .error (.missingCondition ((draft.id.orElse fun _ => draft.title).getD "<unnamed>"))
  | some condition =>
    let rule : Rule :=
      { id := draft.id, title := draft.title, description := draft.description,
        subject := draft.subject, condition, actions := draft.actions,
        priority := draft.priority, enabled := draft.enabled, debounce := draft.debounce }
    match rule.defect? with
    | some defect => .error defect
    | none => .ok rule

end Draft

end FormRules.Rule
