import FormRules.Action
import FormRules.Condition

/-!
Rules: a condition and the actions that apply while it holds.
-/

namespace FormRules

structure Rule where
  id : Option String := none
  title : Option String := none
  description : Option String := none
  /-- The field that actions without a target apply to. -/
  subject : Option String := none
  condition : Condition
  actions : List Action
  /-- Counts only where rules are ordered by priority; lower ones come first. -/
  priority : Option Int32 := none
  enabled : Bool := true
  /-- How long the host may wait before it reports a change, in whole milliseconds as rule texts
  give it. Nothing here waits, or reads the time; durations that a host sets in finer units, or
  that do not fit, have no counterpart. -/
  debounce : Option UInt64 := none

namespace Rule

/-- The field of actions without a target: the subject, else the field of a
condition that is a single comparison. -/
def subject? (rule : Rule) : Option String :=
  rule.subject.orElse fun _ => rule.condition.field?

/-- The field that an action of the rule applies to. -/
def target? (rule : Rule) (action : Action) : Option String :=
  action.target.orElse fun _ => rule.subject?

/-- What a rule is called in reports: its id, else its title, else the text of its
condition. -/
def label (rule : Rule) : String :=
  (rule.id.orElse fun _ => rule.title).getD rule.condition.text

end Rule

end FormRules
