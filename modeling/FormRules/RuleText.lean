import FormRules.RuleSet
import FormRules.RuleText.Error
import FormRules.RuleText.Grammar

/-!
Rules and conditions from text.
-/

namespace FormRules

/-- Reads the rules of a text. They are not checked for defects. -/
def RuleText.readRules (text : String) : Except RuleText.Error (List Rule) :=
  RuleText.rules.whole text

/-- Reads a single condition. -/
def RuleText.readCondition (text : String) : Except RuleText.Error Condition :=
  RuleText.wholeCondition.whole text

/-- Why a text gives no rule set. -/
inductive RuleSet.TextError where
  | unreadable (error : RuleText.Error)
  | defective (defect : Defect)

/-- Reads and checks the rules of a text. -/
def RuleSet.ofText (text : String) : Except RuleSet.TextError RuleSet :=
  match RuleText.readRules text with
  | .error e => .error (.unreadable e)
  | .ok rules =>
    match RuleSet.ofRules rules with
    | .error defect => .error (.defective defect)
    | .ok set => .ok set

end FormRules
