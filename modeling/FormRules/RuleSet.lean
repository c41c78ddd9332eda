import FormRules.Rule.Draft

/-!
Rule sets: lists of rules without defects, in which no id occurs twice.
-/

namespace FormRules

/-- Rules in order, checked. -/
structure RuleSet where
  rules : List Rule
  sound : Rule.defectOfAll? rules = none

namespace RuleSet

def empty : RuleSet := ⟨[], rfl⟩

instance : Inhabited RuleSet := ⟨empty⟩

/-- Checks a list of rules. -/
def ofRules (rules : List Rule) : Except Defect RuleSet :=
  match h : Rule.defectOfAll? rules with
  | some defect => .error defect
  | none => .ok ⟨rules, h⟩

/-- Finishes drafts in order. Every draft is finished before repeated ids are looked
for. -/
def ofDrafts (drafts : List Rule.Draft) : Except Defect RuleSet :=
  match drafts.mapM Rule.Draft.build with
  | .error defect => .error defect
  | .ok rules => ofRules rules

/-- The rule with an id. -/
def get? (set : RuleSet) (id : String) : Option Rule :=
  set.rules.find? fun rule => rule.id == some id

def size (set : RuleSet) : Nat := set.rules.length

end RuleSet

end FormRules
