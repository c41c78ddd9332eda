import FormRules.Proofs.Condition.Algebra
import FormRules.Proofs.Everywhere
import FormRules.Proofs.Rule.Defect
import Mathlib.Data.List.TakeWhile

/-!
Well-formed rules, said of all parts of a rule at once and not in the order in which checking
looks at them: the compared fields are those that `Condition.fields` lists, and negations are
looked for everywhere in the condition. Checking accepts exactly the well-formed rules
(`Rule.defect?_eq_none_iff_wellFormed`).
-/

namespace FormRules

namespace Unicode

theorem trimStart_eq_nil_iff {chars : List Char} :
    trimStart chars = [] ↔ chars.all isWhiteSpace = true := by
  rw [trimStart, List.dropWhile_eq_nil_iff, List.all_eq_true]

theorem all_trimStart (chars : List Char) :
    (trimStart chars).all isWhiteSpace = chars.all isWhiteSpace := by
  conv_rhs => rw [← List.takeWhile_append_dropWhile (p := isWhiteSpace) (l := chars)]
  rw [List.all_append, List.all_takeWhile, Bool.true_and, trimStart]

/-- A text is blank when nothing is left of it without the white space at its ends. -/
theorem trim_eq_empty_iff {text : String} : trim text = "" ↔ isBlankText text = true := by
  rw [trim, String.ofList_eq_empty_iff, trimChars, List.reverse_eq_nil_iff, trimStart_eq_nil_iff,
    List.all_reverse, all_trimStart, isBlankText]

end Unicode

namespace Condition

/-- A condition is not a negation of nothing. The other connectives may join nothing. -/
def Negates : Condition → Prop
  | group .not children => children ≠ []
  | _ => True

/-- The fields that are compared have names, and no negation is empty, not even one that
another negation does not look at. -/
structure WellFormed (condition : Condition) : Prop where
  fields : ∀ field ∈ condition.fields, Unicode.trim field ≠ ""
  negations : condition.Every Negates

theorem negates_group {connective : Connective} {children : List Condition} :
    (group connective children).Negates ↔ (connective = .not → children ≠ []) := by
  cases connective <;> simp [Negates]

theorem mem_fields_group_iff {field : String} {connective : Connective}
    {children : List Condition} :
    field ∈ (group connective children).fields ↔ ∃ child ∈ children, field ∈ child.fields := by
  rw [fields_group, List.mem_flatMap]

theorem wellFormed_comparison {c : Comparison} :
    (comparison c).WellFormed ↔ Unicode.trim c.field ≠ "" := by
  constructor
  · intro h
    exact h.fields c.field (by simp [fields])
  · intro h
    exact ⟨by simpa [fields] using h, trivial⟩

theorem wellFormed_group {connective : Connective} {children : List Condition} :
    (group connective children).WellFormed ↔
      (connective = .not → children ≠ []) ∧ ∀ child ∈ children, child.WellFormed := by
  constructor
  · rintro ⟨hfields, hnegations⟩
    obtain ⟨hself, hchildren⟩ := every_group.mp hnegations
    refine ⟨negates_group.mp hself, fun child hmem =>
      ⟨fun field hfield => ?_, hchildren child hmem⟩⟩
    exact hfields field (mem_fields_group_iff.mpr ⟨child, hmem, hfield⟩)
  · rintro ⟨hself, hchildren⟩
    refine ⟨fun field hfield => ?_, every_group.mpr ⟨negates_group.mpr hself, fun child hmem =>
      (hchildren child hmem).negations⟩⟩
    obtain ⟨child, hmem, hchild⟩ := mem_fields_group_iff.mp hfield
    exact (hchildren child hmem).fields field hchild

/-- Checking a condition finds nothing exactly when it is well-formed. -/
theorem defect?_eq_none_iff {condition : Condition} {label : String} :
    condition.defect? label = none ↔ condition.WellFormed := by
  induction condition with
  | comparison c =>
    rw [wellFormed_comparison, ne_eq, Unicode.trim_eq_empty_iff, defect?]
    cases Unicode.isBlankText c.field <;> simp
  | group connective children ih =>
    have hchildren : defectOfAll? label children = none ↔ ∀ child ∈ children, child.WellFormed :=
      defectOfAll?_eq_none_iff.trans (forall₂_congr ih)
    rw [wellFormed_group, defect?]
    split
    · rename_i hempty
      simp [hempty.1, List.isEmpty_iff.mp hempty.2]
    · rename_i hsome
      have hself : connective = .not → children ≠ [] := fun hnot hnil =>
        hsome ⟨hnot, List.isEmpty_iff.mpr hnil⟩
      rw [hchildren, and_iff_right hself]

end Condition

/-- An action of a kind says what it is to do. -/
def ActionKind.Complete : ActionKind → Prop
  | .custom name _ _ => Unicode.trim name ≠ ""
  | .setValue value required => value ≠ none ∨ required ≠ none
  | .showWarning message | .showError message => message ≠ ""
  | .addClass cls | .removeClass cls => Unicode.trim cls ≠ ""
  | _ => True

theorem ActionKind.hasPayload_iff {kind : ActionKind} :
    kind.hasPayload = true ↔ kind.Complete := by
  cases kind with
  | setValue value required => simp [hasPayload, Complete, Option.ne_none_iff_isSome]
  | showWarning | showError => simp [hasPayload, Complete]
  | addClass | removeClass | custom => simp [hasPayload, Complete, Unicode.trim_eq_empty_iff]
  | _ => simp [hasPayload, Complete]

namespace Rule

/-- An action of a rule has a field to apply to: its own target, the subject of the rule, or the
field of a condition that is a single comparison. -/
def Places (rule : Rule) (action : Action) : Prop :=
  action.target ≠ none ∨ rule.subject ≠ none ∨ ∃ c, rule.condition = .comparison c

/-- What a rule must be to be carried out. -/
structure WellFormed (rule : Rule) : Prop where
  actions : rule.actions ≠ []
  condition : rule.condition.WellFormed
  complete : ∀ action ∈ rule.actions, action.kind.Complete
  placed : ∀ action ∈ rule.actions, action.kind.isCustom = false → rule.Places action

theorem isSome_target?_iff {rule : Rule} {action : Action} :
    (rule.target? action).isSome = true ↔ rule.Places action := by
  unfold target? subject? Places
  cases action.target <;> cases rule.subject <;> cases rule.condition <;> simp [Condition.field?]

theorem actionDefect?_eq_none_iff_complete {rule : Rule} {action : Action} :
    rule.actionDefect? action = none ↔
      action.kind.Complete ∧ (action.kind.isCustom = false → rule.Places action) := by
  rw [actionDefect?_eq_none_iff, ActionKind.hasPayload_iff, isSome_target?_iff]

/-- Checking accepts exactly the well-formed rules. -/
theorem defect?_eq_none_iff_wellFormed {rule : Rule} : rule.defect? = none ↔ rule.WellFormed := by
  rw [defect?_eq_none_iff, Condition.defect?_eq_none_iff]
  constructor
  · rintro ⟨hactions, hcondition, hsound⟩
    have haction := fun action hmem => actionDefect?_eq_none_iff_complete.mp (hsound action hmem)
    exact ⟨hactions, hcondition, fun action hmem => (haction action hmem).1,
      fun action hmem => (haction action hmem).2⟩
  · intro h
    exact ⟨h.actions, h.condition, fun action hmem =>
      actionDefect?_eq_none_iff_complete.mpr ⟨h.complete action hmem, h.placed action hmem⟩⟩

/-- A defect counts also where evaluation never looks, behind the first child of a negation. -/
example :
    let name : Condition := .comparison ⟨"name", .isEmpty, .literal .null, none⟩
    ({ id := some "hint", condition := .group .not [name, .group .not []],
       actions := [⟨.custom "ping" none {}, none⟩] } : Rule).defect? = some (.emptyNot "hint") :=
  rfl

end Rule

end FormRules
