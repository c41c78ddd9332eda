import FormRules.Proofs.Everywhere
import FormRules.Rule.Defect
import Mathlib.Data.List.Induction

/-!
Rules without defects. An action is sound when it has its payload and, unless it goes to the
host, a field to apply to; a rule is sound when it does something, its condition is sound and
so are all its actions; and a list of rules is sound when its rules are and no id occurs twice
(`firstDefect?_eq_none_iff`). The defect of any other list is that of the first rule which the
rules before it do not let in (`defectOfAll?_eq_some_iff`).
-/

namespace FormRules

/-- The rule that a defect names. A repeated id is not the defect of one rule. -/
def Defect.rule? : Defect → Option String
  | .missingCondition rule | .noActions rule | .emptyField rule | .emptyNot rule
  | .missingTarget rule _ | .missingPayload rule _ => some rule
  | .duplicateId _ => none

namespace Condition

theorem exists_of_defectOfAll? {label : String} {children : List Condition} {defect : Defect}
    (h : defectOfAll? label children = some defect) :
    ∃ child ∈ children, child.defect? label = some defect := by
  induction children with
  | nil => cases h
  | cons child rest ih =>
    rw [defectOfAll?] at h
    split at h
    · rename_i first hfirst
      cases h
      exact ⟨child, List.mem_cons_self, hfirst⟩
    · obtain ⟨other, hmem, hother⟩ := ih h
      exact ⟨other, List.mem_cons_of_mem _ hmem, hother⟩

theorem rule?_of_defect? {label : String} {condition : Condition} {defect : Defect}
    (h : condition.defect? label = some defect) : defect.rule? = some label := by
  induction condition with
  | comparison c =>
    rw [defect?] at h
    split at h
    · cases h
      rfl
    · cases h
  | group connective children ih =>
    rw [defect?] at h
    split at h
    · cases h
      rfl
    · obtain ⟨child, hmem, hchild⟩ := exists_of_defectOfAll? h
      exact ih child hmem hchild

theorem defectOfAll?_eq_none_iff {label : String} {children : List Condition} :
    defectOfAll? label children = none ↔
      ∀ child ∈ children, child.defect? label = none := by
  induction children with
  | nil => simp [defectOfAll?]
  | cons child rest ih =>
    rw [defectOfAll?, List.forall_mem_cons]
    cases child.defect? label with
    | none => simpa using ih
    | some defect => simp

end Condition

namespace Rule

theorem actionDefect?_eq_none_iff {rule : Rule} {action : Action} :
    rule.actionDefect? action = none ↔
      action.kind.hasPayload = true ∧
        (action.kind.isCustom = false → (rule.target? action).isSome = true) := by
  unfold actionDefect?
  cases action.kind.hasPayload <;> cases action.kind.isCustom <;>
    cases rule.target? action <;> simp

theorem defect?_eq_none_iff {rule : Rule} :
    rule.defect? = none ↔
      rule.actions ≠ [] ∧ rule.condition.defect? rule.label = none ∧
        ∀ action ∈ rule.actions, rule.actionDefect? action = none := by
  unfold defect?
  split
  · rename_i hempty
    simp [List.isEmpty_iff.mp hempty]
  · rename_i hsome
    have hactions : rule.actions ≠ [] := fun h => hsome (List.isEmpty_iff.mpr h)
    split
    · rename_i hcondition
      simp [hcondition]
    · rename_i hcondition
      simp [hactions, hcondition, List.findSome?_eq_none_iff]

theorem rule?_of_actionDefect? {rule : Rule} {action : Action} {defect : Defect}
    (h : rule.actionDefect? action = some defect) : defect.rule? = some rule.label := by
  unfold actionDefect? at h
  split at h
  · cases h
    rfl
  · split at h
    · cases h
      rfl
    · cases h

/-- The defect of a rule names that rule. -/
theorem rule?_of_defect? {rule : Rule} {defect : Defect} (h : rule.defect? = some defect) :
    defect.rule? = some rule.label := by
  unfold defect? at h
  split at h
  · cases h
    rfl
  · split at h
    · rename_i hcondition
      cases h
      exact Condition.rule?_of_defect? hcondition
    · obtain ⟨action, -, haction⟩ := List.exists_of_findSome?_eq_some h
      exact rule?_of_actionDefect? haction

/-- A list of rules has no defect when none of its rules has one and every id is new, both
among the rules and to the ids before them. -/
theorem firstDefect?_eq_none_iff {ids : List String} {rules : List Rule} :
    firstDefect? ids rules = none ↔
      (∀ rule ∈ rules, rule.defect? = none) ∧ (rules.filterMap Rule.id).Nodup ∧
        ∀ id ∈ rules.filterMap Rule.id, id ∉ ids := by
  fun_induction firstDefect? ids rules with
  | case1 => simp
  | case2 ids rule rest hid defect hown => simp [hown]
  | case3 ids rule rest hid hown ih =>
    rw [ih, List.filterMap_cons_none hid]
    simp [hown]
  | case4 ids rule rest id hid hrepeated =>
    have hmem : id ∈ ids := List.contains_iff_mem.mp hrepeated
    simp [List.filterMap_cons_some hid, hmem]
  | case5 ids rule rest id hid hnew defect hown => simp [hown]
  | case6 ids rule rest id hid hnew hown ih =>
    have hmem : id ∉ ids := fun h => hnew (List.contains_iff_mem.mpr h)
    rw [ih, List.filterMap_cons_some hid, List.forall_mem_cons, List.forall_mem_cons,
      List.nodup_cons]
    simp only [List.mem_cons, not_or]
    -- the ids of the rest avoid this one and those before it
    constructor
    · rintro ⟨hsound, hnodup, hother⟩
      have hself : id ∉ rest.filterMap Rule.id := fun h => (hother id h).1 rfl
      exact ⟨⟨hown, hsound⟩, ⟨hself, hnodup⟩, hmem, fun other h => (hother other h).2⟩
    · rintro ⟨⟨-, hsound⟩, ⟨hself, hnodup⟩, -, hother⟩
      exact ⟨hsound, hnodup, fun other h => ⟨fun heq => hself (heq ▸ h), hother other h⟩⟩

/-- Rules that can stand in one rule set: none has a defect, and no id occurs twice. -/
structure AllSound (rules : List Rule) : Prop where
  sound : ∀ rule ∈ rules, rule.defect? = none
  ids : (rules.filterMap Rule.id).Nodup

theorem defectOfAll?_eq_none_iff {rules : List Rule} :
    defectOfAll? rules = none ↔ AllSound rules := by
  rw [defectOfAll?, firstDefect?_eq_none_iff]
  exact ⟨fun ⟨hsound, hids, _⟩ => ⟨hsound, hids⟩, fun h => ⟨h.sound, h.ids, by simp⟩⟩

/-- Why a rule is not let in where some ids are taken: it has one of these or, if it has not,
it has a defect of its own. -/
inductive Refused (ids : List String) (rule : Rule) : Defect → Prop where
  | repeated {id : String} : rule.id = some id → id ∈ ids → Refused ids rule (.duplicateId id)
  | defective {defect : Defect} : (∀ id, rule.id = some id → id ∉ ids) →
      rule.defect? = some defect → Refused ids rule defect

section FirstDefect

variable {ids : List String} {rule : Rule} {defect : Defect}

theorem firstDefect?_singleton_of_mem {id : String} (hid : rule.id = some id) (hmem : id ∈ ids) :
    firstDefect? ids [rule] = some (.duplicateId id) := by
  simp [firstDefect?, hid, hmem]

theorem firstDefect?_singleton_of_new (hnew : ∀ id, rule.id = some id → id ∉ ids) :
    firstDefect? ids [rule] = rule.defect? := by
  cases hid : rule.id with
  | none => cases hown : rule.defect? <;> simp [firstDefect?, hid, hown]
  | some id => cases hown : rule.defect? <;> simp [firstDefect?, hid, hnew id hid, hown]

theorem firstDefect?_singleton_eq_some_iff :
    firstDefect? ids [rule] = some defect ↔ rule.Refused ids defect := by
  constructor
  · intro h
    by_cases htaken : ∃ id, rule.id = some id ∧ id ∈ ids
    · obtain ⟨id, hid, hmem⟩ := htaken
      rw [firstDefect?_singleton_of_mem hid hmem] at h
      cases h
      exact .repeated hid hmem
    · have hnew : ∀ id, rule.id = some id → id ∉ ids := fun id hid hmem => htaken ⟨id, hid, hmem⟩
      rw [firstDefect?_singleton_of_new hnew] at h
      exact .defective hnew h
  · intro h
    cases h with
    | repeated hid hmem => exact firstDefect?_singleton_of_mem hid hmem
    | defective hnew hown => rw [firstDefect?_singleton_of_new hnew, hown]

/-- Checking goes on behind rules without a defect, with their ids taken. -/
theorem firstDefect?_append (ids : List String) (before rest : List Rule) :
    firstDefect? ids (before ++ rest) =
      (firstDefect? ids before).or
        (firstDefect? ((before.filterMap Rule.id).reverse ++ ids) rest) := by
  fun_induction firstDefect? ids before with
  | case1 => rfl
  | case2 ids rule others hid defect hown => simp [firstDefect?, hid, hown]
  | case3 ids rule others hid hown ih => simp [firstDefect?, hid, hown, ih]
  | case4 ids rule others id hid htaken =>
    have hmem : id ∈ ids := List.contains_iff_mem.mp htaken
    simp [firstDefect?, hid, hmem]
  | case5 ids rule others id hid hnew defect hown =>
    have hmem : id ∉ ids := fun h => hnew (List.contains_iff_mem.mpr h)
    simp [firstDefect?, hid, hmem, hown]
  | case6 ids rule others id hid hnew hown ih =>
    have hmem : id ∉ ids := fun h => hnew (List.contains_iff_mem.mpr h)
    simp [firstDefect?, hid, hmem, hown, ih]

/-- The first defect of a list is why the first rule that is not let in is refused. -/
theorem firstDefect?_eq_some_iff {rules : List Rule} :
    firstDefect? ids rules = some defect ↔
      ∃ before rule after, rules = before ++ rule :: after ∧ firstDefect? ids before = none ∧
        rule.Refused ((before.filterMap Rule.id).reverse ++ ids) defect := by
  constructor
  · -- the last rule is refused only if no earlier one is
    induction rules using List.reverseRecOn with
    | nil => intro h; cases h
    | append_singleton earlier last ih =>
      intro h
      rw [firstDefect?_append] at h
      cases hearlier : firstDefect? ids earlier with
      | none =>
        rw [hearlier, Option.none_or] at h
        exact ⟨earlier, last, [], rfl, hearlier, firstDefect?_singleton_eq_some_iff.mp h⟩
      | some first =>
        rw [hearlier, Option.some_or] at h
        obtain ⟨before, rule, after, rfl, hbefore, hrefused⟩ := ih (hearlier.trans h)
        exact ⟨before, rule, after ++ [last], by simp, hbefore, hrefused⟩
  · rintro ⟨before, rule, after, rfl, hbefore, hrefused⟩
    rw [firstDefect?_append, hbefore, Option.none_or, ← List.singleton_append,
      firstDefect?_append, firstDefect?_singleton_eq_some_iff.mpr hrefused, Option.some_or]

end FirstDefect

theorem refused_congr {ids others : List String} {rule : Rule} {defect : Defect}
    (h : ∀ id, id ∈ ids ↔ id ∈ others) : rule.Refused ids defect ↔ rule.Refused others defect := by
  constructor
  all_goals
    rintro (⟨hid, hmem⟩ | ⟨hnew, hown⟩)
    · exact .repeated hid (by simpa [h] using hmem)
    · exact .defective (by simpa [h] using hnew) hown

theorem defectOfAll?_eq_some_iff {rules : List Rule} {defect : Defect} :
    defectOfAll? rules = some defect ↔
      ∃ before rule after, rules = before ++ rule :: after ∧ AllSound before ∧
        rule.Refused (before.filterMap Rule.id) defect := by
  have hids : ∀ before : List Rule, ∀ id,
      id ∈ (before.filterMap Rule.id).reverse ++ [] ↔ id ∈ before.filterMap Rule.id := by simp
  rw [defectOfAll?, firstDefect?_eq_some_iff]
  refine exists_congr fun before => exists₂_congr fun rule after => and_congr_right fun _ =>
    and_congr defectOfAll?_eq_none_iff (refused_congr (hids before))

end Rule

end FormRules
