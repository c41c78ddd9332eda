import FormRules.Proofs.Engine.Field
import Mathlib.Data.List.Sort

/-!
Where the order of rules matters. Rules that have no target in common may change places:
every field sees the same effects in the same order, so a cycle leads to the same display,
the same values and the same errors (`serve_setRules_rearranged`).
-/

namespace FormRules

/-- The second list has the rules of the first one, each in some place, and rules with a
common target stand in the same order. -/
def Rearranged (first second : List Rule) : Prop :=
  ∃ place : Fin first.length ≃ Fin second.length, (∀ i, second[place i] = first[i]) ∧
    ∀ i j, i < j → first[i].SharesTarget first[j] → place i < place j

/-- Lists with the same items agree on those of a kind where these stand in the same order. -/
theorem filter_eq_of_place {α : Type} {first second : List α}
    (place : Fin first.length ≃ Fin second.length) (hplace : ∀ i, second[place i] = first[i])
    {accept : α → Bool} (horder : ∀ i j, i < j → accept first[i] = true →
      accept first[j] = true → place i < place j) :
    first.filter accept = second.filter accept := by
  have hplaces : ∀ items : List α, items.filter accept =
      ((List.finRange items.length).filter fun i => accept items[i]).map items.get := by
    intro items
    conv_lhs => rw [← List.map_get_finRange items, List.filter_map]
    rfl
  -- Both sides list the places in the second list of the items of the kind, in ascending order.
  have hsame : ((List.finRange first.length).filter fun i => accept first[i]).map place =
      (List.finRange second.length).filter fun i => accept second[i] := by
    apply List.SortedLT.eq_of_mem_iff
    · apply List.Pairwise.sortedLT
      apply List.Pairwise.map place (R := fun i j => place i < place j) (fun _ _ => id)
      have hsorted := (List.sortedLT_finRange first.length).pairwise
      refine (hsorted.filter _).imp_of_mem ?_
      intro i j hi hj hlt
      exact horder i j hlt (List.mem_filter.mp hi).2 (List.mem_filter.mp hj).2
    · exact ((List.sortedLT_finRange second.length).pairwise.filter _).sortedLT
    · intro k
      have hk : second[k] = first[place.symm k] := by
        simpa using hplace (place.symm k)
      simp only [List.mem_map, List.mem_filter, List.mem_finRange, true_and, hk]
      constructor
      · rintro ⟨i, hi, rfl⟩
        simpa using hi
      · intro h
        exact ⟨place.symm k, h, place.apply_symm_apply k⟩
  rw [hplaces first, hplaces second, ← hsame, List.map_map]
  apply List.map_congr_left
  intro i _
  exact (hplace i).symm

/-- Rearranged rules do the same to every field, effect by effect. -/
theorem Rearranged.filter_isAbout {first second : List Rule} (h : Rearranged first second)
    {S : Type} [FieldSchema S] (ctx : Context) (fns : Functions) (schema : S) (field : String) :
    (Rule.reportAll ctx fns schema first).effects.filter (Effect.isAbout field) =
      (Rule.reportAll ctx fns schema second).effects.filter (Effect.isAbout field) := by
  obtain ⟨place, hplace, horder⟩ := h
  have hrules : first.filter (fun rule => rule.targets.contains field) =
      second.filter fun rule => rule.targets.contains field := by
    apply filter_eq_of_place place hplace
    intro i j hlt hi hj
    exact horder i j hlt ⟨field, by simpa using hi, by simpa using hj⟩
  rw [Rule.filter_isAbout_effects, hrules, ← Rule.filter_isAbout_effects]

namespace Engine

variable {S : Type} [FieldSchema S]

/-- What rules in declaration order do to a field: the effects of their report that are about
the field, after the declarations. -/
theorem view_serve_setRules {engine : Engine MemoryForm S} (horder : engine.order = .declaration)
    (rules : List Rule) (field : String) :
    (engine.serve (.setRules rules)).1.view field =
      ((Rule.reportAll engine.cycleContext engine.functions engine.schema rules).effects.filter
        (Effect.isAbout field)).foldl (FieldView.after field)
        ((engine.view field).after field
          (.display (.declare (FieldSchema.names engine.schema)))) := by
  have hevaluation : Engine.evaluation { engine with rules } =
      Rule.reportAll engine.cycleContext engine.functions engine.schema rules := by
    rw [evaluation, horder]
    rfl
  have hview := view_cycle { engine with rules } field
  rw [hevaluation] at hview
  exact hview

/-- Rules in declaration order may be listed in any other way in which rules with a common
target keep their order: they lead to the same display, values and errors. -/
theorem serve_setRules_rearranged (engine : Engine MemoryForm S)
    (horder : engine.order = .declaration) {first second : List Rule}
    (h : Rearranged first second) :
    let one := (engine.serve (.setRules first)).1
    let other := (engine.serve (.setRules second)).1
    one.fieldConfigs = other.fieldConfigs ∧ one.form.values = other.form.values ∧
      one.form.errors = other.form.errors := by
  intro one other
  apply eq_of_view
  intro field
  rw [view_serve_setRules horder first, view_serve_setRules horder second, h.filter_isAbout]

/-- Writes the fee and marks the plan. -/
def surchargeRule : Rule where
  id := some "surcharge"
  condition := .compare "plan" .isNotEmpty (.literal .null) none
  actions := [.setValue "fee" (.literal (.int 5)), ⟨.addClass "paid", some "plan"⟩]

/-- Says something about the note. It has a custom action, which has no target. -/
def reminderRule : Rule where
  id := some "reminder"
  condition := .compare "note" .isEmpty (.literal .null) none
  actions := [⟨.showWarning "nothing to add?", none⟩, .custom "ping"]

/-- Writes the fee once more. -/
def discountRule : Rule where
  id := some "discount"
  condition := .compare "plan" .equals (.literal (.string "basic")) none
  actions := [.setValue "fee" (.literal (.int 3))]

/-- A form with a plan, and a fee that two rules write. -/
def pricing : Engine MemoryForm := Setup.start {
  form := { values := Dict.ofList [("plan", .string "basic")] }
  schema := ⟨[{ name := "plan", kind := .text }, { name := "fee", kind := .integer },
    { name := "note", kind := .text }]⟩ }

/-- The reminder may come first or in between, as long as the discount comes after the
surcharge. -/
theorem pricing_rearranged :
    pricing.order = .declaration ∧
      Rearranged [surchargeRule, reminderRule, discountRule]
        [reminderRule, surchargeRule, discountRule] ∧
      let one := (pricing.serve (.setRules [surchargeRule, reminderRule, discountRule])).1
      let other := (pricing.serve (.setRules [reminderRule, surchargeRule, discountRule])).1
      one.form.values.get? "fee" = some (.int 3) ∧ one.fieldConfigs = other.fieldConfigs ∧
        one.form.values = other.form.values ∧ one.form.errors = other.form.errors := by
  have hplaces : Rearranged [surchargeRule, reminderRule, discountRule]
      [reminderRule, surchargeRule, discountRule] := by
    refine ⟨Equiv.swap 0 1, ?_, ?_⟩
    · rintro ⟨_ | _ | _ | i, hi⟩
      · rfl
      · rfl
      · rfl
      · exact absurd hi (by simp)
    · decide
  exact ⟨rfl, hplaces, rfl, serve_setRules_rearranged pricing rfl hplaces⟩

end Engine

end FormRules
