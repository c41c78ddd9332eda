import FormRules.Proofs.Engine.Cycle
import FormRules.Proofs.Evaluation.Targets
import FormRules.Proofs.FormState.Field

/-!
An engine over a form in dictionaries, seen from one field: its display, its value and its
errors. An effect changes the view of the fields that it is about and no other
(`view_carryOut`), so a cycle does to a field what the effects about this field do to it, one
after the other (`view_cycle`). The views of all fields make up the display and the form
(`eq_of_view`).
-/

namespace FormRules

/-- What there is to see of one field. -/
structure FieldView where
  config : FieldConfig
  /-- Whether the display has entries for the field. -/
  listed : Bool
  value : Option Value
  errors : Option (List String)

theorem FieldConfig.after_of_not_isAbout {field : String} {transition : Transition}
    (h : transition.isAbout field = false) (config : FieldConfig) :
    config.after field transition = config := by
  cases transition with
  | declare fields => rfl
  | _ => exact after_of_field?_ne (ne_of_beq_false h) config

theorem Transition.touches_of_not_isAbout {field : String} {transition : Transition}
    (h : transition.isAbout field = false) : transition.touches field = false := by
  cases transition with
  | removeClass => rfl
  | _ => exact h

namespace FieldView

/-- The view of a field after an effect. -/
def after (field : String) (view : FieldView) : Effect → FieldView
  | .display transition =>
    { view with
      config := view.config.after field transition
      listed := view.listed || transition.touches field }
  | .setValue other value =>
    if other = field then
      { view with value := if view.value.any (·.equals value) then view.value else some value }
    else view
  | .clearValue other => if other = field then { view with value := none, errors := none } else view
  | .custom _ => view

variable {field : String}

/-- An effect leaves the fields alone that it is not about. -/
theorem after_of_not_isAbout {effect : Effect} (h : effect.isAbout field = false)
    (view : FieldView) : view.after field effect = view := by
  cases effect with
  | display transition =>
    simp [after, FieldConfig.after_of_not_isAbout h, Transition.touches_of_not_isAbout h]
  | setValue other value =>
    have hne : other ≠ field := by simpa [Effect.isAbout] using h
    simp [after, hne]
  | clearValue other =>
    have hne : other ≠ field := by simpa [Effect.isAbout] using h
    simp [after, hne]
  | custom action => rfl

/-- Only the effects about a field count for it. -/
theorem foldl_after_filter (effects : List Effect) (view : FieldView) :
    (effects.filter (Effect.isAbout field)).foldl (after field) view =
      effects.foldl (after field) view := by
  induction effects generalizing view with
  | nil => rfl
  | cons effect rest ih =>
    cases habout : effect.isAbout field with
    | true =>
      rw [List.filter_cons_of_pos habout, List.foldl_cons, List.foldl_cons, ih]
    | false =>
      rw [List.filter_cons_of_neg (by simp [habout]), List.foldl_cons, ih,
        after_of_not_isAbout habout]

end FieldView

namespace Engine

variable {S : Type}

/-- What there is to see of a field of an engine. -/
def view (engine : Engine MemoryForm S) (field : String) : FieldView where
  config := engine.fieldConfig field
  listed := engine.state.contains field
  value := engine.form.values.get? field
  errors := engine.form.errors.get? field

variable (ctx : Context) (engine : Engine MemoryForm S) (field : String)

theorem view_display (transition : Transition) :
    ({ engine with state := engine.state.apply transition } : Engine MemoryForm S).view field =
      (engine.view field).after field (.display transition) := by
  simp only [view, fieldConfig, FieldView.after, FormState.fieldConfig_apply,
    FormState.contains_apply]

/-- One step: the view of a field after an effect comes from its view before. -/
theorem view_carryOut (effect : Effect) :
    (carryOut ctx engine effect).view field = (engine.view field).after field effect := by
  cases effect with
  | display transition => exact view_display engine field transition
  | setValue other value =>
    simp only [carryOut, FieldView.after]
    by_cases hfield : other = field
    · subst hfield
      rw [if_pos rfl]
      split
      · rename_i hsame
        have hvalue : (engine.view other).value.any (·.equals value) = true := hsame
        rw [if_pos hvalue]
      · rename_i hdiffer
        have hvalue : ¬(engine.view other).value.any (·.equals value) = true := hdiffer
        rw [if_neg hvalue]
        simp [view, fieldConfig, Binding.setValue, Dict.put, Dict.get?_insert]
    · rw [if_neg hfield]
      split
      · rfl
      · simp [view, fieldConfig, Binding.setValue, Dict.put, Dict.get?_insert, hfield]
  | clearValue other =>
    by_cases hfield : other = field <;>
      simp [carryOut, view, fieldConfig, FieldView.after, Binding.setValue, Binding.clearErrors,
        Dict.put, Dict.get?_erase, hfield]
  | custom action =>
    simp only [carryOut]
    split
    · rfl
    · rfl

/-- A run: the view of a field is the fold of the effects over its view. -/
theorem view_foldl_carryOut (effects : List Effect) :
    (effects.foldl (carryOut ctx) engine).view field =
      effects.foldl (FieldView.after field) (engine.view field) := by
  induction effects generalizing engine with
  | nil => rfl
  | cons effect rest ih => rw [List.foldl_cons, ih, view_carryOut, List.foldl_cons]

/-- A cycle does to a field what the effects about it do, after the declarations. -/
theorem view_cycle [FieldSchema S] :
    engine.cycle.view field =
      (engine.evaluation.effects.filter (Effect.isAbout field)).foldl (FieldView.after field)
        ((engine.view field).after field
          (.display (.declare (FieldSchema.names engine.schema)))) := by
  rw [FieldView.foldl_after_filter, ← view_display]
  exact view_foldl_carryOut engine.cycleContext _ field engine.evaluation.effects

/-- Engines with equal views of every field have the same display, values and errors. -/
theorem eq_of_view {first second : Engine MemoryForm S}
    (h : ∀ field, first.view field = second.view field) :
    first.fieldConfigs = second.fieldConfigs ∧ first.form.values = second.form.values ∧
      first.form.errors = second.form.errors := by
  refine ⟨?display, ?values, ?errors⟩
  case display =>
    have hlisted : ∀ field, first.state.contains field = second.state.contains field :=
      fun field => congrArg FieldView.listed (h field)
    exact (FormState.snapshot_eq_iff hlisted).mpr fun field => congrArg FieldView.config (h field)
  case values => exact Dict.ext_get? fun field => congrArg FieldView.value (h field)
  case errors => exact Dict.ext_get? fun field => congrArg FieldView.errors (h field)

end Engine

end FormRules
