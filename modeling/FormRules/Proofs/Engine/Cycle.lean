import FormRules.Engine
import FormRules.Proofs.Evaluation.Effects
import FormRules.Proofs.FormState.Field

/-!
What one cycle leaves as it was and what it does to the display. Carrying effects out
changes the form, the display and the calls of the host, and nothing else of an engine
(`toSetup_cycle`); the display goes through the transitions among the effects
(`state_cycle`), and the form stays as it is when no effect writes a value.
-/

namespace FormRules

/-- The change of the display that an effect is, if it is one. -/
def Effect.transition? : Effect → Option Transition
  | .display transition => some transition
  | _ => none

/-- The changes of the display among the effects of an evaluation, in order. -/
def Evaluation.transitions (evaluation : Evaluation) : List Transition :=
  evaluation.effects.filterMap Effect.transition?

namespace Engine

variable {Form S : Type} [Binding Form]

theorem toSetup_carryOut (ctx : Context) (engine : Engine Form S) (effect : Effect) :
    { (carryOut ctx engine effect).toSetup with form := engine.form } = engine.toSetup := by
  cases effect <;> simp only [carryOut] <;> try split
  all_goals rfl

theorem state_carryOut (ctx : Context) (engine : Engine Form S) (effect : Effect) :
    (carryOut ctx engine effect).state = engine.state.applyAll effect.transition?.toList := by
  cases effect <;> simp only [carryOut] <;> try split
  all_goals rfl

theorem form_carryOut_of_not_writes {ctx : Context} {engine : Engine Form S} {effect : Effect}
    (h : effect.writesValue = false) : (carryOut ctx engine effect).form = engine.form := by
  cases effect with
  | display => rfl
  | setValue | clearValue => cases h
  | custom =>
    simp only [carryOut]
    split <;> rfl

theorem toSetup_foldl_carryOut (ctx : Context) (engine : Engine Form S) (effects : List Effect) :
    { (effects.foldl (carryOut ctx) engine).toSetup with form := engine.form } =
      engine.toSetup := by
  induction effects generalizing engine with
  | nil => rfl
  | cons effect rest ih =>
    have hstep := toSetup_carryOut ctx engine effect
    have hrest := ih (carryOut ctx engine effect)
    rw [List.foldl_cons, ← hstep, ← hrest]

theorem state_foldl_carryOut (ctx : Context) (engine : Engine Form S) (effects : List Effect) :
    (effects.foldl (carryOut ctx) engine).state =
      engine.state.applyAll (effects.filterMap Effect.transition?) := by
  induction effects generalizing engine with
  | nil => rfl
  | cons effect rest ih =>
    rw [List.foldl_cons, ih, state_carryOut]
    cases htransition : effect.transition? <;> simp [FormState.applyAll, htransition]

theorem form_foldl_carryOut_of_not_writes {ctx : Context} {effects : List Effect}
    (h : ∀ effect ∈ effects, effect.writesValue = false) (engine : Engine Form S) :
    (effects.foldl (carryOut ctx) engine).form = engine.form := by
  induction effects generalizing engine with
  | nil => rfl
  | cons effect rest ih =>
    have hfirst := h effect List.mem_cons_self
    have hrest := fun other hmem => h other (List.mem_cons_of_mem effect hmem)
    rw [List.foldl_cons, ih hrest, form_carryOut_of_not_writes hfirst]

variable [FieldSchema S]

/-- A cycle changes nothing that an engine was set up with, but for the form. -/
theorem toSetup_cycle (engine : Engine Form S) :
    { engine.cycle.toSetup with form := engine.form } = engine.toSetup :=
  toSetup_foldl_carryOut engine.cycleContext
    { engine with state := engine.state.apply (.declare (FieldSchema.names engine.schema)) }
    engine.evaluation.effects

theorem schema_cycle (engine : Engine Form S) : engine.cycle.schema = engine.schema := by
  have hschema := congrArg Setup.schema (toSetup_cycle engine)
  exact hschema

theorem handlesCustom_cycle (engine : Engine Form S) :
    engine.cycle.handlesCustom = engine.handlesCustom := by
  have hhandles := congrArg Setup.handlesCustom (toSetup_cycle engine)
  exact hhandles

/-- A cycle declares the fields of the schema and goes through the transitions among its
effects. -/
theorem state_cycle (engine : Engine Form S) :
    engine.cycle.state =
      (engine.state.apply (.declare (FieldSchema.names engine.schema))).applyAll
        engine.evaluation.transitions :=
  state_foldl_carryOut engine.cycleContext
    { engine with state := engine.state.apply (.declare (FieldSchema.names engine.schema)) }
    engine.evaluation.effects

theorem fieldConfig_cycle (engine : Engine Form S) (field : String) :
    engine.cycle.fieldConfig field =
      engine.evaluation.transitions.foldl (FieldConfig.after field)
        (engine.fieldConfig field) := by
  unfold fieldConfig
  rw [state_cycle, FormState.fieldConfig_applyAll, FormState.fieldConfig_apply]
  rfl

theorem contains_cycle (engine : Engine Form S) (field : String) :
    engine.cycle.state.contains field =
      (engine.state.contains field || (FieldSchema.names engine.schema).contains field ||
        engine.evaluation.transitions.any (·.touches field)) := by
  rw [state_cycle, FormState.contains_applyAll, FormState.contains_apply]
  rfl

/-- An evaluation depends on what an engine was set up with and on the form, not on the
display. -/
theorem evaluation_eq_of_toSetup_eq {first second : Engine Form S}
    (h : first.toSetup = second.toSetup) : first.evaluation = second.evaluation := by
  unfold evaluation cycleContext
  rw [h]

/-- Without effects that write values, a cycle leaves the form and all else that an engine
was set up with. -/
theorem toSetup_cycle_of_not_writes {engine : Engine Form S}
    (h : ∀ effect ∈ engine.evaluation.effects, effect.writesValue = false) :
    engine.cycle.toSetup = engine.toSetup := by
  have hform : engine.cycle.form = engine.form :=
    form_foldl_carryOut_of_not_writes h
      { engine with state := engine.state.apply (.declare (FieldSchema.names engine.schema)) }
  have hsetup := toSetup_cycle engine
  rw [← hform] at hsetup
  exact hsetup

end Engine

end FormRules
