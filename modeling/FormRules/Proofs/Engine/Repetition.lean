import FormRules.Proofs.Engine.Cycle
import FormRules.Proofs.FormState.History

/-!
Running a cycle again over an unchanged form. When no action writes a value, a second
cycle goes through the same transitions as the first one, on the display that the first
one left. It changes no flag, message or option, and no class comes or goes; but classes
that the rules take off and bring back move behind those that they only bring. The order
of the classes is settled after the second cycle (`fieldConfigs_second_cycle`).
-/

namespace FormRules.Engine

open Transition

variable {Form S : Type} [Binding Form] [FieldSchema S]

/-- The classes of a field keep their order when a cycle is run again: none that the cycle
takes off and brings back stands before one that it only brings, and that the field did
not have. -/
def KeepsClassOrder (engine : Engine Form S) (field : String) : Prop :=
  let transitions := engine.evaluation.transitions
  (newClasses transitions field).Pairwise fun earlier later =>
    anyTakesOff transitions field earlier = true →
      anyTakesOff transitions field later = true ∨
        later ∈ (engine.fieldConfig field).classes

omit [Binding Form] [FieldSchema S] in
theorem fieldConfigs_eq_iff {first second : Engine Form S}
    (hcontains : ∀ field, first.state.contains field = second.state.contains field) :
    first.fieldConfigs = second.fieldConfigs ↔
      ∀ field, first.fieldConfig field = second.fieldConfig field :=
  FormState.snapshot_eq_iff hcontains

section Quiet

variable {engine : Engine Form S}
  (hquiet : ∀ effect ∈ engine.evaluation.effects, effect.writesValue = false)

include hquiet

/-- Where no effect writes a value, the next cycle has the same evaluation. -/
theorem evaluation_cycle : engine.cycle.evaluation = engine.evaluation :=
  evaluation_eq_of_toSetup_eq (toSetup_cycle_of_not_writes hquiet)

theorem quiet_cycle : ∀ effect ∈ engine.cycle.evaluation.effects, effect.writesValue = false := by
  rw [evaluation_cycle hquiet]
  exact hquiet

theorem fieldConfig_cycle_cycle (field : String) :
    engine.cycle.cycle.fieldConfig field =
      engine.evaluation.transitions.foldl (FieldConfig.after field)
        (engine.cycle.fieldConfig field) := by
  rw [fieldConfig_cycle engine.cycle, evaluation_cycle hquiet]

/-- The second cycle gives no field its first entry. -/
theorem contains_cycle_cycle (field : String) :
    engine.cycle.cycle.state.contains field = engine.cycle.state.contains field := by
  have hschema : engine.cycle.schema = engine.schema := by
    rw [toSetup_cycle_of_not_writes hquiet]
  rw [contains_cycle engine.cycle, evaluation_cycle hquiet, hschema, contains_cycle]
  cases engine.state.contains field <;> cases (FieldSchema.names engine.schema).contains field <;>
    cases engine.evaluation.transitions.any (·.touches field) <;> rfl

theorem fieldConfig_cycle_cycle_eq (field : String) :
    engine.cycle.cycle.fieldConfig field =
      { engine.cycle.fieldConfig field with
        classes := (engine.cycle.cycle.fieldConfig field).classes } := by
  rw [fieldConfig_cycle_cycle hquiet, fieldConfig_cycle]
  exact FieldConfig.after_twice field (engine.fieldConfig field) engine.evaluation.transitions

theorem fieldConfig_cycle_cycle_eq_iff (field : String) :
    engine.cycle.cycle.fieldConfig field = engine.cycle.fieldConfig field ↔
      engine.KeepsClassOrder field := by
  have hclasses := FieldConfig.classes_twice_eq_iff field (engine.fieldConfig field)
    engine.evaluation.transitions
  rw [← fieldConfig_cycle, ← fieldConfig_cycle_cycle hquiet] at hclasses
  refine Iff.trans ⟨congrArg FieldConfig.classes, fun hsame => ?_⟩ hclasses
  calc engine.cycle.cycle.fieldConfig field
      = { engine.cycle.fieldConfig field with
          classes := (engine.cycle.cycle.fieldConfig field).classes } :=
        fieldConfig_cycle_cycle_eq hquiet field
    _ = engine.cycle.fieldConfig field := by rw [hsame]

/-- From the second cycle on nothing changes any more. -/
theorem fieldConfig_cycle_cycle_cycle (field : String) :
    engine.cycle.cycle.cycle.fieldConfig field = engine.cycle.cycle.fieldConfig field := by
  rw [fieldConfig_cycle_cycle (quiet_cycle hquiet), evaluation_cycle hquiet]
  apply FieldConfig.after_thrice field (engine.fieldConfig field)
  rw [← fieldConfig_cycle, ← fieldConfig_cycle_cycle hquiet]

end Quiet

/-- Rules that write no values: a second cycle leaves the display as it was exactly where
the classes of each field keep their order, it changes nothing but that order, and a third
cycle changes nothing. -/
theorem fieldConfigs_second_cycle (engine : Engine Form S)
    (hrules : ∀ rule ∈ engine.rules, ∀ action ∈ rule.actions,
      action.kind.writesValue = false) :
    (engine.cycle.cycle.fieldConfigs = engine.cycle.fieldConfigs ↔
        ∀ field, engine.KeepsClassOrder field) ∧
      engine.cycle.cycle.cycle.fieldConfigs = engine.cycle.cycle.fieldConfigs ∧
      ∀ field,
        let once := engine.cycle.fieldConfig field
        let twice := engine.cycle.cycle.fieldConfig field
        twice = { once with classes := twice.classes } ∧ twice.classes.Perm once.classes := by
  have hquiet : ∀ effect ∈ engine.evaluation.effects, effect.writesValue = false :=
    writesValue_eq_false_of_mem_effects hrules
  refine ⟨?_, ?_, fun field => ⟨fieldConfig_cycle_cycle_eq hquiet field, ?_⟩⟩
  · rw [fieldConfigs_eq_iff (contains_cycle_cycle hquiet)]
    exact forall_congr' (fieldConfig_cycle_cycle_eq_iff hquiet)
  · rw [fieldConfigs_eq_iff (contains_cycle_cycle (quiet_cycle hquiet))]
    exact fieldConfig_cycle_cycle_cycle hquiet
  · rw [fieldConfig_cycle_cycle hquiet, fieldConfig_cycle]
    exact FieldConfig.perm_classes_twice field (engine.fieldConfig field)
      engine.evaluation.transitions

/-- A form with a rule that holds while its only field is empty: it takes a class off the
field, brings it back, and brings another one. -/
def highlighting : Setup MemoryForm where
  form := {}
  schema := ⟨[{ name := "name", kind := .text }]⟩
  rules := [{
    id := some "highlight"
    condition := .compare "name" .isEmpty (.literal .null) none
    actions := [
      { kind := .removeClass "active", target := some "name" },
      { kind := .addClass "active", target := some "name" },
      { kind := .addClass "wide", target := some "name" }] }]

theorem fieldConfigs_highlighting_ne :
    highlighting.start.cycle.fieldConfigs ≠ highlighting.start.fieldConfigs := by
  intro hsame
  have hname := congrArg (Dict.get? · "name") hsame
  simp only [fieldConfigs, FormState.get?_snapshot] at hname
  exact absurd (congrArg (Option.map FieldConfig.classes) hname) (by decide)

/-- The rule of `highlighting` writes no value; its first cycle does not keep the order of
the classes, and its second cycle is the last one that changes anything. -/
theorem highlighting_settles :
    (∀ rule ∈ highlighting.rules, ∀ action ∈ rule.actions,
        action.kind.writesValue = false) ∧
      (¬ ∀ field, Engine.KeepsClassOrder { highlighting with } field) ∧
      highlighting.start.cycle.cycle.fieldConfigs = highlighting.start.cycle.fieldConfigs := by
  have hquiet : ∀ rule ∈ highlighting.rules, ∀ action ∈ rule.actions,
      action.kind.writesValue = false := by decide
  obtain ⟨hiff, hthird, -⟩ := fieldConfigs_second_cycle { highlighting with } hquiet
  exact ⟨hquiet, fun hkeeps => fieldConfigs_highlighting_ne (hiff.mpr hkeeps), hthird⟩

/-- The second cycle over an unchanged form need not leave the display as it was: the
classes of `highlighting` are turned around. -/
theorem second_cycle_moves_classes :
    (∀ rule ∈ highlighting.rules, ∀ action ∈ rule.actions,
        action.kind.writesValue = false) ∧
      (highlighting.start.fieldConfig "name").classes = ["active", "wide"] ∧
      (highlighting.start.cycle.fieldConfig "name").classes = ["wide", "active"] ∧
      highlighting.start.cycle.fieldConfigs ≠ highlighting.start.fieldConfigs :=
  ⟨by decide, by decide, by decide, fieldConfigs_highlighting_ne⟩

end FormRules.Engine
