import FormRules.Proofs.Engine.Cycle

/-!
What a form holds. Rules write only values that the schema permits, and so do checked
writes: a form that held no other values when its engine was built never holds any, as long
as the schema stays and nobody writes to the form unchecked (`admits_run`). The invariant is
carried through single effects, through a cycle, and through requests.
-/

namespace FormRules

namespace Schema

variable {schema : Schema} {data : FormData} {field : String} {value : Value}

/-- Every value of a form is permitted for its field. -/
def Admits (schema : Schema) (data : FormData) : Prop :=
  ∀ field value, data.get? field = some value → schema.permits field value = true

/-- A field that is not declared may hold no value at all. -/
theorem declares_of_permits (h : schema.permits field value = true) :
    schema.declares field = true := by
  unfold permits messages at h
  unfold declares kind?
  cases hspec : schema.spec? field with
  | none => simp [hspec] at h
  | some spec => rfl

theorem Admits.insert (h : schema.Admits data) (hpermits : schema.permits field value = true) :
    schema.Admits (data.insert field value) := by
  intro other stored hstored
  rw [Dict.get?_insert] at hstored
  split at hstored
  · rename_i hfield
    cases hstored
    exact hfield ▸ hpermits
  · exact h other stored hstored

theorem Admits.erase (h : schema.Admits data) (field : String) :
    schema.Admits (data.erase field) := by
  intro other stored hstored
  rw [Dict.get?_erase] at hstored
  split at hstored
  · cases hstored
  · exact h other stored hstored

end Schema

/-- An effect does not write a value that the schema does not permit. -/
def Effect.Permitted (schema : Schema) : Effect → Prop
  | .setValue field value => schema.permits field value = true
  | _ => True

/-- What a rule may do, it may do to the form. -/
theorem ActionKind.MayCause.permitted {schema : Schema} {field : String} {kind : ActionKind}
    {effect : Effect} (h : kind.MayCause schema field effect) : effect.Permitted schema := by
  cases h with
  | setValue hcheck => exact Schema.check_eq_ok_iff.mp hcheck
  | display => trivial
  | clearValue => trivial

/-- The effects of an evaluation write only what the schema permits, whatever the rules. -/
theorem permitted_of_mem_effects {ctx : Context} {fns : Functions} {schema : Schema}
    {order : RuleOrder} {rules : List Rule} {effect : Effect}
    (hmem : effect ∈ (Evaluation.ofRules ctx fns schema order rules).effects) :
    effect.Permitted schema := by
  obtain ⟨rule, -, -, -, action, -, houtcome⟩ :=
    (mem_effects_ofRules_iff ctx fns schema order rules effect).mp hmem
  rcases Rule.mem_outcomes_cases ctx fns schema houtcome with ⟨_, rfl⟩ | ⟨_, field, _, hcause⟩
  · trivial
  · exact hcause.permitted

namespace Engine

variable {engine : Engine MemoryForm} {schema : Schema} {ctx : Context}

theorem admits_carryOut {effect : Effect} (h : schema.Admits engine.form.values)
    (heffect : effect.Permitted schema) :
    schema.Admits (carryOut ctx engine effect).form.values := by
  cases effect with
  | display transition => exact h
  | setValue field value =>
    simp only [carryOut]
    split
    · exact h
    · exact h.insert heffect
  | clearValue field => exact h.erase field
  | custom action =>
    simp only [carryOut]
    split
    · exact h
    · exact h

theorem admits_foldl_carryOut {effects : List Effect} (h : schema.Admits engine.form.values)
    (heffects : ∀ effect ∈ effects, effect.Permitted schema) :
    schema.Admits (effects.foldl (carryOut ctx) engine).form.values := by
  induction effects generalizing engine with
  | nil => exact h
  | cons effect rest ih =>
    rw [List.forall_mem_cons] at heffects
    exact ih (admits_carryOut h heffects.1) heffects.2

/-- The engine works with a schema, and its form holds only what that schema permits. -/
structure KeepsTo (engine : Engine MemoryForm) (schema : Schema) : Prop where
  schema_eq : engine.schema = schema
  admits : schema.Admits engine.form.values

/-- A cycle writes only permitted values, and keeps the schema. -/
theorem KeepsTo.cycle (h : engine.KeepsTo schema) : engine.cycle.KeepsTo schema := by
  obtain ⟨rfl, hadmits⟩ := h
  have hpermitted : ∀ effect ∈ engine.evaluation.effects, effect.Permitted engine.schema :=
    fun _ => permitted_of_mem_effects
  exact ⟨schema_cycle engine, admits_foldl_carryOut hadmits hpermitted⟩

/-- Publishing messages changes the errors of a form only. -/
theorem KeepsTo.publish {sofar : Engine MemoryForm × Bool} (h : sofar.1.KeepsTo schema)
    (field : String) : (publish sofar field).1.KeepsTo schema := by
  obtain ⟨engine, valid⟩ := sofar
  simp only [Engine.publish]
  split
  · exact ⟨h.schema_eq, h.admits⟩
  · exact ⟨h.schema_eq, h.admits⟩

theorem KeepsTo.foldl_publish {sofar : Engine MemoryForm × Bool} (h : sofar.1.KeepsTo schema)
    (names : List String) : (names.foldl Engine.publish sofar).1.KeepsTo schema := by
  induction names generalizing sofar with
  | nil => exact h
  | cons field rest ih => exact ih (publish h field)

theorem KeepsTo.onDeclared {field : String} {change : Engine MemoryForm → Engine MemoryForm}
    (h : engine.KeepsTo schema) (hchange : (change engine).KeepsTo schema) :
    (engine.onDeclared field change).1.KeepsTo schema := by
  unfold Engine.onDeclared
  split
  · exact hchange
  · exact h

/-- Requests that leave the schema, and check what they write. -/
def Request.isGuarded : Request → Bool
  | .setSchema _ => false
  | .setUnchecked _ _ => false
  | .hostValue _ _ => false
  | _ => true

/-- One step: serving a guarded request writes only permitted values. -/
theorem KeepsTo.serve (h : engine.KeepsTo schema) {request : Request}
    (hguarded : request.isGuarded = true) : (engine.serve request).1.KeepsTo schema := by
  cases request with
  | notify => exact h.cycle
  | evaluate => exact h.cycle
  | setRules rules =>
    have hrules : KeepsTo { engine with rules } schema := ⟨h.schema_eq, h.admits⟩
    exact hrules.cycle
  | setContext context =>
    have hcontext : KeepsTo { engine with context } schema := ⟨h.schema_eq, h.admits⟩
    exact hcontext.cycle
  | validate names => exact foldl_publish h _
  | clearField field => exact h.onDeclared ⟨h.schema_eq, h.admits.erase field⟩
  | «show» field => exact h.onDeclared ⟨h.schema_eq, h.admits⟩
  | hide field => exact h.onDeclared ⟨h.schema_eq, h.admits⟩
  | enable field => exact h.onDeclared ⟨h.schema_eq, h.admits⟩
  | disable field => exact h.onDeclared ⟨h.schema_eq, h.admits⟩
  | require field required => exact h.onDeclared ⟨h.schema_eq, h.admits⟩
  | setChecked field value =>
    simp only [Engine.serve]
    split
    · split
      · rename_i hcheck
        rw [h.schema_eq] at hcheck
        exact ⟨h.schema_eq, h.admits.insert (Schema.check_eq_ok_iff.mp hcheck)⟩
      · exact h
    · exact h
  | hostErrors field errors => exact ⟨h.schema_eq, h.admits⟩
  | setSchema | setUnchecked | hostValue => cases hguarded

/-- A run: guarded requests write only permitted values. -/
theorem KeepsTo.run (h : engine.KeepsTo schema) {requests : List Request}
    (hguarded : ∀ request ∈ requests, request.isGuarded = true) :
    (engine.run requests).KeepsTo schema := by
  induction requests generalizing engine with
  | nil => exact h
  | cons request rest ih =>
    rw [List.forall_mem_cons] at hguarded
    exact ih (h.serve hguarded.1) hguarded.2

/-- A form that holds only permitted values when its engine is built holds only such values
after any guarded requests, and none in a field that is not declared. -/
theorem admits_run (setup : Setup MemoryForm) (h : setup.schema.Admits setup.form.values)
    (requests : List Request) (hguarded : ∀ request ∈ requests, request.isGuarded = true) :
    let values := (setup.start.run requests).form.values
    ∀ field value, values.get? field = some value →
      setup.schema.permits field value = true ∧ setup.schema.declares field = true := by
  intro values field value hstored
  have hbuilt : KeepsTo { setup with } setup.schema := ⟨rfl, h⟩
  have hpermits := (hbuilt.cycle.run hguarded).admits field value hstored
  exact ⟨hpermits, Schema.declares_of_permits hpermits⟩

/-- A form with a rule that fills in the age once the name is there, and then tries to write
a text into the age and a number into a field that is not declared. -/
def registration : Setup MemoryForm where
  form := { values := Dict.ofList [("name", .string "Ada")] }
  schema := ⟨[{ name := "name", kind := .text }, { name := "age", kind := .integer }]⟩
  rules := [{
    id := some "adult"
    condition := .compare "name" .isNotEmpty (.literal .null) none
    actions := [
      .setValue "age" (.literal (.int 30)),
      .setValue "age" (.literal (.string "old")),
      .setValue "rank" (.literal (.int 1))] }]

/-- What the host asks for: a new age, no name, and another cycle. -/
def corrections : List Request :=
  [.setChecked "age" (.int 41), .clearField "name", .evaluate]

theorem registration_stays_valid :
    registration.schema.Admits registration.form.values ∧
      (∀ request ∈ corrections, request.isGuarded = true) ∧
      registration.start.form.values.get? "age" = some (.int 30) ∧
      (registration.start.run corrections).form.values.get? "age" = some (.int 41) ∧
      registration.schema.permits "age" (.int 41) = true := by
  have hadmits : registration.schema.Admits registration.form.values := by
    intro field value hstored
    have hname : Entries.get? field [("name", Value.string "Ada")] = some value := hstored
    simp only [Entries.get?, Option.ite_none_right_eq_some, Option.some.injEq] at hname
    obtain ⟨rfl, rfl⟩ := hname
    rfl
  have hguarded : ∀ request ∈ corrections, request.isGuarded = true := by
    simp [corrections, Request.isGuarded]
  have hstored : (registration.start.run corrections).form.values.get? "age" =
      some (.int 41) := rfl
  have hpermitted := admits_run registration hadmits corrections hguarded "age" (.int 41) hstored
  exact ⟨hadmits, hguarded, rfl, hstored, hpermitted.1⟩

end Engine

end FormRules
