import FormRules.Proofs.Engine.Request

/-!
Which fields an engine displays. Every declared field is among them, whatever schema is
installed, and no field ever leaves them (`declared_fields_listed`). A cycle gives entries to
the fields of the schema that it finds; what runs no cycle keeps the schema.
-/

namespace FormRules

/-- The overview has the fields that have any entry. -/
theorem FormState.contains_snapshot (state : FormState) (field : String) :
    state.snapshot.contains field = state.contains field := by
  rw [Dict.contains, get?_snapshot]
  cases state.contains field <;> rfl

/-- Transitions take no field out of the display. -/
theorem FormState.contains_applyAll_of_contains {state : FormState} {field : String}
    (h : state.contains field = true) (transitions : List Transition) :
    (state.applyAll transitions).contains field = true := by
  rw [contains_applyAll, h, Bool.true_or]

namespace Engine

variable {Form S : Type} [Binding Form] [FieldSchema S] {engine : Engine Form S} {field : String}

/-- Every declared field has an entry in the display. -/
def ListsDeclared (engine : Engine Form S) : Prop :=
  ∀ field, FieldSchema.declares engine.schema field = true → engine.state.contains field = true

/-- A cycle gives every declared field an entry, whatever there was before. -/
theorem listsDeclared_cycle (engine : Engine Form S) : engine.cycle.ListsDeclared := by
  intro field hdeclares
  rw [schema_cycle] at hdeclares
  have hnames : (FieldSchema.names engine.schema).contains field = true :=
    List.contains_iff_mem.mpr ((FieldSchema.mem_names_iff _ field).mpr hdeclares)
  rw [contains_cycle, hnames, Bool.or_true, Bool.true_or]

/-- One step: no request takes a field out of the display. -/
theorem contains_serve (h : engine.state.contains field = true) (request : Request S) :
    (engine.serve request).1.state.contains field = true := by
  rcases serve_cases engine request with ⟨begun, hbegun, hserve⟩ | ⟨-, form, transitions, hserve⟩
  · have hstate : begun.state = engine.state := by rw [eq_of_toCycle? hbegun]
    rw [hserve, contains_cycle, hstate, h, Bool.true_or, Bool.true_or]
  · rw [hserve]
    exact FormState.contains_applyAll_of_contains h transitions

/-- One step: a request that installs a schema runs a cycle over it, and any other keeps the
entries of the declared fields. -/
theorem ListsDeclared.serve (h : engine.ListsDeclared) (request : Request S) :
    (engine.serve request).1.ListsDeclared := by
  rcases serve_cases engine request with ⟨begun, -, hserve⟩ | ⟨-, form, transitions, hserve⟩
  · rw [hserve]
    exact listsDeclared_cycle begun
  · rw [hserve]
    exact fun field hdeclares =>
      FormState.contains_applyAll_of_contains (h field hdeclares) transitions

/-- A run: declared fields have entries after any requests. -/
theorem ListsDeclared.run (h : engine.ListsDeclared) (requests : List (Request S)) :
    (engine.run requests).ListsDeclared := by
  induction requests generalizing engine with
  | nil => exact h
  | cons request rest ih => exact ih (h.serve request)

/-- After any requests, served or refused, every field that the schema declares at that time
has an entry in the display, and no further request takes away the entry of any field. -/
theorem declared_fields_listed (setup : Setup Form S) (requests : List (Request S)) :
    let engine := setup.start.run requests
    (∀ field, FieldSchema.declares engine.schema field = true →
        engine.fieldConfigs.contains field = true) ∧
      ∀ request field, engine.fieldConfigs.contains field = true →
        (engine.serve request).1.fieldConfigs.contains field = true := by
  intro engine
  have hlists : engine.ListsDeclared := (listsDeclared_cycle { setup with }).run requests
  constructor
  · intro field hdeclares
    rw [fieldConfigs, FormState.contains_snapshot]
    exact hlists field hdeclares
  · intro request field hlisted
    rw [fieldConfigs, FormState.contains_snapshot] at hlisted ⊢
    exact contains_serve hlisted request

/-- A form with a single field, and a rule about another one. -/
def survey : Setup MemoryForm where
  form := {}
  schema := ⟨[{ name := "name", kind := .text }]⟩
  rules := [{
    id := some "hint"
    condition := .compare "name" .isEmpty (.literal .null) none
    actions := [⟨.addClass "pale", some "remark"⟩] }]

/-- Another schema, a change of a field that it no longer declares, and one of a field that it
does declare. -/
def revision : List Request :=
  [.setSchema ⟨[{ name := "age", kind := .integer, required := true }]⟩, .hide "name",
    .disable "age"]

/-- The new field is displayed, and so are the old one and the one that no schema declares. -/
theorem survey_revised :
    let engine := survey.start.run revision
    engine.schema.declares "age" = true ∧ engine.schema.declares "name" = false ∧
      (engine.serve (.hide "name")).2 = .refused (.unknownField "name") ∧
      engine.fieldConfigs.contains "age" = true ∧
      (survey.start.serve (.setSchema {})).1.fieldConfigs.contains "name" = true ∧
      engine.fieldConfigs.keys = ["age", "name", "remark"] := by
  have hkeys : (survey.start.run revision).fieldConfigs.keys = ["age", "name", "remark"] := by
    rw [fieldConfigs, FormState.keys_snapshot, FormState.fields_eq]
    decide
  intro engine
  have hdeclares : engine.schema.declares "age" = true := rfl
  have hlisted := (declared_fields_listed survey revision).1 "age" hdeclares
  have hbuilt : survey.start.fieldConfigs.contains "name" = true :=
    (declared_fields_listed survey []).1 "name" rfl
  have hkept := (declared_fields_listed survey []).2 (.setSchema {}) "name" hbuilt
  exact ⟨hdeclares, rfl, rfl, hlisted, hkept, hkeys⟩

end Engine

end FormRules
