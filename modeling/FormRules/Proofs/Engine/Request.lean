import FormRules.Proofs.Engine.Cycle

/-!
What a request does to an engine, said once: it replaces a part and runs one cycle, or it runs
none, and then only the form or the display can change, the display by transitions
(`serve_cases`).
-/

namespace FormRules.Engine

variable {Form S : Type}

/-- The engine that a request runs a cycle of, with the part that the request replaces, if the
request runs a cycle at all. -/
def toCycle? (engine : Engine Form S) : Request S → Option (Engine Form S)
  | .notify => some engine
  | .evaluate => some engine
  | .setRules rules => some { engine with rules }
  | .setSchema schema => some { engine with schema }
  | .setContext context => some { engine with context }
  | _ => none

/-- A request replaces the rules, the schema or the context before its cycle. -/
theorem eq_of_toCycle? {engine begun : Engine Form S} {request : Request S}
    (h : engine.toCycle? request = some begun) :
    begun = { engine with
      rules := begun.rules, schema := begun.schema, context := begun.context } := by
  cases request <;> cases h <;> rfl

/-- What is to be done to a declared field is done, and refused for any other. -/
theorem onDeclared_cases [FieldSchema S] (engine : Engine Form S) (field : String)
    (change : Engine Form S → Engine Form S) :
    (FieldSchema.declares engine.schema field = true ∧
        engine.onDeclared field change = (change engine, .done)) ∨
      ¬FieldSchema.declares engine.schema field = true ∧
        ∃ error, engine.onDeclared field change = (engine, .refused error) := by
  unfold onDeclared
  by_cases hdeclares : FieldSchema.declares engine.schema field = true
  · exact .inl ⟨hdeclares, if_pos hdeclares⟩
  · exact .inr ⟨hdeclares, .unknownField field, if_neg hdeclares⟩

/-- What is to be done to a declared field is done, or nothing happens. -/
theorem exists_form_onDeclared [FieldSchema S] {engine : Engine Form S}
    {change : Engine Form S → Engine Form S}
    (field : String) (form : Form) (transitions : List Transition)
    (hchange : change engine =
      { engine with form, state := engine.state.applyAll transitions }) :
    ∃ form transitions, (engine.onDeclared field change).1 =
      { engine with form, state := engine.state.applyAll transitions } := by
  rcases engine.onDeclared_cases field change with ⟨-, hdone⟩ | ⟨-, error, hrefused⟩
  · rw [hdone]
    exact ⟨form, transitions, hchange⟩
  · rw [hrefused]
    exact ⟨engine.form, [], rfl⟩

variable [Binding Form] [FieldSchema S]

/-- A request that runs a cycle runs that of the engine with the part replaced. -/
theorem serve_of_toCycle? {engine begun : Engine Form S} {request : Request S}
    (h : engine.toCycle? request = some begun) : (engine.serve request).1 = begun.cycle := by
  cases request <;> cases h <;> rfl

/-- A checked write is carried out if the schema declares the field and permits the value, and
refused otherwise. -/
theorem serve_setChecked_cases (engine : Engine Form S) (field : String) (value : Value) :
    ((FieldSchema.declares engine.schema field = true ∧
          FieldSchema.check engine.schema field value = .ok ()) ∧
        engine.serve (.setChecked field value) =
          ({ engine with form := Binding.setValue engine.form field (some value) }, .done)) ∨
      ¬(FieldSchema.declares engine.schema field = true ∧
          FieldSchema.check engine.schema field value = .ok ()) ∧
        ∃ error, engine.serve (.setChecked field value) = (engine, .refused error) := by
  by_cases hdeclares : FieldSchema.declares engine.schema field = true
  · cases hcheck : FieldSchema.check engine.schema field value with
    | ok =>
      refine .inl ⟨⟨hdeclares, rfl⟩, ?_⟩
      rw [serve, if_pos hdeclares, hcheck]
    | error messages =>
      refine .inr ⟨nofun, .rejected field messages, ?_⟩
      rw [serve, if_pos hdeclares, hcheck]
  · refine .inr ⟨fun h => hdeclares h.1, .unknownField field, ?_⟩
    rw [serve, if_neg hdeclares]

/-- Publishing messages changes the form only. -/
theorem exists_form_publishAll (engine : Engine Form S) (valid : Bool) (names : List String) :
    ∃ form, (names.foldl publish (engine, valid)).1 = { engine with form } := by
  induction names generalizing engine valid with
  | nil => exact ⟨engine.form, rfl⟩
  | cons name rest ih =>
    rw [List.foldl_cons, publish]
    cases engine.currentCheck name with
    | ok => exact ih { engine with form := Binding.clearErrors engine.form name } valid
    | error messages =>
      exact ih { engine with form := Binding.setErrors engine.form name messages } false

/-- All that a request can do: it runs a cycle, or it changes the form and the display and
nothing else. -/
theorem serve_cases (engine : Engine Form S) (request : Request S) :
    (∃ begun, engine.toCycle? request = some begun ∧ (engine.serve request).1 = begun.cycle) ∨
      engine.toCycle? request = none ∧ ∃ form transitions, (engine.serve request).1 =
        { engine with form, state := engine.state.applyAll transitions } := by
  have hdisplay : ∀ field transition, ∃ form transitions,
      (engine.display field transition).1 =
        { engine with form, state := engine.state.applyAll transitions } :=
    fun field transition => exists_form_onDeclared field engine.form [transition] rfl
  cases request with
  | notify | evaluate | setRules | setSchema | setContext => exact .inl ⟨_, rfl, rfl⟩
  | validate names =>
    obtain ⟨form, hform⟩ :=
      exists_form_publishAll engine true (names.getD (FieldSchema.names engine.schema))
    exact .inr ⟨rfl, form, [], hform⟩
  | clearField field => exact .inr ⟨rfl, exists_form_onDeclared field _ [] rfl⟩
  | «show» | hide | enable | disable | require => exact .inr ⟨rfl, hdisplay _ _⟩
  | setChecked field value =>
    refine .inr ⟨rfl, ?_⟩
    rcases serve_setChecked_cases engine field value with ⟨-, hserve⟩ | ⟨-, error, hserve⟩
    · rw [hserve]
      exact ⟨_, [], rfl⟩
    · rw [hserve]
      exact ⟨engine.form, [], rfl⟩
  | setUnchecked | hostValue | hostErrors => exact .inr ⟨rfl, _, [], rfl⟩

end FormRules.Engine
