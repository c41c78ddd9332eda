import FormRules.Engine

/-!
Two engines that serve the same requests side by side, over forms that need not be of one type
and with hosts that need not handle the same things. Where the forms correspond, in that they
show the same values and go on to do so under every use an engine makes of them, the engines
stay in step: they have the same rules, display and reports, and give the same answers
(`InStep.serve`, `InStep.run`).
-/

namespace FormRules

section

variable {First Second : Type} [Binding First] [Binding Second]

/-- A relation between forms whose values are the same, which everything that an engine does to
both of them keeps. -/
structure Binding.Corresponds (R : First → Second → Prop) : Prop where
  values {one : First} {other : Second} (h : R one other) :
    Binding.values one = Binding.values other
  value? {one : First} {other : Second} (h : R one other) (field : String) :
    Binding.value? one field = Binding.value? other field
  setValue {one : First} {other : Second} (h : R one other) (field : String)
    (value : Option Value) :
    R (Binding.setValue one field value) (Binding.setValue other field value)
  clearErrors {one : First} {other : Second} (h : R one other) (field : String) :
    R (Binding.clearErrors one field) (Binding.clearErrors other field)
  setErrors {one : First} {other : Second} (h : R one other) (field : String)
    (errors : List String) :
    R (Binding.setErrors one field errors) (Binding.setErrors other field errors)

/-- Equal forms stay equal. -/
theorem Binding.corresponds_eq : Binding.Corresponds (Eq : First → First → Prop) where
  values h := congrArg Binding.values h
  value? h field := congrArg (Binding.value? · field) h
  setValue h field value := congrArg (Binding.setValue · field value) h
  clearErrors h field := congrArg (Binding.clearErrors · field) h
  setErrors h field errors := congrArg (Binding.setErrors · field errors) h

end

namespace Engine

variable {First Second S : Type}

/-- The engines agree on all but the host's custom actions, and their forms are related. -/
structure InStep (R : First → Second → Prop) (one : Engine First S)
    (other : Engine Second S) : Prop where
  form : R one.form other.form
  schema : one.schema = other.schema
  rules : one.rules = other.rules
  functions : one.functions = other.functions
  context : one.context = other.context
  order : one.order = other.order
  state : one.state = other.state
  last : one.last = other.last

variable [Binding First] [Binding Second] {R : First → Second → Prop}
  {one : Engine First S} {other : Engine Second S}

omit [Binding First] [Binding Second] in
theorem InStep.onDeclared [FieldSchema S] (h : InStep R one other) {field : String}
    {change : Engine First S → Engine First S} {change' : Engine Second S → Engine Second S}
    (hchange : InStep R (change one) (change' other)) :
    InStep R (one.onDeclared field change).1 (other.onDeclared field change').1 ∧
      (one.onDeclared field change).2 = (other.onDeclared field change').2 := by
  unfold Engine.onDeclared
  rw [h.schema]
  split
  · exact ⟨hchange, rfl⟩
  · exact ⟨h, rfl⟩

omit [Binding First] [Binding Second] in
theorem InStep.display [FieldSchema S] (h : InStep R one other) (field : String)
    (transition : Transition) :
    InStep R (one.display field transition).1 (other.display field transition).1 ∧
      (one.display field transition).2 = (other.display field transition).2 := by
  have hstate : one.state.apply transition = other.state.apply transition := by rw [h.state]
  exact h.onDeclared { h with state := hstate }

section

variable (hR : Binding.Corresponds R)

include hR

theorem InStep.cycleContext (h : InStep R one other) : one.cycleContext = other.cycleContext := by
  rw [Engine.cycleContext, Engine.cycleContext, h.context, hR.values h.form]

/-- One effect is carried out alike. A custom action is no concern of the relation, whether
the host handles it or not. -/
theorem InStep.carryOut (h : InStep R one other) (ctx : Context) (effect : Effect) :
    InStep R (carryOut ctx one effect) (carryOut ctx other effect) := by
  cases effect with
  | display transition =>
    have hstate : one.state.apply transition = other.state.apply transition := by rw [h.state]
    exact { h with state := hstate }
  | setValue field value =>
    simp only [Engine.carryOut]
    rw [hR.value? h.form field]
    split
    · exact h
    · exact { h with form := hR.setValue h.form field (some value) }
  | clearValue field =>
    exact { h with form := hR.clearErrors (hR.setValue h.form field none) field }
  | custom action =>
    simp only [Engine.carryOut]
    split <;> split
    all_goals exact { h with }

theorem InStep.foldl_carryOut (h : InStep R one other) (ctx : Context) (effects : List Effect) :
    InStep R (effects.foldl (Engine.carryOut ctx) one)
      (effects.foldl (Engine.carryOut ctx) other) := by
  induction effects generalizing one other with
  | nil => exact h
  | cons effect rest ih => exact ih (h.carryOut hR ctx effect)

variable [FieldSchema S]

theorem InStep.evaluation (h : InStep R one other) : one.evaluation = other.evaluation := by
  rw [Engine.evaluation, Engine.evaluation, h.cycleContext hR, h.functions, h.schema, h.order,
    h.rules]

theorem InStep.cycle (h : InStep R one other) : InStep R one.cycle other.cycle := by
  have hstate : one.state.apply (.declare (FieldSchema.names one.schema)) =
      other.state.apply (.declare (FieldSchema.names other.schema)) := by rw [h.state, h.schema]
  have hdeclared : InStep R
      { one with state := one.state.apply (.declare (FieldSchema.names one.schema)) }
      { other with state := other.state.apply (.declare (FieldSchema.names other.schema)) } :=
    { h with state := hstate }
  have hrun := hdeclared.foldl_carryOut hR one.cycleContext one.evaluation.effects
  unfold Engine.cycle
  rw [← h.evaluation hR, ← h.cycleContext hR]
  exact { hrun with last := rfl }

theorem InStep.currentCheck (h : InStep R one other) (field : String) :
    one.currentCheck field = other.currentCheck field := by
  rw [Engine.currentCheck, Engine.currentCheck, h.schema, hR.value? h.form field]

theorem InStep.publish {first : Engine First S × Bool} {second : Engine Second S × Bool}
    (h : InStep R first.1 second.1) (hvalid : first.2 = second.2) (field : String) :
    InStep R (publish first field).1 (publish second field).1 ∧
      (publish first field).2 = (publish second field).2 := by
  obtain ⟨one, valid⟩ := first
  obtain ⟨other, _⟩ := second
  simp only [Engine.publish, h.currentCheck hR field]
  cases other.currentCheck field with
  | ok => exact ⟨{ h with form := hR.clearErrors h.form field }, hvalid⟩
  | error messages => exact ⟨{ h with form := hR.setErrors h.form field messages }, rfl⟩

theorem InStep.foldl_publish {first : Engine First S × Bool} {second : Engine Second S × Bool}
    (h : InStep R first.1 second.1) (hvalid : first.2 = second.2) (names : List String) :
    InStep R (names.foldl Engine.publish first).1 (names.foldl Engine.publish second).1 ∧
      (names.foldl Engine.publish first).2 = (names.foldl Engine.publish second).2 := by
  induction names generalizing first second with
  | nil => exact ⟨h, hvalid⟩
  | cons field rest ih =>
    obtain ⟨hforms, hflags⟩ := publish hR h hvalid field
    exact ih hforms hflags

theorem InStep.validate (h : InStep R one other) (names : Option (List String)) :
    InStep R (one.validate names).1 (other.validate names).1 ∧
      (one.validate names).2 = (other.validate names).2 := by
  rw [Engine.validate, Engine.validate, h.schema]
  exact foldl_publish hR h rfl _

/-- One step: engines in step are so after each request, and give the same answer to it. -/
theorem InStep.serve (h : InStep R one other) (request : Request S) :
    InStep R (one.serve request).1 (other.serve request).1 ∧
      (one.serve request).2 = (other.serve request).2 := by
  cases request with
  | notify => exact ⟨h.cycle hR, rfl⟩
  | evaluate => exact ⟨h.cycle hR, rfl⟩
  | setRules rules =>
    have hrules : InStep R { one with rules } { other with rules } := { h with rules := rfl }
    exact ⟨hrules.cycle hR, rfl⟩
  | setSchema schema =>
    have hschema : InStep R { one with schema } { other with schema } :=
      { h with schema := rfl }
    exact ⟨hschema.cycle hR, rfl⟩
  | setContext context =>
    have hcontext : InStep R { one with context } { other with context } :=
      { h with context := rfl }
    exact ⟨hcontext.cycle hR, rfl⟩
  | validate names =>
    obtain ⟨hforms, htruth⟩ := h.validate hR names
    exact ⟨hforms, congrArg Answer.valid htruth⟩
  | clearField field =>
    exact h.onDeclared
      { h with form := hR.clearErrors (hR.setValue h.form field none) field }
  | «show» | hide | enable | disable | require => exact h.display _ _
  | setChecked field value =>
    have hdeclares : FieldSchema.declares one.schema field =
        FieldSchema.declares other.schema field := by rw [h.schema]
    have hcheck : FieldSchema.check one.schema field value =
        FieldSchema.check other.schema field value := by rw [h.schema]
    simp only [Engine.serve, hdeclares, hcheck]
    split
    · split
      · exact ⟨{ h with form := hR.setValue h.form field (some value) }, rfl⟩
      · exact ⟨h, rfl⟩
    · exact ⟨h, rfl⟩
  | setUnchecked field value =>
    exact ⟨{ h with form := hR.setValue h.form field (some value) }, rfl⟩
  | hostValue field value => exact ⟨{ h with form := hR.setValue h.form field value }, rfl⟩
  | hostErrors field errors => exact ⟨{ h with form := hR.setErrors h.form field errors }, rfl⟩

/-- A run: engines in step stay so through any requests. -/
theorem InStep.run (h : InStep R one other) (requests : List (Request S)) :
    InStep R (one.run requests) (other.run requests) := by
  induction requests generalizing one other with
  | nil => exact h
  | cons request rest ih => exact ih (h.serve hR request).1

end

end Engine

end FormRules
