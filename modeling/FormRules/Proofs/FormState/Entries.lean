import FormRules.Proofs.FormState.Field

/-!
Which fields a display state knows. The state keeps one dictionary for each dimension, and a
transition touches one of them at a time, so a field may have entries in some and not in
others. What has an entry is told by the history alone (`entries_of_history`): a field was
declared, which gives it an entry in every dimension for good, or something was done to it
other than taking a class away.
-/

namespace FormRules

/-- What gives a field an entry: declaring it, or any change of it but the removal of a
class. -/
theorem Transition.touches_iff {field : String} {transition : Transition} :
    transition.touches field = true ↔
      (∃ names, transition = .declare names ∧ field ∈ names) ∨
        transition.field? = some field ∧ ∀ cls, transition ≠ .removeClass field cls := by
  cases transition with
  | declare names => simp [touches, field?]
  | removeClass other cls =>
    constructor
    · intro h
      cases h
    · rintro (⟨_, h, -⟩ | ⟨hfield, hother⟩)
      · cases h
      · cases hfield
        exact absurd rfl (hother cls)
  | setVisible | setDisabled | setRequired | addWarning | addError | addClass | setOptions =>
    simp [touches, field?]

namespace FormState

/-- The field has an entry in every dimension. -/
structure IsComplete (state : FormState) (field : String) : Prop where
  visible : state.visible.contains field = true
  required : state.required.contains field = true
  disabled : state.disabled.contains field = true
  warnings : state.warnings.contains field = true
  errors : state.errors.contains field = true
  classes : state.classes.contains field = true
  options : state.options.contains field = true

variable {state : FormState} {field : String}

/-- Declaring a field completes it. -/
theorem isComplete_declare (state : FormState) (field : String) :
    (state.declare field).IsComplete field := by
  constructor <;> simp [declare, Dict.contains_insertNew]

/-- Declaring another field takes no entry away. -/
theorem IsComplete.declare (h : state.IsComplete field) (name : String) :
    (state.declare name).IsComplete field := by
  constructor <;>
    simp [FormState.declare, Dict.contains_insertNew, h.visible, h.required, h.disabled,
      h.warnings, h.errors, h.classes, h.options]

theorem IsComplete.declareAll (h : state.IsComplete field) (names : List String) :
    (names.foldl FormState.declare state).IsComplete field := by
  induction names generalizing state with
  | nil => exact h
  | cons name rest ih => exact ih (h.declare name)

/-- Every field of a declaration is complete after it. -/
theorem isComplete_declareAll {names : List String} (hmem : field ∈ names)
    (state : FormState) : (names.foldl FormState.declare state).IsComplete field := by
  induction names generalizing state with
  | nil => cases hmem
  | cons name rest ih =>
    rcases List.mem_cons.mp hmem with rfl | hrest
    · exact (isComplete_declare state field).declareAll rest
    · exact ih hrest (state.declare name)

/-- One step: no transition takes an entry away. -/
theorem IsComplete.apply (h : state.IsComplete field) (transition : Transition) :
    (state.apply transition).IsComplete field := by
  cases transition with
  | declare names => exact h.declareAll names
  | setVisible other visible =>
    exact { h with visible := by simp [FormState.apply, Dict.contains_insert, h.visible] }
  | setDisabled other disabled =>
    exact { h with disabled := by simp [FormState.apply, Dict.contains_insert, h.disabled] }
  | setRequired other required =>
    exact { h with required := by simp [FormState.apply, Dict.contains_insert, h.required] }
  | addWarning other message =>
    exact { h with warnings := by simp [FormState.apply, contains_addText, h.warnings] }
  | addError other message =>
    exact { h with errors := by simp [FormState.apply, contains_addText, h.errors] }
  | addClass other cls =>
    exact { h with classes := by simp [FormState.apply, contains_addText, h.classes] }
  | removeClass other cls =>
    exact { h with classes := by simp [FormState.apply, contains_removeText, h.classes] }
  | setOptions other options =>
    exact { h with options := by simp [FormState.apply, Dict.contains_insert, h.options] }

/-- A run: a field that is complete stays complete. -/
theorem IsComplete.applyAll (h : state.IsComplete field) (transitions : List Transition) :
    (state.applyAll transitions).IsComplete field := by
  induction transitions generalizing state with
  | nil => exact h
  | cons transition rest ih => exact ih (h.apply transition)

/-- A field that some transition declares is complete from then on. -/
theorem isComplete_applyAll {transitions : List Transition} {names : List String}
    (hdeclared : .declare names ∈ transitions) (hmem : field ∈ names) (state : FormState) :
    (state.applyAll transitions).IsComplete field := by
  induction transitions generalizing state with
  | nil => cases hdeclared
  | cons transition rest ih =>
    rcases List.mem_cons.mp hdeclared with rfl | hrest
    · exact (isComplete_declareAll hmem state).applyAll rest
    · exact ih hrest (state.apply transition)

theorem contains_empty (field : String) : ({} : FormState).contains field = false := rfl

/-- A field has entries exactly where its history gave it some. -/
theorem contains_history_iff (transitions : List Transition) (field : String) :
    (({} : FormState).applyAll transitions).contains field = true ↔
      (∃ names, .declare names ∈ transitions ∧ field ∈ names) ∨
        ∃ transition ∈ transitions, transition.field? = some field ∧
          ∀ cls, transition ≠ .removeClass field cls := by
  rw [contains_applyAll, contains_empty, Bool.false_or, List.any_eq_true]
  simp only [Transition.touches_iff]
  constructor
  · rintro ⟨transition, hmem, ⟨names, rfl, hfield⟩ | hchange⟩
    · exact .inl ⟨names, hmem, hfield⟩
    · exact .inr ⟨transition, hmem, hchange⟩
  · rintro (⟨names, hmem, hfield⟩ | ⟨transition, hmem, hchange⟩)
    · exact ⟨_, hmem, .inl ⟨names, rfl, hfield⟩⟩
    · exact ⟨transition, hmem, .inr hchange⟩

/-- The state after any history: its fields are listed in ascending order, each once, and the
overview shows these fields with their displays; they are the fields that were declared or
changed otherwise than by taking a class away. Declared fields have entries in all dimensions,
and fields without entries show the defaults. -/
theorem entries_of_history (transitions : List Transition) (field : String) :
    let state := ({} : FormState).applyAll transitions
    state.fields.Pairwise (· < ·) ∧
      (field ∈ state.fields ↔ state.contains field = true) ∧
      state.snapshot.get? field =
        (if field ∈ state.fields then some (state.fieldConfig field) else none) ∧
      (state.contains field = true ↔
        (∃ names, .declare names ∈ transitions ∧ field ∈ names) ∨
          ∃ transition ∈ transitions, transition.field? = some field ∧
            ∀ cls, transition ≠ .removeClass field cls) ∧
      (∀ names, .declare names ∈ transitions → field ∈ names → state.IsComplete field) ∧
      (state.contains field = false → state.fieldConfig field = {}) := by
  intro state
  have hlisted : field ∈ state.fields ↔ state.contains field = true := mem_fields_iff state field
  have hshown : state.snapshot.get? field =
      if field ∈ state.fields then some (state.fieldConfig field) else none := by
    simp only [get?_snapshot, hlisted]
  exact ⟨state.pairwise_fields, hlisted, hshown, contains_history_iff transitions field,
    fun names hdeclared hmem => isComplete_applyAll hdeclared hmem {},
    fieldConfig_of_not_contains⟩

/-- A history in which one field is declared, one is only hidden, and one only loses a class
that it never had. -/
def patchyHistory : List Transition :=
  [.setVisible "plan" false, .removeClass "ghost" "pale", .declare ["name"],
    .addWarning "name" "too long"]

theorem patchyHistory_entries :
    let state := ({} : FormState).applyAll patchyHistory
    state.fields = ["name", "plan"] ∧ state.IsComplete "name" ∧
      state.contains "plan" = true ∧ state.required.contains "plan" = false ∧
      state.contains "ghost" = false ∧ state.fieldConfig "ghost" = {} := by
  intro state
  obtain ⟨-, -, -, -, hname, -⟩ := entries_of_history patchyHistory "name"
  obtain ⟨-, -, -, -, -, hghost⟩ := entries_of_history patchyHistory "ghost"
  have hdeclared : .declare ["name"] ∈ patchyHistory := by simp [patchyHistory]
  exact ⟨fields_eq state, hname ["name"] hdeclared (by simp), rfl, rfl, rfl, hghost rfl⟩

end FormState

end FormRules
