import FormRules.FormState
import FormRules.Proofs.Dict

/-!
The display state seen from one field. A transition changes the display of the field
it is about and no other (`fieldConfig_apply`), so what a list of transitions does to a
field is a fold over its display (`fieldConfig_applyAll`). Defaults that a declaration
fills in are not seen in the display; they only give the field entries
(`contains_apply`).
-/

namespace FormRules

/-- A list of texts with one more text, unless the list has it. -/
def addNew (texts : List String) (text : String) : List String :=
  if texts.contains text then texts else texts ++ [text]

/-- The display of a field after a transition. -/
def FieldConfig.after (field : String) (config : FieldConfig) : Transition → FieldConfig
  | .declare _ => config
  | .setVisible other visible => if other = field then { config with visible } else config
  | .setDisabled other disabled => if other = field then { config with disabled } else config
  | .setRequired other required => if other = field then { config with required } else config
  | .addWarning other message =>
    if other = field then { config with warnings := addNew config.warnings message } else config
  | .addError other message =>
    if other = field then { config with errors := addNew config.errors message } else config
  | .addClass other cls =>
    if other = field then { config with classes := addNew config.classes cls } else config
  | .removeClass other cls =>
    if other = field then { config with classes := config.classes.filter (· ≠ cls) } else config
  | .setOptions other options => if other = field then { config with options } else config

/-- A transition leaves the fields alone that it is not about. -/
theorem FieldConfig.after_of_field?_ne {field : String} {transition : Transition}
    (h : transition.field? ≠ some field) (config : FieldConfig) :
    config.after field transition = config := by
  cases transition with
  | declare names => rfl
  | _ =>
    rename_i other _
    have hne : other ≠ field := fun heq => h (congrArg some heq)
    simp only [after, hne, if_false]

/-- Whether a field has entries after a transition, whatever it had before. -/
def Transition.touches (field : String) : Transition → Bool
  | .declare fields => fields.contains field
  | .removeClass _ _ => false
  | transition => transition.field? == some field

namespace FormState

theorem get?_addText (lists : Dict (List String)) (field text other : String) :
    (addText lists field text).get? other =
      if field = other then some (addNew ((lists.get? other).getD []) text)
      else lists.get? other := by
  unfold addText addNew
  rw [Dict.get?_insert]
  by_cases h : field = other
  · subst h
    simp
  · simp [h]

theorem get?_removeText (lists : Dict (List String)) (field text other : String) :
    (removeText lists field text).get? other =
      if field = other then (lists.get? other).map (·.filter (· ≠ text))
      else lists.get? other := by
  unfold removeText
  cases hget : lists.get? field with
  | none =>
    by_cases h : field = other
    · subst h
      simp [hget]
    · simp [h]
  | some old =>
    by_cases h : field = other
    · subst h
      simp [hget, Dict.get?_insert]
    · simp [h, Dict.get?_insert]

theorem fieldConfig_declare (state : FormState) (name field : String) :
    (state.declare name).fieldConfig field = state.fieldConfig field := by
  simp only [declare, fieldConfig, Dict.getD_get?_insertNew]

theorem fieldConfig_declareAll (state : FormState) (names : List String) (field : String) :
    (names.foldl declare state).fieldConfig field = state.fieldConfig field := by
  induction names generalizing state with
  | nil => rfl
  | cons name rest ih =>
    exact (ih (state.declare name)).trans (fieldConfig_declare state name field)

/-- One step: the display of a field after a transition comes from its display before. -/
theorem fieldConfig_apply (state : FormState) (transition : Transition) (field : String) :
    (state.apply transition).fieldConfig field =
      (state.fieldConfig field).after field transition := by
  cases transition with
  | declare names => exact fieldConfig_declareAll state names field
  | setVisible other visible =>
    by_cases h : other = field <;>
      simp [apply, fieldConfig, FieldConfig.after, Dict.get?_insert, h]
  | setDisabled other disabled =>
    by_cases h : other = field <;>
      simp [apply, fieldConfig, FieldConfig.after, Dict.get?_insert, h]
  | setRequired other required =>
    by_cases h : other = field <;>
      simp [apply, fieldConfig, FieldConfig.after, Dict.get?_insert, h]
  | addWarning other message =>
    by_cases h : other = field <;>
      simp [apply, fieldConfig, FieldConfig.after, get?_addText, h]
  | addError other message =>
    by_cases h : other = field <;>
      simp [apply, fieldConfig, FieldConfig.after, get?_addText, h]
  | addClass other cls =>
    by_cases h : other = field <;>
      simp [apply, fieldConfig, FieldConfig.after, get?_addText, h]
  | removeClass other cls =>
    by_cases h : other = field
    · cases hget : state.classes.get? field <;>
        simp [apply, fieldConfig, FieldConfig.after, get?_removeText, h, hget]
    · simp [apply, fieldConfig, FieldConfig.after, get?_removeText, h]
  | setOptions other options =>
    by_cases h : other = field <;>
      simp [apply, fieldConfig, FieldConfig.after, Dict.get?_insert, h]

/-- A run: the display of a field is the fold of the transitions over its display. -/
theorem fieldConfig_applyAll (state : FormState) (transitions : List Transition)
    (field : String) :
    (state.applyAll transitions).fieldConfig field =
      transitions.foldl (FieldConfig.after field) (state.fieldConfig field) := by
  induction transitions generalizing state with
  | nil => rfl
  | cons transition rest ih =>
    have hstep := fieldConfig_apply state transition field
    simp only [applyAll, List.foldl_cons] at ih ⊢
    rw [ih, hstep]

theorem contains_declare (state : FormState) (name field : String) :
    (state.declare name).contains field = (decide (name = field) || state.contains field) := by
  simp only [declare, contains, Dict.contains_insertNew]
  by_cases h : name = field <;> simp [h]

theorem contains_declareAll (state : FormState) (names : List String) (field : String) :
    (names.foldl declare state).contains field =
      (state.contains field || names.contains field) := by
  induction names generalizing state with
  | nil => simp
  | cons name rest ih =>
    rw [List.foldl_cons, ih, contains_declare, Bool.eq_iff_iff]
    simp only [Bool.or_eq_true, decide_eq_true_eq, List.contains_cons, beq_iff_eq]
    grind

/-- A list of texts that gets a text is present from then on. -/
theorem contains_addText (lists : Dict (List String)) (field text other : String) :
    (addText lists field text).contains other = (decide (field = other) || lists.contains other) :=
  Dict.contains_insert lists field other _

theorem contains_removeText (lists : Dict (List String)) (field text other : String) :
    (removeText lists field text).contains other = lists.contains other := by
  unfold Dict.contains
  rw [get?_removeText]
  by_cases h : field = other <;> simp [h]

/-- One step: a field has entries after a transition when it had some or the
transition gives it some. Taking a class away gives none. -/
theorem contains_apply (state : FormState) (transition : Transition) (field : String) :
    (state.apply transition).contains field =
      (state.contains field || transition.touches field) := by
  cases transition with
  | declare names => exact contains_declareAll state names field
  | removeClass other cls =>
    simp [apply, contains, contains_removeText, Transition.touches]
  | setVisible other _ | setDisabled other _ | setRequired other _ | addWarning other _
  | addError other _ | addClass other _ | setOptions other _ =>
    rw [Bool.eq_iff_iff]
    simp only [apply, contains, Dict.contains_insert, contains_addText, Transition.touches,
      Transition.field?, Bool.or_eq_true, decide_eq_true_eq, beq_iff_eq, Option.some.injEq]
    grind

/-- A run: a field has entries when it had some or some transition gave it some. -/
theorem contains_applyAll (state : FormState) (transitions : List Transition)
    (field : String) :
    (state.applyAll transitions).contains field =
      (state.contains field || transitions.any (·.touches field)) := by
  induction transitions generalizing state with
  | nil => simp [applyAll]
  | cons transition rest ih =>
    have hstep := contains_apply state transition field
    simp only [applyAll, List.foldl_cons] at ih ⊢
    rw [ih, hstep, List.any_cons, Bool.or_assoc]

theorem get?_eq_none_of_not_contains {α : Type} {dict : Dict α} {name : String}
    (h : dict.contains name = false) : dict.get? name = none := by
  simpa [Dict.contains] using h

/-- A field without entries shows the defaults. -/
theorem fieldConfig_of_not_contains {state : FormState} {field : String}
    (h : state.contains field = false) : state.fieldConfig field = {} := by
  simp only [contains, Bool.or_eq_false_iff] at h
  obtain ⟨⟨⟨⟨⟨⟨hvisible, hrequired⟩, hdisabled⟩, hwarnings⟩, herrors⟩, hclasses⟩, hoptions⟩ := h
  simp only [fieldConfig, get?_eq_none_of_not_contains hvisible,
    get?_eq_none_of_not_contains hrequired, get?_eq_none_of_not_contains hdisabled,
    get?_eq_none_of_not_contains hwarnings, get?_eq_none_of_not_contains herrors,
    get?_eq_none_of_not_contains hclasses, get?_eq_none_of_not_contains hoptions,
    Option.getD_none]

theorem pairwise_fields (state : FormState) : state.fields.Pairwise (· < ·) :=
  Names.pairwise_eraseReps_mergeSort state.names

theorem mem_fields_iff (state : FormState) (field : String) :
    field ∈ state.fields ↔ state.contains field = true := by
  rw [fields, Names.mem_eraseReps_mergeSort]
  simp only [names, contains, List.mem_append, Dict.mem_keys_iff, Bool.or_eq_true]

/-- The fields are the names that a dictionary of all entries has. -/
theorem fields_eq (state : FormState) :
    state.fields = (Dict.ofList (state.names.map fun field => (field, ()))).keys :=
  Names.eraseReps_mergeSort state.names

/-- The overview answers for the fields with entries, and with their display. -/
theorem get?_snapshot (state : FormState) (field : String) :
    state.snapshot.get? field =
      if state.contains field then some (state.fieldConfig field) else none := by
  unfold snapshot
  rw [Dict.get?_ofList_map]
  by_cases h : state.contains field = true
  · rw [if_pos h, if_pos ((mem_fields_iff state field).mpr h)]
  · rw [if_neg h, if_neg (fun hmem => h ((mem_fields_iff state field).mp hmem))]

theorem keys_snapshot (state : FormState) : state.snapshot.keys = state.fields :=
  Dict.keys_ofList_of_pairwise state.pairwise_fields state.fieldConfig

/-- Where the same fields have entries, the overviews are equal when every display is. -/
theorem snapshot_eq_iff {first second : FormState}
    (hcontains : ∀ field, first.contains field = second.contains field) :
    first.snapshot = second.snapshot ↔
      ∀ field, first.fieldConfig field = second.fieldConfig field := by
  constructor
  · intro hsnapshot field
    cases hfield : second.contains field with
    | false =>
      rw [fieldConfig_of_not_contains hfield,
        fieldConfig_of_not_contains ((hcontains field).trans hfield)]
    | true =>
      have hget : first.snapshot.get? field = second.snapshot.get? field := by rw [hsnapshot]
      simpa [get?_snapshot, hcontains field, hfield] using hget
  · intro hconfig
    apply Dict.ext_get?
    intro field
    rw [get?_snapshot, get?_snapshot, hcontains field, hconfig field]

end FormState

end FormRules
