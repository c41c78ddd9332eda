import FormRules.Dict
import FormRules.FieldConfig

/-!
The display state of a form and its transitions. State is sticky: no transition
takes a field back to the defaults, so what a rule once did to a field holds until
another transition undoes it. Messages and classes are sets in order of arrival,
so repeating a transition adds nothing.
-/

namespace FormRules

/-- The display state of a form's fields, dimension by dimension. A field that was
declared has an entry in each; other fields have entries where something changed
them, and the defaults elsewhere. -/
structure FormState where
  visible : Dict Bool := {}
  required : Dict Bool := {}
  disabled : Dict Bool := {}
  warnings : Dict (List String) := {}
  errors : Dict (List String) := {}
  classes : Dict (List String) := {}
  options : Dict (List Value) := {}

/-- A change of the display state. -/
inductive Transition where
  /-- Gives the defaults to fields that have no entries; others stay as they are. -/
  | declare (fields : List String)
  | setVisible (field : String) (visible : Bool)
  | setDisabled (field : String) (disabled : Bool)
  | setRequired (field : String) (required : Bool)
  | addWarning (field : String) (message : String)
  | addError (field : String) (message : String)
  | addClass (field : String) (cls : String)
  | removeClass (field : String) (cls : String)
  | setOptions (field : String) (options : List Value)

/-- The single field that a transition is about. -/
def Transition.field? : Transition → Option String
  | declare _ => none
  | setVisible field _ => some field
  | setDisabled field _ => some field
  | setRequired field _ => some field
  | addWarning field _ => some field
  | addError field _ => some field
  | addClass field _ => some field
  | removeClass field _ => some field
  | setOptions field _ => some field

namespace FormState

instance : Inhabited FormState := ⟨{}⟩

/-- Adds a text at the end of a field's list, unless the list has it. -/
def addText (lists : Dict (List String)) (field text : String) : Dict (List String) :=
  let old := (lists.get? field).getD []
  lists.insert field (if old.contains text then old else old ++ [text])

/-- Removes a text from a field's list. A field without a list gets none. -/
def removeText (lists : Dict (List String)) (field text : String) : Dict (List String) :=
  match lists.get? field with
  | some old => lists.insert field (old.filter (· ≠ text))
  | none => lists

/-- Gives a field the defaults where it has no entry. -/
def declare (state : FormState) (field : String) : FormState :=
  let initial : FieldConfig := {}
  { visible := state.visible.insertNew field initial.visible
    required := state.required.insertNew field initial.required
    disabled := state.disabled.insertNew field initial.disabled
    warnings := state.warnings.insertNew field initial.warnings
    errors := state.errors.insertNew field initial.errors
    classes := state.classes.insertNew field initial.classes
    options := state.options.insertNew field initial.options }

def apply (state : FormState) : Transition → FormState
  | .declare fields => fields.foldl declare state
  | .setVisible field visible => { state with visible := state.visible.insert field visible }
  | .setDisabled field disabled => { state with disabled := state.disabled.insert field disabled }
  | .setRequired field required => { state with required := state.required.insert field required }
  | .addWarning field message => { state with warnings := addText state.warnings field message }
  | .addError field message => { state with errors := addText state.errors field message }
  | .addClass field cls => { state with classes := addText state.classes field cls }
  | .removeClass field cls => { state with classes := removeText state.classes field cls }
  | .setOptions field options => { state with options := state.options.insert field options }

/-- Applies transitions one after the other. -/
def applyAll (state : FormState) (transitions : List Transition) : FormState :=
  transitions.foldl apply state

/-- The display of a field, with the defaults where the field has no entry. -/
def fieldConfig (state : FormState) (field : String) : FieldConfig :=
  let initial : FieldConfig := {}
  { visible := (state.visible.get? field).getD initial.visible
    required := (state.required.get? field).getD initial.required
    disabled := (state.disabled.get? field).getD initial.disabled
    warnings := (state.warnings.get? field).getD initial.warnings
    errors := (state.errors.get? field).getD initial.errors
    classes := (state.classes.get? field).getD initial.classes
    options := (state.options.get? field).getD initial.options }

/-- Whether a field has any entry. -/
def contains (state : FormState) (field : String) : Bool :=
  state.visible.contains field || state.required.contains field ||
    state.disabled.contains field || state.warnings.contains field ||
    state.errors.contains field || state.classes.contains field ||
    state.options.contains field

/-- The names of all entries, dimension by dimension. -/
def names (state : FormState) : List String :=
  state.visible.keys ++ state.required.keys ++ state.disabled.keys ++ state.warnings.keys ++
    state.errors.keys ++ state.classes.keys ++ state.options.keys

/-- The fields that have any entry: the names of the entries in their order, without those that
are repeated. -/
def fields (state : FormState) : List String :=
  (state.names.mergeSort fun a b => a ≤ b).eraseReps

/-- The display of every field that has any entry. -/
def snapshot (state : FormState) : Dict FieldConfig :=
  Dict.ofList (state.fields.map fun field => (field, state.fieldConfig field))

end FormState

end FormRules
