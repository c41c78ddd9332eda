import FormRules.Context

/-!
Live forms: where an engine reads field values, and what it writes to.
-/

namespace FormRules

/-- A form that an engine drives. -/
class Binding (Form : Type) where
  /-- The values of all fields that have one. -/
  values : Form → FormData
  value? : Form → String → Option Value := fun form field => (values form).get? field
  /-- Sets the value of a field, or empties the field. -/
  setValue : Form → String → Option Value → Form
  clearErrors : Form → String → Form
  /-- Displays validation errors of a field. A form without such a display ignores
  them. -/
  setErrors : Form → String → List String → Form := fun form _ _ => form

/-- A dictionary with a value set or removed. -/
def Dict.put {α : Type} (dict : Dict α) (name : String) (value : Option α) : Dict α :=
  match value with
  | some value => dict.insert name value
  | none => dict.erase name

theorem Dict.get?_put {α : Type} (dict : Dict α) (name other : String) (value : Option α) :
    (dict.put name value).get? other = if name = other then value else dict.get? other := by
  cases value with
  | none => exact get?_erase dict name other
  | some value => exact get?_insert dict name other value

/-- A form kept in dictionaries: field values and validation errors. -/
structure MemoryForm where
  values : FormData := {}
  errors : Dict (List String) := {}

namespace MemoryForm

instance : Inhabited MemoryForm := ⟨{}⟩

/-- The validation errors of a field. -/
def errorsOf (form : MemoryForm) (field : String) : List String :=
  (form.errors.get? field).getD []

instance : Binding MemoryForm where
  values := MemoryForm.values
  value? form field := form.values.get? field
  setValue form field value := { form with values := form.values.put field value }
  clearErrors form field := { form with errors := form.errors.erase field }
  setErrors form field errors :=
    { form with errors := form.errors.put field (if errors.isEmpty then none else some errors) }

end MemoryForm

/-- A form that keeps values only. It notes which fields it was told to clear the
errors of, in order. -/
structure PlainForm where
  values : FormData := {}
  cleared : List String := []

instance : Inhabited PlainForm := ⟨{}⟩

instance : Binding PlainForm where
  values := PlainForm.values
  setValue form field value := { form with values := form.values.put field value }
  clearErrors form field := { form with cleared := form.cleared ++ [field] }

end FormRules
