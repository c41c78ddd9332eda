import FormRules.Value

/-!
How one field is displayed.
-/

namespace FormRules

/-- The display of a field. At first a field is visible, optional and enabled. -/
structure FieldConfig where
  visible : Bool := true
  required : Bool := false
  disabled : Bool := false
  warnings : List String := []
  errors : List String := []
  classes : List String := []
  /-- The values that the field offers. -/
  options : List Value := []

namespace FieldConfig

instance : Inhabited FieldConfig := ⟨{}⟩

/-- The part of a text that counts a list, if the list is not empty. -/
def countText {α : Type} (title : String) (items : List α) : String :=
  if items.isEmpty then "" else " " ++ title ++ "=" ++ Nat.repr items.length

def boolText (truth : Bool) : String := if truth then "true" else "false"

/-- The flags, the classes by name, and how much there is of the rest. -/
def text (config : FieldConfig) : String :=
  "visible=" ++ boolText config.visible ++ " required=" ++ boolText config.required ++
    " disabled=" ++ boolText config.disabled ++
    (if config.classes.isEmpty then ""
      else " classes=[" ++ String.intercalate " " config.classes ++ "]") ++
    countText "warnings" config.warnings ++ countText "errors" config.errors ++
    countText "options" config.options

end FieldConfig

end FormRules
