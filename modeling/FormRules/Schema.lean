import FormRules.Operator.Meaning

/-!
Schemas: which fields a form declares, of what kind they are, and what values they may
hold. Evaluations and engines work with schemas of any type (`FieldSchema`). The one type
of schemas that is given here is `Schema`, a list of declarations, where a value is valid
when its field raises no message about it.
-/

namespace FormRules

/-- What values a field takes. -/
inductive FieldKind where
  | text
  | number
  | integer
  | boolean
  /-- A text in a date form, or milliseconds since 1970. -/
  | date
  | choice (options : List Value)
  | list
  | object
  | any

namespace FieldKind

/-- Whether a filled-in value is of a kind. -/
def accepts (kind : FieldKind) (value : Value) : Bool :=
  match kind with
  | text => value.toString?.isSome
  | number => value.toBinary64?.isSome
  | integer => value.isInteger
  | boolean => value.toBool?.isSome
  | date => value.toMoment?.isSome
  | choice options => value.isIn options
  | list => value.toItems?.isSome
  | object => value.toEntries?.isSome
  | any => true

def description : FieldKind → String
  | text => "text"
  | number => "number"
  | integer => "integer"
  | boolean => "boolean"
  | date => "date"
  | choice options => "one of " ++ (Value.array options).text
  | list => "list"
  | object => "object"
  | any => "any"

end FieldKind

/-- What evaluations and engines ask of a schema. A host may bring schemas of its own, with
whatever checks they make; declared are the fields that a schema has the names of. -/
class FieldSchema (S : Type) where
  /-- The names of the declared fields, in the order of their declaration. -/
  names : S → List String
  /-- The kind of a declared field. -/
  kind? : S → String → Option FieldKind
  declares : S → String → Bool := fun schema field => (kind? schema field).isSome
  /-- Checks a value for a field. A refusal says what is wrong with the value. -/
  check : S → String → Value → Except (List String) Unit
  mem_names_iff (schema : S) (field : String) :
    field ∈ names schema ↔ declares schema field = true

/-- The declaration of one field. -/
structure FieldSpec where
  name : String
  kind : FieldKind
  required : Bool := false

/-- Replaces the declaration of a name where it stands; a new name goes to the end. -/
def FieldSpec.declareIn (spec : FieldSpec) : List FieldSpec → List FieldSpec
  | [] => [spec]
  | other :: rest =>
    if other.name = spec.name then spec :: rest else other :: spec.declareIn rest

/-- Declared fields, in the order in which their names were first declared. -/
structure Schema where
  fields : List FieldSpec := []

namespace Schema

instance : Inhabited Schema := ⟨{}⟩

def declare (schema : Schema) (spec : FieldSpec) : Schema :=
  ⟨spec.declareIn schema.fields⟩

/-- Declares fields one after the other. -/
def ofSpecs (specs : List FieldSpec) : Schema :=
  specs.foldl declare {}

def names (schema : Schema) : List String :=
  schema.fields.map FieldSpec.name

/-- The declaration of a field. -/
def spec? (schema : Schema) (field : String) : Option FieldSpec :=
  schema.fields.find? fun spec => spec.name == field

def kind? (schema : Schema) (field : String) : Option FieldKind :=
  (schema.spec? field).map FieldSpec.kind

def declares (schema : Schema) (field : String) : Bool :=
  (schema.kind? field).isSome

/-- What is wrong with a value for a field. Blank values are only asked for in
required fields; any other value must be of the field's kind. -/
def messages (schema : Schema) (field : String) (value : Value) : List String :=
  match schema.spec? field with
  | none => ["field '" ++ field ++ "' is not declared"]
  | some spec =>
    if value.isBlank then
      if spec.required then [field ++ " is required"] else []
    else if spec.kind.accepts value then []
    else [field ++ " must be " ++ spec.kind.description ++ ", got " ++ value.typeName]

/-- Whether a field may hold a value. -/
def permits (schema : Schema) (field : String) (value : Value) : Bool :=
  (schema.messages field value).isEmpty

/-- Checks a value for a field. -/
def check (schema : Schema) (field : String) (value : Value) : Except (List String) Unit :=
  if schema.permits field value then .ok () else .error (schema.messages field value)

theorem check_eq_ok_iff {schema : Schema} {field : String} {value : Value} :
    schema.check field value = .ok () ↔ schema.permits field value = true := by
  unfold check
  split
  · exact iff_of_true rfl ‹_›
  · exact iff_of_false nofun ‹_›

theorem mem_names_iff (schema : Schema) (field : String) :
    field ∈ schema.names ↔ schema.declares field = true := by
  simp [names, declares, kind?, spec?, List.find?_isSome]

instance : FieldSchema Schema where
  names := names
  kind? := kind?
  declares := declares
  check := check
  mem_names_iff := mem_names_iff

end Schema

end FormRules
