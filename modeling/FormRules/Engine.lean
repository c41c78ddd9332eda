import FormRules.Binding
import FormRules.Evaluation

/-!
Engines: a live form together with rules over it. Every change leads to one cycle,
which declares the schema's fields, evaluates the rules against the form's values
as they are at its beginning, and carries the effects out in order. Effects that
change values do not start another cycle.
-/

namespace FormRules

/-- A call of the host's handler of custom actions, with the context of its cycle. -/
structure CustomCall where
  action : Action
  context : Context

/-- What an engine is built from. -/
structure Engine.Setup (Form : Type) (S : Type := Schema) where
  form : Form
  schema : S
  rules : List Rule := []
  functions : Functions := .builtin
  /-- What every cycle evaluates against, apart from the form's values. -/
  context : Context := {}
  order : RuleOrder := .declaration
  /-- Whether the host handles custom actions. -/
  handlesCustom : Bool := false

structure Engine (Form : Type) (S : Type := Schema) extends Engine.Setup Form S where
  state : FormState := {}
  /-- The report of the latest cycle. -/
  last : Evaluation := {}
  /-- The calls of the host's handler so far. -/
  calls : List CustomCall := []

/-- Why an engine refuses a request. -/
inductive EngineError where
  | unknownField (field : String)
  | rejected (field : String) (messages : List String)
  deriving DecidableEq

def EngineError.message : EngineError → String
  | unknownField field => "field '" ++ field ++ "' is not declared in the form schema"
  | rejected field messages => Schema.rejection field messages

namespace Engine

variable {Form S : Type} [Binding Form] [FieldSchema S]

/-- Carries one effect out. A field that holds the value already is not written to. -/
def carryOut (ctx : Context) (engine : Engine Form S) : Effect → Engine Form S
  | .display transition => { engine with state := engine.state.apply transition }
  | .setValue field value =>
    if (Binding.value? engine.form field).any (·.equals value) then engine
    else { engine with form := Binding.setValue engine.form field (some value) }
  | .clearValue field =>
    let emptied := Binding.setValue engine.form field none
    { engine with form := Binding.clearErrors emptied field }
  | .custom action =>
    if engine.handlesCustom then { engine with calls := engine.calls ++ [⟨action, ctx⟩] }
    else engine

/-- The context of a cycle: the engine's own with the form's values. -/
def cycleContext (engine : Engine Form S) : Context :=
  { engine.context with formData := Binding.values engine.form }

/-- The evaluation of the engine's rules against the form as it is. -/
def evaluation (engine : Engine Form S) : Evaluation :=
  .ofRules engine.cycleContext engine.functions engine.schema engine.order engine.rules

/-- Runs one cycle. -/
def cycle (engine : Engine Form S) : Engine Form S :=
  let ctx := engine.cycleContext
  let evaluation := engine.evaluation
  let declared : Engine Form S :=
    { engine with state := engine.state.apply (.declare (FieldSchema.names engine.schema)) }
  { evaluation.effects.foldl (carryOut ctx) declared with last := evaluation }

/-- Builds an engine and runs its first cycle. -/
def Setup.start (setup : Setup Form S) : Engine Form S :=
  cycle { setup with }

def fieldConfig (engine : Engine Form S) (field : String) : FieldConfig :=
  engine.state.fieldConfig field

/-- The display of every field with state. -/
def fieldConfigs (engine : Engine Form S) : Dict FieldConfig :=
  engine.state.snapshot

/-- Checks the present value of a field. A field without a value is checked for null. -/
def currentCheck (engine : Engine Form S) (field : String) : Except (List String) Unit :=
  FieldSchema.check engine.schema field ((Binding.value? engine.form field).getD .null)

/-- Checks one field and publishes what is wrong with it. The flag says whether nothing has
been wrong so far. -/
def publish (sofar : Engine Form S × Bool) (field : String) : Engine Form S × Bool :=
  let (engine, valid) := sofar
  match engine.currentCheck field with
  | .ok () => ({ engine with form := Binding.clearErrors engine.form field }, valid)
  | .error messages => ({ engine with form := Binding.setErrors engine.form field messages }, false)

/-- Publishes what is wrong with the named fields, or with all declared ones, and says
whether nothing is. -/
def validate (engine : Engine Form S) (names : Option (List String)) : Engine Form S × Bool :=
  (names.getD (FieldSchema.names engine.schema)).foldl publish (engine, true)

/-- What a host may ask of an engine, and the writes it makes to the form itself. -/
inductive Request (S : Type := Schema) where
  /-- The form has changed. -/
  | notify
  | evaluate
  | setRules (rules : List Rule)
  | setSchema (schema : S)
  | setContext (context : Context)
  | validate (names : Option (List String))
  | clearField (field : String)
  | show (field : String)
  | hide (field : String)
  | enable (field : String)
  | disable (field : String)
  | require (field : String) (required : Bool)
  /-- Writes a value that the schema permits. -/
  | setChecked (field : String) (value : Value)
  /-- Writes any value. -/
  | setUnchecked (field : String) (value : Value)
  /-- The host writes to the form without the engine. -/
  | hostValue (field : String) (value : Option Value)
  /-- The host displays validation errors without the engine. -/
  | hostErrors (field : String) (errors : List String)

/-- The answer to a request. -/
inductive Answer where
  | done
  | valid (truth : Bool)
  | refused (error : EngineError)
  deriving DecidableEq

/-- Does something to a declared field, and refuses any other. -/
def onDeclared (engine : Engine Form S) (field : String) (change : Engine Form S → Engine Form S) :
    Engine Form S × Answer :=
  if FieldSchema.declares engine.schema field then (change engine, .done)
  else (engine, .refused (.unknownField field))

/-- Changes the display of a declared field. -/
def display (engine : Engine Form S) (field : String) (transition : Transition) :
    Engine Form S × Answer :=
  engine.onDeclared field fun engine => { engine with state := engine.state.apply transition }

/-- Serves a request. Notifications and replacements run a cycle, nothing else does. -/
def serve (engine : Engine Form S) : Request S → Engine Form S × Answer
  | .notify => (engine.cycle, .done)
  | .evaluate => (engine.cycle, .done)
  | .setRules rules => (cycle { engine with rules }, .done)
  | .setSchema schema => (cycle { engine with schema }, .done)
  | .setContext context => (cycle { engine with context }, .done)
  | .validate names =>
    let (engine, truth) := engine.validate names
    (engine, .valid truth)
  | .clearField field =>
    engine.onDeclared field fun engine =>
      { engine with form := Binding.clearErrors (Binding.setValue engine.form field none) field }
  | .show field => engine.display field (.setVisible field true)
  | .hide field => engine.display field (.setVisible field false)
  | .enable field => engine.display field (.setDisabled field false)
  | .disable field => engine.display field (.setDisabled field true)
  | .require field required => engine.display field (.setRequired field required)
  | .setChecked field value =>
    if FieldSchema.declares engine.schema field then
      match FieldSchema.check engine.schema field value with
      | .ok () => ({ engine with form := Binding.setValue engine.form field (some value) }, .done)
      | .error messages => (engine, .refused (.rejected field messages))
    else (engine, .refused (.unknownField field))
  | .setUnchecked field value =>
    ({ engine with form := Binding.setValue engine.form field (some value) }, .done)
  | .hostValue field value =>
    ({ engine with form := Binding.setValue engine.form field value }, .done)
  | .hostErrors field errors =>
    ({ engine with form := Binding.setErrors engine.form field errors }, .done)

/-- Serves requests in order and drops the answers. -/
def run (engine : Engine Form S) (requests : List (Request S)) : Engine Form S :=
  requests.foldl (fun engine request => (engine.serve request).1) engine

end Engine

end FormRules
