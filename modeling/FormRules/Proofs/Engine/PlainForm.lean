import FormRules.Proofs.Engine.InStep

/-!
What an engine needs of a form. A form that keeps its values in a dictionary and leaves out all
that a form may leave out, namely a way of its own to read one value and a display of validation
errors, serves an engine as well as a form that has both: the display, the values, the reports
and the answers are the same through any requests (`plain_form_in_step`).
-/

namespace FormRules

/-- A form that keeps its values in a dictionary. One value is read from all of them, and
validation errors are not displayed; what else it does when errors are taken back is left
open. -/
class Binding.IsPlain (Form : Type) [Binding Form] : Prop where
  value?_eq (form : Form) (field : String) :
    Binding.value? form field = (Binding.values form).get? field
  values_setValue (form : Form) (field : String) (value : Option Value) :
    Binding.values (Binding.setValue form field value) = (Binding.values form).put field value
  values_clearErrors (form : Form) (field : String) :
    Binding.values (Binding.clearErrors form field) = Binding.values form
  setErrors_eq (form : Form) (field : String) (errors : List String) :
    Binding.setErrors form field errors = form

instance : Binding.IsPlain PlainForm where
  value?_eq _ _ := rfl
  values_setValue _ _ _ := rfl
  values_clearErrors _ _ := rfl
  setErrors_eq _ _ _ := rfl

/-- A form with a display of errors and one without correspond by their values. -/
theorem MemoryForm.corresponds (Form : Type) [Binding Form] [Binding.IsPlain Form] :
    Binding.Corresponds fun (kept : MemoryForm) (plain : Form) =>
      kept.values = Binding.values plain where
  values h := h
  value? {kept plain} h field := by
    have hread : kept.values.get? field = (Binding.values plain).get? field := by rw [h]
    rw [Binding.IsPlain.value?_eq plain]
    exact hread
  setValue {kept plain} h field value := by
    rw [Binding.IsPlain.values_setValue, ← h]
    rfl
  clearErrors {kept plain} h field := by
    rw [Binding.IsPlain.values_clearErrors, ← h]
    rfl
  setErrors {kept plain} h field errors := by
    rw [Binding.IsPlain.setErrors_eq plain]
    exact h

namespace Engine

/-- Engines that are set up alike, over a form that displays errors and over a plain one with
the same values, have the same display, values and report after any requests, and give the
same answer to the next one. -/
theorem plain_form_in_step {Form S : Type} [Binding Form] [Binding.IsPlain Form] [FieldSchema S]
    (setup : Setup MemoryForm S) {form : Form}
    (hvalues : setup.form.values = Binding.values form) (handlesCustom : Bool)
    (requests : List (Request S)) :
    let kept := setup.start.run requests
    let plain := (Setup.start { setup with form, handlesCustom }).run requests
    kept.fieldConfigs = plain.fieldConfigs ∧ kept.form.values = Binding.values plain.form ∧
      kept.last = plain.last ∧
      ∀ request, (kept.serve request).2 = (plain.serve request).2 := by
  intro kept plain
  have hcorresponds := MemoryForm.corresponds Form
  have hbuilt : InStep (fun (kept : MemoryForm) (plain : Form) =>
      kept.values = Binding.values plain) { setup with } { setup with form, handlesCustom } :=
    ⟨hvalues, rfl, rfl, rfl, rfl, rfl, rfl, rfl⟩
  have hrun := (hbuilt.cycle hcorresponds).run hcorresponds requests
  have hdisplay : kept.fieldConfigs = plain.fieldConfigs := congrArg FormState.snapshot hrun.state
  exact ⟨hdisplay, hrun.form, hrun.last, fun request => (hrun.serve hcorresponds request).2⟩

/-- A form with a required field, and a rule that empties a field of which another engine may
display errors. -/
def application : Setup MemoryForm where
  form :=
    { values := Dict.ofList [("name", .string "Ada")]
      errors := Dict.ofList [("age", ["too old"])] }
  schema := ⟨[{ name := "name", kind := .text },
    { name := "age", kind := .integer, required := true }]⟩
  rules := [{
    id := some "reset"
    condition := .compare "name" .equals (.literal (.string "Eve")) none
    actions := [⟨.clearValue, some "age"⟩, ⟨.showWarning "enter your age", some "age"⟩] }]

/-- The host asks for validation, changes the name, and has the rules run. -/
def completion : List Request :=
  [.validate none, .hostValue "name" (some (.string "Eve")), .notify, .validate (some ["age"])]

/-- The same values, in a form that displays no errors. -/
def applicationNotes : PlainForm := { values := Dict.ofList [("name", .string "Ada")] }

/-- Only one of the forms displays that the age is missing; all else is the same. -/
theorem application_completed :
    let kept := application.start.run completion
    let plain := (Setup.start { application with form := applicationNotes }).run completion
    application.form.values = Binding.values applicationNotes ∧
      kept.form.errorsOf "age" = ["age is required"] ∧
      kept.fieldConfigs = plain.fieldConfigs ∧
      (kept.fieldConfig "age").warnings = ["enter your age"] ∧
      (plain.serve (.validate none)).2 = .valid false := by
  have hvalues : application.form.values = Binding.values applicationNotes := rfl
  have herrors : (application.start.run completion).form.errorsOf "age" = ["age is required"] := by
    decide
  have hwarnings :
      ((application.start.run completion).fieldConfig "age").warnings = ["enter your age"] := by
    decide
  have hinvalid : ((application.start.run completion).serve (.validate none)).2 = .valid false := by
    decide
  obtain ⟨hdisplay, -, -, hanswers⟩ := plain_form_in_step application hvalues false completion
  exact ⟨hvalues, herrors, hdisplay, hwarnings, (hanswers (.validate none)).symm.trans hinvalid⟩

end Engine

end FormRules
