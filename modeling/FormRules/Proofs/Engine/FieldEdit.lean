import FormRules.Proofs.Engine.DeclaredFields
import FormRules.Proofs.Engine.Field

/-!
What a host may do to a single field: set one of its flags, empty it, or write a value after
asking the schema about it. Such an edit is carried out as a whole or refused, and a refused one
leaves the engine as it was (`serve_edit_cases`). What is carried out shows in this field only, and
there only in what the edit is about (`edits_atomic_and_local`). For the flags this takes a field
that is listed in the display already, as every declared field is once the engine has run.
-/

namespace FormRules

/-- The flags of a field's display. -/
inductive Flag where
  | visible
  | disabled
  | required

/-- The transition that sets a flag of a field. -/
def Flag.transition (field : String) (truth : Bool) : Flag → Transition
  | visible => .setVisible field truth
  | disabled => .setDisabled field truth
  | required => .setRequired field truth

/-- Something that a host does to a field. -/
inductive FieldEdit where
  | setFlag (flag : Flag) (truth : Bool)
  | clear
  | write (value : Value)

/-- The request for an edit of a field. -/
def FieldEdit.request (field : String) : FieldEdit → Engine.Request
  | setFlag .visible true => .show field
  | setFlag .visible false => .hide field
  | setFlag .disabled true => .disable field
  | setFlag .disabled false => .enable field
  | setFlag .required truth => .require field truth
  | clear => .clearField field
  | write value => .setChecked field value

/-- A schema allows edits of the fields that it declares, and to write the values that it permits
there. -/
def FieldEdit.Allowed (schema : Schema) (field : String) : FieldEdit → Prop
  | write value => schema.declares field = true ∧ schema.permits field value = true
  | _ => schema.declares field = true

/-- The view of a field after an edit of it. -/
def FieldView.edited (view : FieldView) : FieldEdit → FieldView
  | .setFlag .visible truth => { view with config := { view.config with visible := truth } }
  | .setFlag .disabled truth => { view with config := { view.config with disabled := truth } }
  | .setFlag .required truth => { view with config := { view.config with required := truth } }
  | .clear => { view with value := none, errors := none }
  | .write value => { view with value := some value }

/-- Setting a flag of a field is about this field alone. -/
theorem Flag.isAbout_display {field other : String} (h : other ≠ field) (flag : Flag)
    (truth : Bool) : (Effect.display (flag.transition field truth)).isAbout other = false := by
  cases flag <;> exact beq_false_of_ne fun heq => h (Option.some.inj heq).symm

/-- In the display of a field that is listed, the flag is all that changes. -/
theorem FieldView.after_flag {view : FieldView} (h : view.listed = true) (field : String)
    (flag : Flag) (truth : Bool) :
    view.after field (.display (flag.transition field truth)) =
      view.edited (.setFlag flag truth) := by
  cases flag <;> simp [after, edited, Flag.transition, FieldConfig.after, h]

namespace Engine

variable {engine : Engine MemoryForm} {field : String} {edit : FieldEdit}

theorem serve_setFlag (engine : Engine MemoryForm) (field : String) (flag : Flag) (truth : Bool) :
    engine.serve ((FieldEdit.setFlag flag truth).request field) =
      engine.display field (flag.transition field truth) := by
  cases flag <;> cases truth <;> rfl

/-- Between two engines, an edit of a field shows in this field and in no other. -/
structure Edited (engine after : Engine MemoryForm) (field : String) (edit : FieldEdit) :
    Prop where
  self : after.view field = (engine.view field).edited edit
  others : ∀ other, other ≠ field → after.view other = engine.view other
  /-- Nothing but the display and the form changes. -/
  rest : { after with form := engine.form, state := engine.state } = engine

theorem edited_setFlag (h : engine.state.contains field = true) (flag : Flag) (truth : Bool) :
    Edited engine { engine with state := engine.state.apply (flag.transition field truth) } field
      (.setFlag flag truth) where
  self := (view_display engine field _).trans (FieldView.after_flag h field flag truth)
  others other hother :=
    (view_display engine other _).trans
      (FieldView.after_of_not_isAbout (flag.isAbout_display hother truth) _)
  rest := rfl

theorem edited_clear (engine : Engine MemoryForm) (field : String) :
    Edited engine
      { engine with form := Binding.clearErrors (Binding.setValue engine.form field none) field }
      field .clear where
  self := (view_carryOut {} engine field (.clearValue field)).trans (if_pos rfl)
  others other hother :=
    (view_carryOut {} engine other (.clearValue field)).trans (if_neg (Ne.symm hother))
  rest := rfl

theorem edited_write (engine : Engine MemoryForm) (field : String) (value : Value) :
    Edited engine { engine with form := Binding.setValue engine.form field (some value) } field
      (.write value) where
  self := by
    simp [view, fieldConfig, FieldView.edited, Binding.setValue, Dict.get?_put]
  others other hother := by
    simp [view, fieldConfig, Binding.setValue, Dict.get?_put, Ne.symm hother]
  rest := rfl

/-- An edit is carried out if the schema allows it, and refused otherwise. -/
theorem serve_edit_cases (hlisted : engine.ListsDeclared) (field : String) (edit : FieldEdit) :
    (edit.Allowed engine.schema field ∧
        ∃ after, engine.serve (edit.request field) = (after, .done) ∧
          Edited engine after field edit) ∨
      ¬edit.Allowed engine.schema field ∧
        ∃ error, engine.serve (edit.request field) = (engine, .refused error) := by
  cases edit with
  | setFlag flag truth =>
    have hcases := engine.onDeclared_cases field fun engine =>
      { engine with state := engine.state.apply (flag.transition field truth) }
    rw [serve_setFlag, display]
    exact hcases.imp
      (fun h => ⟨h.1, _, h.2, edited_setFlag (hlisted field h.1) flag truth⟩) id
  | clear =>
    have hcases := engine.onDeclared_cases field fun engine =>
      { engine with form := Binding.clearErrors (Binding.setValue engine.form field none) field }
    exact hcases.imp (fun h => ⟨h.1, _, h.2, edited_clear engine field⟩) id
  | write value =>
    have hallowed : (FieldEdit.write value).Allowed engine.schema field ↔
        FieldSchema.declares engine.schema field = true ∧
          FieldSchema.check engine.schema field value = .ok () :=
      and_congr_right fun _ => Schema.check_eq_ok_iff.symm
    rw [hallowed]
    exact (engine.serve_setChecked_cases field value).imp
      (fun h => ⟨h.1, _, h.2, edited_write engine field value⟩) id

/-- After any requests, an edit of a field is done exactly when the schema allows it, and refused
otherwise, which leaves the engine as it was. An edit that is done changes in the view of its field
what it is about, and nothing of other fields, nor of the engine but its display and its form. -/
theorem edits_atomic_and_local (setup : Setup MemoryForm) (requests : List Request)
    (field : String) (edit : FieldEdit) :
    let engine := setup.start.run requests
    let served := engine.serve (edit.request field)
    (served.2 = .done ↔ edit.Allowed engine.schema field) ∧
      (served.2 ≠ .done → (∃ error, served.2 = .refused error) ∧ served.1 = engine) ∧
      (served.2 = .done → Edited engine served.1 field edit) := by
  intro engine served
  have hlisted : engine.ListsDeclared := (listsDeclared_cycle { setup with }).run requests
  have hserved : served = engine.serve (edit.request field) := rfl
  clear_value served
  rcases serve_edit_cases hlisted field edit with
    ⟨hallowed, after, hserve, hedited⟩ | ⟨hforbidden, error, hserve⟩
  · rw [hserved, hserve]
    exact ⟨iff_of_true rfl hallowed, fun h => absurd rfl h, fun _ => hedited⟩
  · rw [hserved, hserve]
    exact ⟨iff_of_false nofun hforbidden, fun _ => ⟨⟨error, rfl⟩, rfl⟩, nofun⟩

/-- A reservation with values and errors in both of its fields. -/
def reservation : Setup MemoryForm where
  form := {
    values := Dict.ofList [("guests", .int 2), ("note", .string "late")]
    errors := Dict.ofList [("guests", ["fully booked"]), ("note", ["unclear"])] }
  schema := ⟨[{ name := "guests", kind := .integer }, { name := "note", kind := .text }]⟩

/-- Afterwards the note is no longer declared, but still displayed. -/
def withoutNote : List Request := [.setSchema ⟨[{ name := "guests", kind := .integer }]⟩]

/-- The guests can be required and emptied, which the note does not notice. They cannot be a text,
and the note cannot be hidden. -/
theorem reservation_edited :
    let engine := reservation.start.run withoutNote
    let required := engine.serve ((FieldEdit.setFlag .required true).request "guests")
    let emptied := engine.serve (FieldEdit.clear.request "guests")
    let overwritten := engine.serve ((FieldEdit.write (.string "two")).request "guests")
    let hidden := engine.serve ((FieldEdit.setFlag .visible false).request "note")
    required.2 = .done ∧ Edited engine required.1 "guests" (.setFlag .required true) ∧
      emptied.2 = .done ∧ Edited engine emptied.1 "guests" .clear ∧
      engine.form.errorsOf "guests" = ["fully booked"] ∧ emptied.1.form.errorsOf "guests" = [] ∧
      overwritten.2 ≠ .done ∧ overwritten.1 = engine ∧
      engine.fieldConfigs.contains "note" = true ∧ hidden.2 ≠ .done ∧ hidden.1 = engine := by
  intro engine required emptied overwritten hidden
  have hrequired : required.2 = .done := by decide
  have hemptied : emptied.2 = .done := by decide
  have hoverwritten : overwritten.2 ≠ .done := by decide
  have hlisted : engine.fieldConfigs.contains "note" = true := by
    rw [fieldConfigs, FormState.contains_snapshot]
    decide
  have hhidden : hidden.2 ≠ .done := by decide
  obtain ⟨-, -, hflag⟩ :=
    edits_atomic_and_local reservation withoutNote "guests" (.setFlag .required true)
  obtain ⟨-, -, hclear⟩ := edits_atomic_and_local reservation withoutNote "guests" .clear
  obtain ⟨-, hwrite, -⟩ :=
    edits_atomic_and_local reservation withoutNote "guests" (.write (.string "two"))
  obtain ⟨-, hhide, -⟩ :=
    edits_atomic_and_local reservation withoutNote "note" (.setFlag .visible false)
  exact ⟨hrequired, hflag hrequired, hemptied, hclear hemptied, by decide, by decide,
    hoverwritten, (hwrite hoverwritten).2, hlisted, hhidden, (hhide hhidden).2⟩

end Engine

end FormRules
