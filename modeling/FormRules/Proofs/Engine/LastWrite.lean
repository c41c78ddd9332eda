import FormRules.Proofs.Engine.Field

/-!
What a cycle leaves in a field. A cycle may write to a field many times, and skips a write
when the field holds an equal value at that moment, which an earlier effect of the cycle may
have put there. All the same only the last write shows in the end
(`cycle_leaves_last_write`), and the errors of a field are gone exactly where it was emptied.
-/

namespace FormRules

/-- Whether an effect writes to a field, or empties it. -/
def Effect.writesTo (field : String) : Effect → Bool
  | .setValue other _ => other == field
  | .clearValue other => other == field
  | .display _ => false
  | .custom _ => false

/-- Whether an effect empties a field. -/
def Effect.empties (field : String) : Effect → Bool
  | .clearValue other => other == field
  | _ => false

namespace FieldView

variable {field : String}

/-- One step: an effect that does not write to a field leaves its value. -/
theorem value_after_of_not_writesTo {effect : Effect} (h : effect.writesTo field = false)
    (view : FieldView) : (view.after field effect).value = view.value := by
  cases effect with
  | display transition => rfl
  | setValue other value =>
    have hne : other ≠ field := by simpa [Effect.writesTo] using h
    simp [after, hne]
  | clearValue other =>
    have hne : other ≠ field := by simpa [Effect.writesTo] using h
    simp [after, hne]
  | custom action => rfl

/-- A run: effects that do not write to a field leave its value. -/
theorem value_foldl_after_of_not_writesTo {effects : List Effect}
    (h : ∀ effect ∈ effects, effect.writesTo field = false) (view : FieldView) :
    (effects.foldl (after field) view).value = view.value := by
  induction effects generalizing view with
  | nil => rfl
  | cons effect rest ih =>
    rw [List.forall_mem_cons] at h
    rw [List.foldl_cons, ih h.2, value_after_of_not_writesTo h.1]

/-- One step: only emptying a field takes its errors back. -/
theorem errors_after (view : FieldView) (effect : Effect) :
    (view.after field effect).errors = if effect.empties field then none else view.errors := by
  cases effect with
  | display transition => rfl
  | setValue other value => by_cases h : other = field <;> simp [after, Effect.empties, h]
  | clearValue other => by_cases h : other = field <;> simp [after, Effect.empties, h]
  | custom action => rfl

/-- A run: the errors of a field stay until it is emptied, and none come. -/
theorem errors_foldl_after (effects : List Effect) (view : FieldView) :
    (effects.foldl (after field) view).errors =
      if effects.any (Effect.empties field) then none else view.errors := by
  induction effects generalizing view with
  | nil => rfl
  | cons effect rest ih =>
    rw [List.foldl_cons, ih, errors_after, List.any_cons]
    cases effect.empties field <;> cases rest.any (Effect.empties field) <;> rfl

/-- Setting a field gives it the value, or leaves it an equal one. -/
theorem value_after_setValue (view : FieldView) (value : Value) :
    (view.after field (.setValue field value)).value = some value ∨
      ∃ held, (view.after field (.setValue field value)).value = some held ∧
        held.equals value = true ∧ view.value = some held := by
  cases hheld : view.value with
  | none => exact .inl (by simp [after, hheld])
  | some held =>
    cases hequals : held.equals value with
    | false => exact .inl (by simp [after, hheld, hequals])
    | true => exact .inr ⟨held, by simp [after, hheld, hequals], hequals, rfl⟩

/-- The last write of a run decides, and writes to what the effects before it have left. -/
theorem value_foldl_after_last {before after : List Effect} {last : Effect}
    (hafter : ∀ effect ∈ after, effect.writesTo field = false) (view : FieldView) :
    ((before ++ last :: after).foldl (FieldView.after field) view).value =
      ((before.foldl (FieldView.after field) view).after field last).value := by
  rw [List.foldl_append, List.foldl_cons, value_foldl_after_of_not_writesTo hafter]

end FieldView

namespace Engine

variable {S : Type} [FieldSchema S]

/-- What an engine has become in its cycle when it has carried these effects out. -/
def midCycle {Form : Type} [Binding Form] (engine : Engine Form S) (effects : List Effect) :
    Engine Form S :=
  effects.foldl (carryOut engine.cycleContext)
    { engine with state := engine.state.apply (.declare (FieldSchema.names engine.schema)) }

variable (engine : Engine MemoryForm S) (field : String)

theorem view_midCycle (effects : List Effect) :
    (engine.midCycle effects).view field =
      effects.foldl (FieldView.after field)
        ((engine.view field).after field
          (.display (.declare (FieldSchema.names engine.schema)))) := by
  rw [← view_display]
  exact view_foldl_carryOut engine.cycleContext _ field effects

/-- A field that no effect of the cycle writes to keeps its value. -/
theorem value_cycle_of_not_writesTo
    (h : ∀ effect ∈ engine.evaluation.effects, effect.writesTo field = false) :
    engine.cycle.form.values.get? field = engine.form.values.get? field := by
  have hmid := congrArg FieldView.value (view_midCycle engine field engine.evaluation.effects)
  rw [FieldView.value_foldl_after_of_not_writesTo h] at hmid
  exact hmid

/-- A field that is written to holds what the last write makes of what it held then. -/
theorem value_cycle_of_last {before after : List Effect} {last : Effect}
    (heffects : engine.evaluation.effects = before ++ last :: after)
    (hafter : ∀ effect ∈ after, effect.writesTo field = false) :
    engine.cycle.form.values.get? field =
      (((engine.midCycle before).view field).after field last).value := by
  have hmid := congrArg FieldView.value (view_midCycle engine field engine.evaluation.effects)
  rw [heffects, FieldView.value_foldl_after_last hafter, ← view_midCycle, ← heffects] at hmid
  exact hmid

theorem errorsOf_cycle :
    engine.cycle.form.errorsOf field =
      if engine.evaluation.effects.any (Effect.empties field) then []
      else engine.form.errorsOf field := by
  have hmid := congrArg FieldView.errors (view_midCycle engine field engine.evaluation.effects)
  rw [FieldView.errors_foldl_after] at hmid
  have herrors : engine.cycle.form.errors.get? field =
      if engine.evaluation.effects.any (Effect.empties field) then none
      else engine.form.errors.get? field := hmid
  rw [MemoryForm.errorsOf, herrors]
  split
  · rfl
  · rfl

/-- A field that no effect of a cycle writes to keeps its value; of one that is written to
only the last write shows. If that sets a value, the field holds it, or an equal value that
was there already when the write came; if it empties the field, there is none. The errors of
a field are gone if some effect empties it, and otherwise they are what they were. -/
theorem cycle_leaves_last_write (engine : Engine MemoryForm S) (field : String) :
    let effects := engine.cycle.last.effects
    let left := engine.cycle.form.values.get? field
    ((∀ effect ∈ effects, effect.writesTo field = false) →
        left = engine.form.values.get? field) ∧
      (∀ before value after, effects = before ++ .setValue field value :: after →
        (∀ effect ∈ after, effect.writesTo field = false) →
        left = some value ∨ ∃ held, left = some held ∧ held.equals value = true ∧
          (engine.midCycle before).form.values.get? field = some held) ∧
      (∀ before after, effects = before ++ .clearValue field :: after →
        (∀ effect ∈ after, effect.writesTo field = false) → left = none) ∧
      engine.cycle.form.errorsOf field =
        if effects.any (Effect.empties field) then [] else engine.form.errorsOf field := by
  intro effects left
  refine ⟨value_cycle_of_not_writesTo engine field, ?set, ?clear, errorsOf_cycle engine field⟩
  case set =>
    intro before value after heffects hafter
    have hleft : left = _ := value_cycle_of_last engine field heffects hafter
    rw [hleft]
    exact FieldView.value_after_setValue _ value
  case clear =>
    intro before after heffects hafter
    have hleft : left = _ := value_cycle_of_last engine field heffects hafter
    simpa [FieldView.after] using hleft

/-- A bill whose total is emptied, computed anew and written once more, as a double, while
its discount is taken away and its note stays. -/
def bill : Setup MemoryForm where
  form := {
    values := Dict.ofList [("total", .int 7), ("discount", .int 1), ("note", .string "urgent")]
    errors := Dict.ofList [("total", ["too high"]), ("note", ["unclear"])] }
  schema := ⟨[{ name := "total", kind := .number }, { name := "discount", kind := .number },
    { name := "note", kind := .text }]⟩
  rules := [
    { id := some "compute"
      condition := .compare "note" .isNotEmpty (.literal .null) none
      actions := [⟨.clearValue, some "total"⟩, .setValue "total" (.literal (.int 3))] },
    { id := some "round"
      condition := .compare "total" .greaterThan (.literal (.int 5)) none
      actions := [.setValue "total" (.literal (.float (.ofInt 3))),
        ⟨.clearValue, some "discount"⟩] }]

/-- The double is not written, for the field holds the equal integer that the same cycle has
put there. -/
theorem bill_holds_computed_total :
    let cycled := bill.start
    let computed : List Effect := [.clearValue "total", .setValue "total" (.int 3)]
    let double : Value := .float (.ofInt 3)
    cycled.last.effects =
        computed ++ .setValue "total" double :: [.clearValue "discount"] ∧
      (cycled.form.values.get? "total" = some double ∨
        ∃ held, cycled.form.values.get? "total" = some held ∧ held.equals double = true ∧
          (midCycle { bill with } computed).form.values.get? "total" = some held) ∧
      cycled.form.values.get? "total" = some (.int 3) ∧
      cycled.form.errorsOf "total" = [] ∧
      cycled.form.values.get? "discount" = none ∧
      cycled.form.values.get? "note" = some (.string "urgent") ∧
      cycled.form.errorsOf "note" = ["unclear"] := by
  intro cycled computed double
  have heffects : cycled.last.effects =
      computed ++ .setValue "total" double :: [.clearValue "discount"] := rfl
  obtain ⟨-, htotal, -, herrors⟩ := cycle_leaves_last_write { bill with } "total"
  obtain ⟨-, -, hdiscount, -⟩ := cycle_leaves_last_write { bill with } "discount"
  obtain ⟨hnote, -, -, hunclear⟩ := cycle_leaves_last_write { bill with } "note"
  have hlast : cycled.last.effects =
      (computed ++ [.setValue "total" double]) ++ .clearValue "discount" :: [] := rfl
  have hrest : ∀ effect ∈ [Effect.clearValue "discount"], effect.writesTo "total" = false := by
    simp [Effect.writesTo]
  have hother : ∀ effect ∈ cycled.last.effects, effect.writesTo "note" = false := by
    simp [heffects, computed, Effect.writesTo]
  exact ⟨heffects, htotal computed double _ heffects hrest, rfl, herrors,
    hdiscount _ [] hlast (by simp), hnote hother, hunclear⟩

end Engine

end FormRules
