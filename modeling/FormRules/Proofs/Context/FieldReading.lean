import FormRules.Condition.Evaluate
import FormRules.Proofs.Context.Lookup
import FormRules.Proofs.RuleText.Readback

/-!
Three ways to read a form field: by its name, as the left side of a comparison does; by a
reference in rule text, which is cut at its first dot; and by a path into the form data. The
reference always finds what the name finds. The path does so too, but for a key with a dot in it
(`field_readings_agree`): such a key goes before the field named by its first part, and a path
does not see it.
-/

namespace FormRules

namespace Path

theorem splitFirst?_eq_none {path : String} (h : '.' ∉ path.toList) : splitFirst? path = none := by
  refine Option.eq_none_iff_forall_ne_some.mpr fun ⟨head, rest⟩ hsplit => h ?_
  rw [(toList_of_splitFirst? hsplit).2]
  simp

/-- The parts of a path put together again. -/
theorem eq_of_splitFirst? {path head rest : String} (h : splitFirst? path = some (head, rest)) :
    path = head ++ "." ++ rest := by
  rw [← String.toList_inj, (toList_of_splitFirst? h).2]
  simp

end Path

namespace Context

variable (ctx : Context) {name : String}

/-- A name without a dot is no path. -/
theorem field?_of_no_dot (h : '.' ∉ name.toList) : ctx.field? name = ctx.formData.get? name := by
  rw [field?, Path.splitFirst?_eq_none h]
  cases ctx.formData.get? name <;> rfl

/-- Unless it is a key with a dot in it, the name of a field is a path into the form data. -/
theorem field?_eq_entryAt? (h : ¬('.' ∈ name.toList ∧ ctx.formData.contains name = true)) :
    ctx.field? name = entryAt? ctx.formData name := by
  by_cases hdot : '.' ∈ name.toList
  · have hget : ctx.formData.get? name = none := by simpa [Dict.contains, hdot] using h
    rw [field?, hget, entryAt?]
    cases Path.splitFirst? name with
    | none => exact hget.symm
    | some parts => rfl
  · rw [field?_of_no_dot ctx hdot, entryAt?, Path.splitFirst?_eq_none hdot]

/-- A path into the form data, by either name of the section, is a path into its entries. -/
theorem lookup?_formData (name : String) :
    ctx.lookup? ("formData." ++ name) = entryAt? ctx.formData name ∧
      ctx.lookup? ("form_data." ++ name) = entryAt? ctx.formData name := by
  rw [entryAt?_eq]
  exact ⟨lookup?_append ctx "formData" name, lookup?_append ctx "form_data" name⟩

end Context

namespace Expr

/-- What a reference to a field by its dotted name is read as. -/
def ofFieldName (name : String) : Expr :=
  match Path.splitFirst? name with
  | some (head, rest) => field head (some rest)
  | none => field name none

/-- Cutting a reference at its first dot does not change what it finds. -/
theorem resolve_ofFieldName (ctx : Context) (fns : Functions) (name : String) :
    (ofFieldName name).resolve ctx fns = .ok (ctx.field? name) := by
  unfold ofFieldName
  cases hsplit : Path.splitFirst? name with
  | none => rfl
  | some parts =>
    obtain ⟨head, rest⟩ := parts
    obtain ⟨hhead, -⟩ := Path.toList_of_splitFirst? hsplit
    rw [resolve, fieldValue?, ← Path.eq_of_splitFirst? hsplit, ctx.field?_of_no_dot hhead]
    cases hget : ctx.formData.get? name <;> simp only [Context.field?, hget, hsplit]

end Expr

namespace RuleText

open Reader

/-- A dollar sign and an identifier are read as a reference. -/
theorem expr_fieldName {name : String} (h : isIdentifier name = true) :
    ReadsBack expr ('$' :: name.toList) (.ofFieldName name) := by
  intro rest hrest
  have hstart : StartsToken ('$' :: (name.toList ++ rest)) := startsToken_cons.mpr (by decide)
  have hreference : fieldReference ('$' :: (name.toList ++ rest)) =
      .done (.ofFieldName name) rest := fieldReference_eq_done _ (ident_append h hrest) rfl
  rw [expr_eq, exprWith_eq_done, List.cons_append, hstart.dropBlanks]
  exact .inl hreference

end RuleText

namespace Context

open RuleText

/-- A reference in rule text resolves, whatever the functions, to what its name finds as a field,
and that is what a comparison of the field reads. So does a path into the form data, unless the
name has a dot in it and is a key of the form data. -/
theorem field_readings_agree (name : String) :
    (isIdentifier name = true →
        ∃ e, ReadsBack expr ('$' :: name.toList) e ∧
          ∀ ctx fns, e.resolve ctx fns = .ok (ctx.field? name)) ∧
      ∀ ctx : Context,
        (∀ fns op operand,
            (Comparison.mk name op operand none).fieldValue? ctx fns = ctx.field? name) ∧
          (¬('.' ∈ name.toList ∧ ctx.formData.contains name = true) →
            ctx.lookup? ("formData." ++ name) = ctx.field? name ∧
              ctx.lookup? ("form_data." ++ name) = ctx.field? name) := by
  refine ⟨fun hident => ?reference, fun ctx => ⟨fun fns op operand => ?left, fun hplain => ?path⟩⟩
  case reference =>
    exact ⟨.ofFieldName name, expr_fieldName hident, fun ctx fns =>
      Expr.resolve_ofFieldName ctx fns name⟩
  case left => simp [Comparison.fieldValue?]
  case path =>
    rw [ctx.field?_eq_entryAt? hplain]
    exact ctx.lookup?_formData name

/-- A form with an address and with a field whose name is a path into the address. -/
def delivery : Context where
  formData := Dict.ofList [
    ("address", .map [
      ("city", .string "Oslo"), ("lines", .array [.string "c/o Berg", .string "Storgata 1"])]),
    ("address.city", .string "Bergen")]

/-- All three find a line of the address. The field with a dot in its name is found by name and by
reference; the path leads into the address. -/
theorem delivery_line_found :
    isIdentifier "address.lines.1" = true ∧ isIdentifier "address.city" = true ∧
      ¬('.' ∈ "address.lines.1".toList ∧ delivery.formData.contains "address.lines.1" = true) ∧
      delivery.field? "address.lines.1" = some (.string "Storgata 1") ∧
      (∃ e, ReadsBack expr "$address.lines.1".toList e ∧
        e.resolve delivery .builtin = .ok (some (.string "Storgata 1"))) ∧
      delivery.lookup? "formData.address.lines.1" = some (.string "Storgata 1") ∧
      delivery.lookup? "form_data.address.lines.1" = some (.string "Storgata 1") ∧
      (∃ e, ReadsBack expr "$address.city".toList e ∧
        e.resolve delivery .builtin = .ok (some (.string "Bergen"))) ∧
      delivery.lookup? "formData.address.city" = some (.string "Oslo") := by
  have hline : isIdentifier "address.lines.1" = true := by decide
  have hcity : isIdentifier "address.city" = true := by decide
  have hplain : ¬('.' ∈ "address.lines.1".toList ∧
      delivery.formData.contains "address.lines.1" = true) := by decide
  have hvalue : delivery.field? "address.lines.1" = some (.string "Storgata 1") := rfl
  obtain ⟨hreference, hagree⟩ := field_readings_agree "address.lines.1"
  obtain ⟨camel, snake⟩ := (hagree delivery).2 hplain
  obtain ⟨e, hread, hresolve⟩ := hreference hline
  obtain ⟨f, hread', hresolve'⟩ := (field_readings_agree "address.city").1 hcity
  refine ⟨hline, hcity, hplain, hvalue, ⟨e, hread, ?_⟩, camel.trans hvalue, snake.trans hvalue,
    ⟨f, hread', hresolve' delivery .builtin⟩, rfl⟩
  rw [hresolve, hvalue]

end Context

end FormRules
