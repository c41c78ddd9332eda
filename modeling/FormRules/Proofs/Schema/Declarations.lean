import FormRules.Proofs.FormState.Summary
import FormRules.Schema

/-!
Schemas built field by field. A declaration takes the place of an earlier one of its name and goes
to the end otherwise, so the names of a schema are those declared, each once and in the order of
first arrival, and a field is what its last declaration says, whatever was declared before and
besides (`ofSpecs_declarations`).
-/

namespace FormRules

namespace FieldSpec

theorem map_name_declareIn (spec : FieldSpec) (fields : List FieldSpec) :
    (spec.declareIn fields).map name = addNew (fields.map name) spec.name := by
  induction fields with
  | nil => rfl
  | cons other rest ih =>
    rw [declareIn]
    split
    · rename_i hname
      simp [addNew, hname]
    · rename_i hname
      rw [List.map_cons, ih, List.map_cons]
      unfold addNew
      by_cases hmem : spec.name ∈ rest.map name <;> simp [hmem, Ne.symm hname]

theorem find?_declareIn (spec : FieldSpec) (fields : List FieldSpec) (field : String) :
    (spec.declareIn fields).find? (fun spec => spec.name == field) =
      if spec.name = field then some spec else fields.find? fun spec => spec.name == field := by
  induction fields with
  | nil => by_cases h : spec.name = field <;> simp [declareIn, h]
  | cons other rest ih =>
    rw [declareIn]
    split
    · rename_i hother
      by_cases h : spec.name = field
      · rw [if_pos h, List.find?_cons_of_pos (by simpa using h)]
      · have hskipped : other.name ≠ field := fun heq => h (hother.symm.trans heq)
        rw [if_neg h, List.find?_cons_of_neg (by simpa using h),
          List.find?_cons_of_neg (by simpa using hskipped)]
    · rename_i hother
      by_cases h : other.name = field
      · have hspec : spec.name ≠ field := fun heq => hother (h.trans heq.symm)
        rw [if_neg hspec, List.find?_cons_of_pos (by simpa using h),
          List.find?_cons_of_pos (by simpa using h)]
      · rw [List.find?_cons_of_neg (by simpa using h), ih,
          List.find?_cons_of_neg (by simpa using h)]

end FieldSpec

theorem nodup_addNew {texts : List String} (h : texts.Nodup) (text : String) :
    (addNew texts text).Nodup := by
  unfold addNew
  split
  · exact h
  · rename_i hnew
    rw [List.contains_iff_mem] at hnew
    rw [List.nodup_append]
    refine ⟨h, by simp, fun other hother new hmem heq => hnew ?_⟩
    rwa [← List.mem_singleton.mp hmem, ← heq]

namespace Schema

/-! ### One declaration -/

variable (schema : Schema) (spec : FieldSpec) (specs : List FieldSpec) (field : String)

theorem names_declare : (schema.declare spec).names = addNew schema.names spec.name :=
  spec.map_name_declareIn schema.fields

theorem spec?_declare : (schema.declare spec).spec? field =
    if spec.name = field then some spec else schema.spec? field :=
  spec.find?_declareIn schema.fields field

theorem declares_eq_isSome_spec? : schema.declares field = (schema.spec? field).isSome :=
  Option.isSome_map

/-- What is wrong with a value depends on the declaration of the field alone. -/
theorem messages_congr {schema other : Schema} {field : String}
    (h : schema.spec? field = other.spec? field) (value : Value) :
    schema.messages field value = other.messages field value := by
  unfold messages
  rw [h]

/-- Nothing is valid for a field that is not declared. -/
theorem permits_of_not_declares {schema : Schema} {field : String}
    (h : field ∉ schema.names) (value : Value) : schema.permits field value = false := by
  have hspec : schema.spec? field = none := by
    rw [← Option.not_isSome_iff_eq_none, ← declares_eq_isSome_spec?, ← mem_names_iff]
    exact h
  rw [permits, messages, hspec]
  rfl

/-! ### Declarations in sequence -/

/-- The last declaration of a field. -/
def lastDeclaration? (specs : List FieldSpec) (field : String) : Option FieldSpec :=
  (specs.filter fun spec => spec.name == field).getLast?

theorem ofSpecs_append_singleton : ofSpecs (specs ++ [spec]) = (ofSpecs specs).declare spec :=
  List.foldl_append

theorem lastDeclaration?_append_singleton : lastDeclaration? (specs ++ [spec]) field =
    if spec.name = field then some spec else lastDeclaration? specs field := by
  unfold lastDeclaration?
  rw [List.filter_append]
  by_cases h : spec.name = field <;> simp [h]

theorem names_ofSpecs : (ofSpecs specs).names = (specs.map FieldSpec.name).eraseDups := by
  have hstep (schema : Schema) (spec : FieldSpec) : (schema.declare spec).names =
      (some spec.name).toList.foldl addNew schema.names := names_declare schema spec
  rw [ofSpecs, foldl_collected names declare (fun spec => some spec.name) hstep,
    ← foldl_addNew_nil]
  simp [names]

theorem nodup_names_ofSpecs : (ofSpecs specs).names.Nodup := by
  induction specs using List.reverseRecOn with
  | nil => exact List.nodup_nil
  | append_singleton specs spec ih =>
    rw [ofSpecs_append_singleton, names_declare]
    exact nodup_addNew ih spec.name

theorem spec?_ofSpecs : (ofSpecs specs).spec? field = lastDeclaration? specs field := by
  induction specs using List.reverseRecOn with
  | nil => rfl
  | append_singleton specs spec ih =>
    rw [ofSpecs_append_singleton, spec?_declare, lastDeclaration?_append_singleton, ih]

theorem name_of_lastDeclaration? {specs : List FieldSpec} {field : String} {spec : FieldSpec}
    (h : lastDeclaration? specs field = some spec) : spec.name = field := by
  have hmem := List.mem_of_getLast? h
  exact eq_of_beq (List.mem_filter.mp hmem).2

/-- The last declaration of a field is enough for a schema to treat it alike. -/
theorem spec?_ofSpecs_last :
    (ofSpecs (lastDeclaration? specs field).toList).spec? field = (ofSpecs specs).spec? field := by
  rw [spec?_ofSpecs, spec?_ofSpecs]
  cases hlast : lastDeclaration? specs field with
  | none => rfl
  | some spec => simp [lastDeclaration?, name_of_lastDeclaration? hlast]

/-- However fields are declared, the names are the declared ones, each once and in the order of
first declaration, and a field is what it was declared to be last: its kind, whether it is
required, and what is wrong with a value. Nothing is valid for a field that was never declared. -/
theorem ofSpecs_declarations (specs : List FieldSpec) :
    (ofSpecs specs).names.Nodup ∧
    (ofSpecs specs).names = (specs.map FieldSpec.name).eraseDups ∧
    ∀ field,
      (field ∈ (ofSpecs specs).names ↔ ∃ spec ∈ specs, spec.name = field) ∧
      ((ofSpecs specs).declares field = true ↔ field ∈ (ofSpecs specs).names) ∧
      (ofSpecs specs).kind? field = (lastDeclaration? specs field).map FieldSpec.kind ∧
      ((ofSpecs specs).spec? field).map FieldSpec.required =
        (lastDeclaration? specs field).map FieldSpec.required ∧
      (∀ value, (ofSpecs specs).messages field value =
        (ofSpecs (lastDeclaration? specs field).toList).messages field value) ∧
      (field ∉ (ofSpecs specs).names → ∀ value, (ofSpecs specs).permits field value = false) := by
  refine ⟨nodup_names_ofSpecs specs, names_ofSpecs specs, fun field =>
    ⟨?listed, (mem_names_iff _ field).symm, ?kind, ?required, ?messages, permits_of_not_declares⟩⟩
  case listed => rw [names_ofSpecs, List.mem_eraseDups, List.mem_map]
  case kind => rw [kind?, spec?_ofSpecs]
  case required => rw [spec?_ofSpecs]
  case messages => exact messages_congr (spec?_ofSpecs_last specs field).symm

/-- A survey that declares the name of a person twice, and no `email`. -/
def surveyFields : List FieldSpec :=
  [⟨"name", .text, false⟩, ⟨"age", .integer, true⟩, ⟨"name", .list, true⟩]

/-- The second declaration of the name counts, in the place of the first one. -/
theorem survey_declared :
    (ofSpecs surveyFields).names = ["name", "age"] ∧
      "email" ∉ (ofSpecs surveyFields).names ∧
      (ofSpecs surveyFields).permits "email" .null = false ∧
      (ofSpecs surveyFields).messages "name" .null = ["name is required"] ∧
      (ofSpecs surveyFields).messages "name" (.string "Ada") =
        ["name must be list, got string"] := by
  obtain ⟨-, hnames, hfields⟩ := ofSpecs_declarations surveyFields
  obtain ⟨-, -, -, -, hmessages, -⟩ := hfields "name"
  obtain ⟨-, -, -, -, -, hundeclared⟩ := hfields "email"
  have hlisted : (ofSpecs surveyFields).names = ["name", "age"] := hnames.trans (by decide)
  have hmissing : "email" ∉ (ofSpecs surveyFields).names := by rw [hlisted]; decide
  exact ⟨hlisted, hmissing, hundeclared hmissing .null, (hmessages .null).trans (by decide),
    (hmessages (.string "Ada")).trans (by decide)⟩

end Schema

end FormRules
