import FormRules.Proofs.Engine.Request

/-!
What a form says about its values. Validating fields publishes for each of them what is wrong with
its value at that moment, and takes back what was said before. The verdict on a field depends on
the schema and on the values, and publishing touches neither; so it does not matter in which order
fields are named, nor how often, and a second validation publishes the same
(`validation_publishes_verdicts`).
-/

namespace FormRules

/-- Setting values one after the other, where each depends on its name alone. -/
theorem Dict.get?_foldl_put {α : Type} (dict : Dict α) (names : List String)
    (value : String → Option α) (other : String) :
    (names.foldl (fun dict name => dict.put name (value name)) dict).get? other =
      if other ∈ names then value other else dict.get? other := by
  induction names generalizing dict with
  | nil => rfl
  | cons name rest ih =>
    rw [List.foldl_cons, ih, get?_put]
    by_cases hrest : other ∈ rest
    · simp [hrest]
    · by_cases hname : name = other
      · simp [hname]
      · simp [hrest, hname, Ne.symm hname]

namespace Engine

variable (engine : Engine MemoryForm)

/-- The messages about the present value of a field. -/
def currentMessages (field : String) : List String :=
  engine.schema.messages field ((engine.form.values.get? field).getD .null)

/-- What is to be published about a field: the messages about its value, if there are any. -/
def verdict? (field : String) : Option (List String) :=
  let messages := engine.currentMessages field
  if messages.isEmpty then none else some messages

theorem getD_verdict? (field : String) :
    (engine.verdict? field).getD [] = engine.currentMessages field := by
  unfold verdict?
  cases engine.currentMessages field <;> rfl

/-- The engine after publishing the verdicts on some fields. -/
def withVerdicts (names : List String) : Engine MemoryForm :=
  { engine with form :=
    { engine.form with
      errors := names.foldl (fun errors field => errors.put field (engine.verdict? field))
        engine.form.errors } }

/-- One step: publishing puts the verdict on a field in the place of its errors, and the flag
stays as long as there is nothing wrong. -/
theorem publish_eq (valid : Bool) (field : String) :
    publish (engine, valid) field =
      (engine.withVerdicts [field], valid && (engine.currentMessages field).isEmpty) := by
  have hcheck : engine.currentCheck field =
      if (engine.currentMessages field).isEmpty then .ok ()
      else .error (engine.currentMessages field) := rfl
  rw [publish, hcheck, withVerdicts, List.foldl_cons, List.foldl_nil, verdict?]
  cases engine.currentMessages field with
  | nil => exact congrArg (Prod.mk _) (Bool.and_true valid).symm
  | cons message rest => exact congrArg (Prod.mk _) (Bool.and_false valid).symm

/-- A run: a verdict is the same whatever has been published before it, and the flag says
whether nothing is wrong with any of the fields. -/
theorem foldl_publish (valid : Bool) (names : List String) :
    names.foldl publish (engine, valid) =
      (engine.withVerdicts names,
        valid && names.all fun field => (engine.currentMessages field).isEmpty) := by
  induction names generalizing engine valid with
  | nil => exact congrArg (Prod.mk _) (Bool.and_true valid).symm
  | cons name rest ih =>
    rw [List.foldl_cons, publish_eq, ih, List.all_cons, Bool.and_assoc]
    rfl

theorem get?_withVerdicts (names : List String) (field : String) :
    (engine.withVerdicts names).form.errors.get? field =
      if field ∈ names then engine.verdict? field else engine.form.errors.get? field :=
  Dict.get?_foldl_put engine.form.errors names engine.verdict? field

/-- Verdicts that are published already change nothing. -/
theorem withVerdicts_withVerdicts (names : List String) :
    (engine.withVerdicts names).withVerdicts names = engine.withVerdicts names := by
  have herrors : ((engine.withVerdicts names).withVerdicts names).form.errors =
      (engine.withVerdicts names).form.errors := by
    refine Dict.ext_get? fun field => ?_
    rw [get?_withVerdicts, get?_withVerdicts]
    split
    · rfl
    · rfl
  have hform : ((engine.withVerdicts names).withVerdicts names).form =
      (engine.withVerdicts names).form := congrArg (MemoryForm.mk engine.form.values) herrors
  exact congrArg (fun form => { engine with form }) hform

theorem serve_validate (names : Option (List String)) :
    engine.serve (.validate names) =
      (engine.withVerdicts (names.getD engine.schema.names),
        .valid ((names.getD engine.schema.names).all fun field =>
          (engine.currentMessages field).isEmpty)) := by
  rw [serve, validate, foldl_publish, Bool.true_and]
  rfl

/-- The check before a write and the check of the field afterwards agree. -/
theorem valid_after_setChecked {field : String} {value : Value}
    (h : (engine.serve (.setChecked field value)).2 = .done) :
    ((engine.serve (.setChecked field value)).1.serve (.validate (some [field]))).2 =
      .valid true := by
  rcases engine.serve_setChecked_cases field value with
    ⟨⟨-, hcheck⟩, hserve⟩ | ⟨-, error, hserve⟩
  · have hstored : (engine.form.values.put field (some value)).get? field = some value :=
      (Dict.get?_put ..).trans (if_pos rfl)
    have hmessages : ((engine.serve (.setChecked field value)).1.currentMessages field).isEmpty =
        true := by
      rw [hserve]
      show (engine.schema.messages field
        (((engine.form.values.put field (some value)).get? field).getD .null)).isEmpty = true
      rw [hstored]
      exact Schema.check_eq_ok_iff.mp hcheck
    rw [serve_validate, Option.getD_some, List.all_cons, hmessages, List.all_nil]
    rfl
  · rw [hserve] at h
    cases h

/-- Fields are valid when nothing is wrong with any of their values, missing ones being null. For
each field that is named, the errors are what is wrong with its value, and nothing else of the
engine changes; doing it again changes nothing at all. A checked write is valid afterwards. -/
theorem validation_publishes_verdicts (engine : Engine MemoryForm)
    (names : Option (List String)) :
    let named := names.getD engine.schema.names
    let current := fun field => (engine.form.values.get? field).getD .null
    let served := engine.serve (.validate names)
    (∃ truth, served.2 = .valid truth ∧
        (truth = true ↔ ∀ field ∈ named, engine.schema.permits field (current field) = true)) ∧
      (∀ field ∈ named,
        served.1.form.errorsOf field = engine.schema.messages field (current field) ∧
          (served.1.form.errorsOf field ≠ [] ↔
            engine.schema.permits field (current field) = false)) ∧
      (∀ field ∉ named, served.1.form.errorsOf field = engine.form.errorsOf field) ∧
      { served.1 with form := { served.1.form with errors := engine.form.errors } } = engine ∧
      served.1.serve (.validate names) = served ∧
      ∀ field value, (engine.serve (.setChecked field value)).2 = .done →
        ((engine.serve (.setChecked field value)).1.serve (.validate (some [field]))).2 =
          .valid true := by
  intro named current served
  have hserved : served = _ := engine.serve_validate names
  clear_value served
  subst hserved
  refine ⟨⟨_, rfl, List.all_eq_true⟩, fun field hnamed => ?published, fun field hother => ?others,
    rfl, ?again, fun field value hdone => ?written⟩
  case published =>
    have herrors : (engine.withVerdicts named).form.errorsOf field =
        engine.currentMessages field := by
      rw [MemoryForm.errorsOf, get?_withVerdicts, if_pos hnamed, getD_verdict?]
    refine ⟨herrors, ?_⟩
    rw [herrors]
    exact List.isEmpty_eq_false_iff.symm
  case others =>
    rw [MemoryForm.errorsOf, get?_withVerdicts, if_neg hother]
    rfl
  case again =>
    rw [serve_validate]
    exact congrArg (Prod.mk · _) (engine.withVerdicts_withVerdicts named)
  case written => exact engine.valid_after_setChecked hdone

/-- A questionnaire with a text as the age, and with errors of before. -/
def questionnaire : Engine MemoryForm where
  form := {
    values := Dict.ofList [("age", .string "old"), ("name", .string "Ada")]
    errors := Dict.ofList [("email", ["unknown host"]), ("name", ["too short"])] }
  schema := ⟨[{ name := "name", kind := .text, required := true },
    { name := "age", kind := .integer }, { name := "email", kind := .text }]⟩

/-- Two of its fields, one of them twice, and one that it does not have. -/
def questions : List String := ["age", "name", "age", "rank"]

/-- The text is found, the name is cleared and the address is not asked about. A checked write
mends the age. -/
theorem questionnaire_checked :
    let served := questionnaire.serve (.validate (some questions))
    served.2 = .valid false ∧
      served.1.form.errorsOf "age" = ["age must be integer, got string"] ∧
      served.1.form.errorsOf "name" = [] ∧
      served.1.form.errorsOf "rank" = ["field 'rank' is not declared"] ∧
      served.1.form.errorsOf "email" = ["unknown host"] ∧
      served.1.serve (.validate (some questions)) = served ∧
      (questionnaire.serve (.setChecked "age" (.int 36))).2 = .done ∧
      ((questionnaire.serve (.setChecked "age" (.int 36))).1.serve
        (.validate (some ["age"]))).2 = .valid true := by
  intro served
  obtain ⟨-, hnamed, hothers, -, hagain, hwritten⟩ :=
    validation_publishes_verdicts questionnaire (some questions)
  have hdone : (questionnaire.serve (.setChecked "age" (.int 36))).2 = .done := rfl
  exact ⟨rfl, (hnamed "age" (by decide)).1, (hnamed "name" (by decide)).1,
    (hnamed "rank" (by decide)).1, hothers "email" (by decide), hagain, hdone,
    hwritten "age" (.int 36) hdone⟩

end Engine

end FormRules
