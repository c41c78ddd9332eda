import FormRules.Proofs.Engine.InStep
import FormRules.Proofs.Engine.Request

/-!
What the host's handler of custom actions sees. Every cycle hands over the custom actions of
the rules that hold, as they are, rule by rule and action by action, with the form as it was
before the cycle changed anything; nothing else is handed over, and an engine without a handler
does all the rest in the same way (`custom_actions_handed_over`).
-/

namespace FormRules

/-- The action that an effect hands to the host, if it is one that does. -/
def Effect.custom? : Effect → Option Action
  | .custom action => some action
  | _ => none

/-- What an action does to its field is not handed to the host. -/
theorem ActionKind.MayCause.custom?_eq_none {S : Type} [FieldSchema S] {schema : S}
    {field : String} {kind : ActionKind} {effect : Effect} (h : kind.MayCause schema field effect) :
    effect.custom? = none := by
  cases h with
  | display => rfl
  | setValue => rfl
  | clearValue => rfl

namespace Rule

variable {S : Type} [FieldSchema S] (ctx : Context) (fns : Functions) (schema : S)

/-- The actions of a rule that are left to the host. -/
def customActions (rule : Rule) : List Action :=
  rule.actions.filter fun action => action.kind.isCustom

theorem filterMap_custom?_effectsOf (rule : Rule) (action : Action) :
    (rule.effectsOf ctx fns schema action).filterMap Effect.custom? =
      [action].filter fun action => action.kind.isCustom := by
  cases hcustom : action.kind.isCustom with
  | true => simp [effectsOf, outcomes, effect?, Effect.custom?, hcustom]
  | false =>
    rw [List.filter_cons_of_neg (by simp [hcustom]), List.filter_nil, List.filterMap_eq_nil_iff]
    intro effect hmem
    have houtcome := (mem_effectsOf_iff ctx fns schema).mp hmem
    rcases mem_outcomes_cases ctx fns schema houtcome with ⟨hkind, -⟩ | ⟨-, field, -, hcause⟩
    · rw [hcustom] at hkind
      cases hkind
    · exact hcause.custom?_eq_none

theorem filterMap_custom?_actions (rule : Rule) (actions : List Action) :
    (actions.flatMap (rule.effectsOf ctx fns schema)).filterMap Effect.custom? =
      actions.filter fun action => action.kind.isCustom := by
  rw [List.filterMap_flatMap]
  simp only [filterMap_custom?_effectsOf]
  rw [← List.filter_flatMap, List.flatMap_singleton']

/-- What the report on a rule says of the host and of what held: all custom actions and the
label of a rule that holds, and nothing of another one. -/
theorem custom_and_fired_report (rule : Rule) :
    (rule.report ctx fns schema).effects.filterMap Effect.custom? =
        ([rule].filter (fires ctx fns)).flatMap customActions ∧
      (rule.report ctx fns schema).fired = ([rule].filter (fires ctx fns)).map label := by
  rcases report_cases ctx fns schema rule with
    ⟨henabled, hreport⟩ | ⟨_, henabled, hcondition, hreport⟩ | ⟨henabled, hcondition, hreport⟩ |
    ⟨henabled, hcondition, hreport⟩
  · simp [hreport, fires, henabled]
  · simp [hreport, fires, Condition.holds, hcondition]
  · simp [hreport, fires, Condition.holds, hcondition]
  · simp [hreport, fires, Condition.holds, henabled, hcondition, filterMap_custom?_actions,
      customActions]

theorem custom_reportAll (rules : List Rule) :
    (reportAll ctx fns schema rules).effects.filterMap Effect.custom? =
      (rules.filter (fires ctx fns)).flatMap customActions := by
  rw [part_reportAll ctx fns schema (fun report => report.effects.filterMap Effect.custom?) rfl
    fun _ _ => List.filterMap_append]
  simp only [(custom_and_fired_report ctx fns schema _).1]
  rw [← List.flatMap_assoc, ← List.filter_flatMap, List.flatMap_singleton']

theorem fired_reportAll (rules : List Rule) :
    (reportAll ctx fns schema rules).fired = (rules.filter (fires ctx fns)).map label := by
  rw [part_reportAll ctx fns schema Evaluation.fired rfl fun _ _ => rfl]
  simp only [(custom_and_fired_report ctx fns schema _).2]
  rw [← List.map_flatMap, ← List.filter_flatMap, List.flatMap_singleton']

end Rule

namespace Engine

variable {Form S : Type} [Binding Form]

/-- The rules that hold in the cycle of an engine, in the order in which they are evaluated. -/
def firedRules (engine : Engine Form S) : List Rule :=
  (engine.order.arrange engine.rules).filter (Rule.fires engine.cycleContext engine.functions)

/-- What the cycle of an engine is to hand to the host: the custom actions of the rules that
hold, with the engine's context and the values that the form has before the cycle. -/
def customCalls (engine : Engine Form S) : List CustomCall :=
  (engine.firedRules.flatMap Rule.customActions).map fun action =>
    ⟨action, { engine.context with formData := Binding.values engine.form }⟩

theorem fired_cycle [FieldSchema S] (engine : Engine Form S) :
    engine.cycle.last.fired = engine.firedRules.map Rule.label :=
  Rule.fired_reportAll engine.cycleContext engine.functions engine.schema _

/-- One step: an effect calls the host once if it is a custom action, and else not at all. -/
theorem calls_carryOut (engine : Engine Form S) (h : engine.handlesCustom = true) (ctx : Context)
    (effect : Effect) :
    (carryOut ctx engine effect).calls =
      engine.calls ++ effect.custom?.toList.map fun action => ⟨action, ctx⟩ := by
  cases effect with
  | display | clearValue => simp [carryOut, Effect.custom?]
  | setValue =>
    simp only [carryOut]
    split <;> simp [Effect.custom?]
  | custom action => simp [carryOut, h, Effect.custom?]

theorem handlesCustom_carryOut (ctx : Context) (engine : Engine Form S) (effect : Effect) :
    (carryOut ctx engine effect).handlesCustom = engine.handlesCustom := by
  have hhandles := congrArg Setup.handlesCustom (toSetup_carryOut ctx engine effect)
  exact hhandles

/-- A run: the host is called for the custom actions among the effects, in their order. -/
theorem calls_foldl_carryOut (engine : Engine Form S) (h : engine.handlesCustom = true)
    (ctx : Context) (effects : List Effect) :
    (effects.foldl (carryOut ctx) engine).calls =
      engine.calls ++ (effects.filterMap Effect.custom?).map fun action => ⟨action, ctx⟩ := by
  induction effects generalizing engine with
  | nil => simp
  | cons effect rest ih =>
    rw [List.foldl_cons, ih _ (by rw [handlesCustom_carryOut, h]), calls_carryOut engine h]
    cases heffect : effect.custom? <;> simp [heffect]

variable [FieldSchema S]

/-- A cycle calls the host for the custom actions of the rules that hold. -/
theorem calls_cycle {engine : Engine Form S} (h : engine.handlesCustom = true) :
    engine.cycle.calls = engine.calls ++ engine.customCalls := by
  have hcalls : engine.cycle.calls = engine.calls ++
      (engine.evaluation.effects.filterMap Effect.custom?).map fun action =>
        ⟨action, engine.cycleContext⟩ :=
    calls_foldl_carryOut
      { engine with state := engine.state.apply (.declare (FieldSchema.names engine.schema)) } h _ _
  have hcustom : engine.evaluation.effects.filterMap Effect.custom? =
      engine.firedRules.flatMap Rule.customActions :=
    Rule.custom_reportAll engine.cycleContext engine.functions engine.schema _
  rw [hcalls, hcustom]
  rfl

/-- One step: a request calls the host in its cycle, if it runs one, and else not at all. -/
theorem calls_serve {engine : Engine Form S} (h : engine.handlesCustom = true)
    (request : Request S) :
    (engine.serve request).1.calls =
      engine.calls ++ (engine.toCycle? request).toList.flatMap customCalls := by
  rcases serve_cases engine request with ⟨begun, hbegun, hserve⟩ | ⟨hnone, form, _, hserve⟩
  · have hsame := eq_of_toCycle? hbegun
    have hhandles : begun.handlesCustom = true := by rw [hsame]; exact h
    have hcalls : begun.calls = engine.calls := by rw [hsame]
    rw [hserve, calls_cycle hhandles, hbegun, hcalls]
    simp
  · rw [hserve, hnone]
    simp

theorem handlesCustom_serve (engine : Engine Form S) (request : Request S) :
    (engine.serve request).1.handlesCustom = engine.handlesCustom := by
  rcases serve_cases engine request with ⟨begun, hbegun, hserve⟩ | ⟨-, form, _, hserve⟩
  · rw [hserve, handlesCustom_cycle, eq_of_toCycle? hbegun]
  · rw [hserve]

theorem handlesCustom_run (engine : Engine Form S) (requests : List (Request S)) :
    (engine.run requests).handlesCustom = engine.handlesCustom := by
  induction requests generalizing engine with
  | nil => rfl
  | cons request rest ih => exact (ih _).trans (handlesCustom_serve engine request)

/-- With a handler of custom actions, the first cycle and every later one call the host for the
custom actions of the rules that hold, as they are, in the order of the rules and of their
actions, each with the engine's context and the values of the form before the cycle; the rules
are those that the report says have fired, and there are no other calls. Without a handler, the
same requests lead to the same display, the same form and the same reports. -/
theorem custom_actions_handed_over (setup : Setup Form S) (h : setup.handlesCustom = true)
    (requests : List (Request S)) :
    let engine := setup.start.run requests
    let silent := (Setup.start { setup with handlesCustom := false }).run requests
    setup.start.calls = customCalls { setup with } ∧
      setup.start.last.fired = (firedRules { setup with }).map Rule.label ∧
      (∀ request, (engine.serve request).1.calls =
        engine.calls ++ (engine.toCycle? request).toList.flatMap customCalls) ∧
      (∀ request begun, engine.toCycle? request = some begun →
        (engine.serve request).1 = begun.cycle ∧
          (engine.serve request).1.last.fired = begun.firedRules.map Rule.label) ∧
      engine.fieldConfigs = silent.fieldConfigs ∧ engine.form = silent.form ∧
      engine.last = silent.last := by
  intro engine silent
  have hhandles : engine.handlesCustom = true := by
    rw [handlesCustom_run, Setup.start, handlesCustom_cycle, h]
  have hbuilt : InStep Eq { setup with } { setup with handlesCustom := false } :=
    ⟨rfl, rfl, rfl, rfl, rfl, rfl, rfl, rfl⟩
  have hrun := (hbuilt.cycle Binding.corresponds_eq).run Binding.corresponds_eq requests
  refine ⟨?first, fired_cycle { setup with }, calls_serve hhandles, ?cycle,
    congrArg FormState.snapshot hrun.state, hrun.form, hrun.last⟩
  case first => exact calls_cycle h
  case cycle =>
    intro request begun hbegun
    have hserve := serve_of_toCycle? hbegun
    exact ⟨hserve, by rw [hserve, fired_cycle]⟩

/-- A rule with two custom actions around a write that the schema permits and one that it does
not, and a rule that looks at what the first one writes. -/
def loyalty : Setup MemoryForm where
  form := { values := Dict.ofList [("age", .int 70)] }
  schema := ⟨[{ name := "age", kind := .integer }, { name := "discount", kind := .integer }]⟩
  handlesCustom := true
  rules := [
    { id := some "senior"
      condition := .compare "age" .greaterThan (.literal (.int 65)) none
      actions := [(Action.custom "offer").withParam "percent" (.int 10),
        .setValue "discount" (.literal (.int 10)), .setValue "rank" (.literal (.int 1)),
        .custom "greet"] },
    { id := some "discounted"
      condition := .compare "discount" .isNotEmpty (.literal .null) none
      actions := [.custom "announce"] }]

/-- The first cycle hands over what the first rule asks for, before the discount is there. The
second one finds the discount, and hands over three actions. A request without a cycle hands
over nothing. -/
theorem loyalty_calls :
    let engine := loyalty.start.run [.validate none]
    let offer := (Action.custom "offer").withParam "percent" (.int 10)
    let before : Context := { formData := Dict.ofList [("age", .int 70)] }
    let after : Context := { formData := Dict.ofList [("age", .int 70), ("discount", .int 10)] }
    loyalty.handlesCustom = true ∧
      loyalty.start.calls = [⟨offer, before⟩, ⟨.custom "greet", before⟩] ∧
      engine.calls = loyalty.start.calls ∧
      (engine.serve .notify).1.calls = engine.calls ++
        [⟨offer, after⟩, ⟨.custom "greet", after⟩, ⟨.custom "announce", after⟩] ∧
      (engine.serve .notify).1.last.fired = ["senior", "discounted"] ∧
      engine.form = ((Setup.start { loyalty with handlesCustom := false }).run
        [.validate none]).form := by
  intro engine offer before after
  obtain ⟨hfirst, -, hvalidate, -⟩ := custom_actions_handed_over loyalty rfl []
  obtain ⟨-, -, hnotify, hfired, -, hform, -⟩ :=
    custom_actions_handed_over loyalty rfl [.validate none]
  exact ⟨rfl, hfirst, hvalidate (.validate none), hnotify .notify, (hfired .notify engine rfl).2,
    hform⟩

end Engine

end FormRules
