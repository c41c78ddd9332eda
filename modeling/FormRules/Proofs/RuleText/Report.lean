import FormRules.Proofs.Evaluation.Report
import FormRules.Proofs.RuleSet.Check
import FormRules.Proofs.RuleText.Concatenation
import FormRules.Proofs.RuleText.Validation

/-!
The report on rules from text. A report names rules by their labels. The label of a rule that
was read is its id, and in a rule set no id occurs twice, so the report on a rule set from text
says of each of its rules what became of it (`report_ofText_faithful`).
-/

namespace FormRules

theorem Rule.label_of_id {rule : Rule} {id : String} (h : rule.id = some id) :
    rule.label = id := by
  simp [Rule.label, h]

/-- Where every rule has an id, the labels are the ids. -/
theorem Rule.map_label_eq {rules : List Rule} (h : ∀ rule ∈ rules, ∃ id, rule.id = some id) :
    rules.map Rule.label = rules.filterMap Rule.id := by
  have hid : ∀ rule ∈ rules, rule.id = some rule.label := by
    intro rule hmem
    obtain ⟨id, hid⟩ := h rule hmem
    rw [hid, Rule.label_of_id hid]
  rw [List.filterMap_congr hid]
  exact (congrFun List.filterMap_eq_map rules).symm

namespace RuleSet

/-- A text makes a rule set exactly when the rules of the set are those of the text. -/
theorem ofText_eq_ok {text : String} {set : RuleSet} :
    ofText text = .ok set ↔ RuleText.readRules text = .ok set.rules := by
  constructor
  · intro h
    unfold ofText at h
    split at h
    · cases h
    · rename_i rules hread
      split at h
      · cases h
      · rename_i built hbuilt
        cases h
        rw [hread, ofRules_eq_ok.mp hbuilt]
  · intro hread
    simp only [ofText, hread, ofRules_eq_ok.mpr rfl]

/-- Every rule of a rule set from text has an id. -/
theorem exists_id_of_ofText {text : String} {set : RuleSet} (h : ofText text = .ok set) :
    ∀ rule ∈ set.rules, ∃ id, rule.id = some id := by
  intro rule hmem
  have hread : RuleText.rules text.toList = .done set.rules [] :=
    RuleText.whole_eq_ok.mp (ofText_eq_ok.mp h)
  obtain ⟨-, hreadable⟩ := RuleText.yields_rules _ _ _ hread
  obtain ⟨id, hid, -⟩ := (hreadable rule hmem).id
  exact ⟨id, hid⟩

/-- The rules of a rule set from text are told apart by their labels. -/
theorem nodup_labels_of_ofText {text : String} {set : RuleSet} (h : ofText text = .ok set) :
    (set.rules.map Rule.label).Nodup := by
  rw [Rule.map_label_eq (exists_id_of_ofText h)]
  exact set.allSound.ids

/-- The report on a rule set from text, evaluated in either order, says of every rule by its
id whether it held, whether it is disabled, and with which error it failed; and it names no
rule twice. -/
theorem report_ofText_faithful {text : String} {set : RuleSet} (h : ofText text = .ok set)
    {S : Type} [FieldSchema S] (ctx : Context) (fns : Functions) (schema : S)
    (order : RuleOrder) :
    let report := Evaluation.ofRules ctx fns schema order set.rules
    (∀ rule ∈ set.rules, ∃ id, rule.id = some id ∧
        (report.hasFired id = true ↔
          rule.enabled = true ∧ rule.condition.evaluate ctx fns = .ok true) ∧
        (id ∈ report.skipped ↔ rule.enabled = false) ∧
        ∀ error, ⟨id, error⟩ ∈ report.failures ↔
          rule.enabled = true ∧ rule.condition.evaluate ctx fns = .error error) ∧
      (report.fired ++ report.skipped ++ report.failures.map RuleFailure.rule).Nodup := by
  intro report
  have hlabels := nodup_labels_of_ofText h
  refine ⟨fun rule hmem => ?_, Evaluation.nodup_labels_ofRules ctx fns schema order hlabels⟩
  obtain ⟨id, hid⟩ := exists_id_of_ofText h rule hmem
  have hlabel := Rule.label_of_id hid
  have hfired := Evaluation.label_mem_fired_iff ctx fns schema order hlabels hmem
  have hskipped := Evaluation.label_mem_skipped_iff ctx fns schema order hlabels hmem
  have hfailures := Evaluation.failure_mem_failures_iff ctx fns schema order hlabels hmem
  rw [hlabel] at hfired hskipped hfailures
  exact ⟨id, hid, List.contains_iff_mem.trans hfired, hskipped, hfailures⟩

end RuleSet

namespace RuleText

/-- A rule that calls a function, which may not be there. -/
def quotation : Rule where
  id := some "quotation"
  condition := .comparison ⟨"fee", .equals, .call "rate" [], none⟩
  actions := [⟨.show, some "fee"⟩]

theorem writable_quotation : quotation.Writable := by
  have hcall : (Expr.call "rate" []).Readable :=
    Expr.every_call.mpr ⟨⟨by decide, by decide⟩, by simp⟩
  have hreadable : quotation.condition.Readable := ⟨by decide, by simp, hcall⟩
  have hliterals : quotation.condition.Literals Value.Writable :=
    Expr.every_call.mpr ⟨trivial, by simp⟩
  have hactions : ∀ action ∈ quotation.actions, action.Writable := by
    simp only [quotation, List.forall_mem_singleton]
    refine ⟨trivial, ?_, fun h => absurd h Bool.false_ne_true⟩
    rintro word ⟨⟩
    decide
  exact ⟨⟨_, rfl, by decide⟩, rfl, by simp [quotation], hreadable, hliterals,
    by simp [quotation], hactions⟩

/-- A file with a disabled rule, one that holds and one that fails, evaluated by priority. -/
theorem fees_reported :
    let list := [quotation, surcharge, refund]
    let ctx : Context := { formData := Dict.ofList [("fee", .int 5)] }
    ∃ set, RuleSet.ofText (writeRules list) = .ok set ∧ set.rules = list ∧
      let report := Evaluation.ofRules ctx .builtin ({} : Schema) .priority set.rules
      report.hasFired "refund" = true ∧ "surcharge" ∈ report.skipped ∧
        ⟨"quotation", .unknownFunction "rate"⟩ ∈ report.failures := by
  intro list ctx
  have hwritable : ∀ rule ∈ list, rule.Writable := by
    simp only [list, List.forall_mem_cons]
    exact ⟨writable_quotation, writable_surcharge, writable_refund, by simp⟩
  have hread : readRules (writeRules list) = .ok list := by
    rw [readRules_eq_ok, writeRules, String.toList_ofList]
    exact ⟨[], many_rule list hwritable, dropBlanks_nil⟩
  have hsound : Rule.defectOfAll? list = none := rfl
  have hset : RuleSet.ofText (writeRules list) = .ok ⟨list, hsound⟩ :=
    RuleSet.ofText_eq_ok.mpr hread
  refine ⟨⟨list, hsound⟩, hset, rfl, ?_⟩
  obtain ⟨hrules, -⟩ :=
    RuleSet.report_ofText_faithful hset ctx .builtin ({} : Schema) .priority
  obtain ⟨_, ⟨⟩, -, -, hfailure⟩ := hrules quotation (by simp [list])
  obtain ⟨_, ⟨⟩, -, hskipped, -⟩ := hrules surcharge (by simp [list])
  obtain ⟨_, ⟨⟩, hfired, -, -⟩ := hrules refund (by simp [list])
  exact ⟨hfired.mpr ⟨rfl, rfl⟩, hskipped.mpr rfl, (hfailure _).mpr ⟨rfl, rfl⟩⟩

end RuleText

end FormRules
