import FormRules.Proofs.RuleSet.Check
import FormRules.Proofs.RuleText.RuleImage
import FormRules.RuleText

/-!
What checking can find in rules that were read. The grammar leaves only two defects of a rule
possible, an action that names no field where the rule has none either and a text that is
empty, and of a file a repeated id (`readRules_defects`).
-/

namespace FormRules

open RuleText

/-- The actions whose text may be empty. -/
def ActionKind.textual : List String :=
  ["show_warning", "show_error", "add_class", "remove_class"]

/-- The defects that a rule may have if it was read. -/
inductive Rule.TextDefect (rule : Rule) : Defect → Prop where
  | missingTarget {action : Action} : action ∈ rule.actions → action.kind.isCustom = false →
      rule.target? action = none →
      TextDefect rule (.missingTarget rule.label action.kind.name)
  | missingPayload {action : Action} : action ∈ rule.actions → action.kind.hasPayload = false →
      action.kind.name ∈ ActionKind.textual →
      TextDefect rule (.missingPayload rule.label action.kind.name)

/-- An id that a rule shares with a rule before it. -/
def Rule.Repeats (rules : List Rule) (id : String) : Prop :=
  ∃ before rule after, rules = before ++ rule :: after ∧ rule.id = some id ∧
    ∃ other ∈ before, other.id = some id

section Defects

/-- No letter is white space, and neither is the underscore. -/
theorem not_isWhiteSpace_of_isIdentStart {c : Char} (h : isIdentStart c = true) :
    Unicode.isWhiteSpace c = false := by
  have hcode := code_of_isIdentStart h
  simp only [Unicode.isWhiteSpace, Bool.or_eq_false_iff, Bool.and_eq_false_iff,
    decide_eq_false_iff_not, beq_eq_false_iff_ne]
  omega

/-- An identifier is not blank. -/
theorem isBlankText_of_isIdentifier {word : String} (h : isIdentifier word = true) :
    Unicode.isBlankText word = false := by
  obtain ⟨c, tail, hcons, hstart, _⟩ := isIdentifier_iff.mp h
  rw [Unicode.isBlankText, hcons, List.all_cons, not_isWhiteSpace_of_isIdentStart hstart,
    Bool.false_and]

/-- Only a text can be missing from an action that was read. -/
theorem textual_of_not_hasPayload {action : Action} (h : action.Readable)
    (hmissing : action.kind.hasPayload = false) : action.kind.name ∈ ActionKind.textual := by
  obtain ⟨kind, target⟩ := action
  cases kind with
  | setValue value required =>
    have hsome : value.isSome = true ∨ required.isSome = true := h
    simp only [ActionKind.hasPayload, Bool.or_eq_false_iff] at hmissing
    simp [hmissing.1, hmissing.2] at hsome
  | custom name value params =>
    have hname : isIdentifier name = true := h.1
    simp [ActionKind.hasPayload, isBlankText_of_isIdentifier hname] at hmissing
  | showWarning | showError | addClass | removeClass => simp [ActionKind.name, ActionKind.textual]
  | _ => cases hmissing

/-- A condition that was read has no defect: fields are names, and no negation is empty. -/
theorem Condition.defect?_of_readable {condition : Condition} (label : String)
    (h : condition.Readable) : condition.defect? label = none := by
  induction condition with
  | comparison c =>
    have hfield : isIdentifier c.field = true := h.field.1
    rw [Condition.defect?, isBlankText_of_isIdentifier hfield]
    rfl
  | group connective children ih =>
    obtain ⟨hself, hchildren⟩ := Condition.every_group.mp h
    have hne : ¬(connective = .not ∧ children.isEmpty) := by
      rintro ⟨rfl, hempty⟩
      have hone : children.length = 1 := hself
      rw [List.isEmpty_iff.mp hempty] at hone
      cases hone
    rw [Condition.defect?, if_neg hne]
    exact Condition.defectOfAll?_eq_none_iff.mpr fun child hmem =>
      ih child hmem (hchildren child hmem)

theorem Rule.textDefect_of_defect? {rule : Rule} {defect : Defect} (h : rule.Readable)
    (hdefect : rule.defect? = some defect) : rule.TextDefect defect := by
  have hactions : ¬rule.actions.isEmpty = true := fun hempty =>
    h.actions (List.isEmpty_iff.mp hempty)
  rw [Rule.defect?, if_neg hactions, Condition.defect?_of_readable _ h.condition] at hdefect
  obtain ⟨action, hmem, haction⟩ := List.exists_of_findSome?_eq_some hdefect
  unfold Rule.actionDefect? at haction
  split at haction
  · rename_i hpayload
    cases haction
    have hmissing : action.kind.hasPayload = false := by simpa using hpayload
    have htextual := textual_of_not_hasPayload (h.readable action hmem) hmissing
    exact .missingPayload hmem hmissing htextual
  · split at haction
    · rename_i htarget
      cases haction
      simp only [Bool.and_eq_true, Bool.not_eq_true', Option.isNone_iff_eq_none] at htarget
      exact .missingTarget hmem htarget.1 htarget.2
    · cases haction

/-- The first defect of a list is a repeated id or the defect of a rule. -/
theorem Rule.firstDefect?_cases {before rules : List Rule} {ids : List String} {defect : Defect}
    (hids : ∀ id ∈ ids, ∃ other ∈ before, other.id = some id)
    (h : Rule.firstDefect? ids rules = some defect) :
    (∃ id, Rule.Repeats (before ++ rules) id ∧ defect = .duplicateId id) ∨
      ∃ rule ∈ rules, rule.defect? = some defect := by
  obtain ⟨passed, rule, after, rfl, -, hrefused⟩ := Rule.firstDefect?_eq_some_iff.mp h
  rcases hrefused with ⟨hid, hmem⟩ | ⟨-, hown⟩
  · rename_i id
    have hearlier : ∃ other ∈ before ++ passed, other.id = some id := by
      rcases List.mem_append.mp hmem with hpassed | hseen
      · obtain ⟨other, hother, hsame⟩ := List.mem_filterMap.mp (List.mem_reverse.mp hpassed)
        exact ⟨other, List.mem_append_right _ hother, hsame⟩
      · obtain ⟨other, hother, hsame⟩ := hids id hseen
        exact ⟨other, List.mem_append_left _ hother, hsame⟩
    exact .inl ⟨id, ⟨before ++ passed, rule, after, by simp, hid, hearlier⟩, rfl⟩
  · exact .inr ⟨rule, by simp, hown⟩

/-- Only a defect keeps rules that were read from making a rule set. -/
theorem RuleSet.defect_of_ofText {text : String} {rules : List Rule} {e : RuleSet.TextError}
    (h : readRules text = .ok rules) (he : RuleSet.ofText text = .error e) :
    ∃ defect, Rule.defectOfAll? rules = some defect ∧ e = .defective defect := by
  simp only [RuleSet.ofText, h] at he
  cases hresult : RuleSet.ofRules rules with
  | ok set =>
    rw [hresult] at he
    cases he
  | error defect =>
    rw [hresult] at he
    cases he
    exact ⟨defect, RuleSet.ofRules_eq_error.mp hresult, rfl⟩

end Defects

namespace RuleText

open Reader

/-- What can be read, and what checking can say of it. -/
theorem readRules_defects {text : String} {rules : List Rule} (h : readRules text = .ok rules) :
    (∀ rule ∈ rules, rule.Readable ∧
      ∀ defect, rule.defect? = some defect → rule.TextDefect defect) ∧
    ∀ e, RuleSet.ofText text = .error e → ∃ defect, e = .defective defect ∧
      ((∃ id, Rule.Repeats rules id ∧ defect = .duplicateId id) ∨
        ∃ rule ∈ rules, rule.TextDefect defect) := by
  have hread : RuleText.rules text.toList = .done rules [] := whole_eq_ok.mp h
  obtain ⟨_, hreadable⟩ := yields_rules _ _ _ hread
  have hdefects : ∀ rule ∈ rules, ∀ defect, rule.defect? = some defect → rule.TextDefect defect :=
    fun rule hmem _ => Rule.textDefect_of_defect? (hreadable rule hmem)
  refine ⟨fun rule hmem => ⟨hreadable rule hmem, hdefects rule hmem⟩, fun e he => ?_⟩
  obtain ⟨defect, hdefect, rfl⟩ := RuleSet.defect_of_ofText h he
  refine ⟨defect, rfl, ?_⟩
  have hnone : ∀ id ∈ ([] : List String), ∃ other ∈ ([] : List Rule), other.id = some id := by simp
  rcases Rule.firstDefect?_cases hnone hdefect with hid | ⟨rule, hmem, hown⟩
  · exact .inl hid
  · exact .inr ⟨rule, hmem, hdefects rule hmem defect hown⟩

/-- A rule whose warning has neither a text nor a field. -/
def reminder : Rule where
  id := some "reminder"
  condition := .negate (.comparison ⟨"name", .isEmpty, .literal .null, none⟩)
  actions := [⟨.showWarning "", none⟩, ⟨.custom "ping" none {}, none⟩]

theorem writable_reminder : reminder.Writable := by
  have hempty : (Condition.comparison ⟨"name", .isEmpty, .literal .null, none⟩).Readable :=
    ⟨by decide, by simp, rfl⟩
  have hliteral : (Condition.comparison ⟨"name", .isEmpty, .literal .null, none⟩).Literals
      Value.Writable := trivial
  have hreadable : reminder.condition.Readable := Condition.readable_negate hempty
  have hliterals : reminder.condition.Literals Value.Writable :=
    Condition.literals_negate hliteral
  have hactions : ∀ action ∈ reminder.actions, action.Writable := by
    simp only [reminder, List.forall_mem_cons]
    refine ⟨⟨trivial, by simp, fun _ => rfl⟩, ?_, by simp⟩
    exact ⟨⟨by decide, by simp, fun _ hmem => absurd hmem List.not_mem_nil⟩, by simp, fun _ => rfl⟩
  exact ⟨⟨_, rfl, by decide⟩, rfl, by simp [reminder], hreadable, hliterals, by simp [reminder],
    hactions⟩

theorem reminder_lacks_text :
    let text :=
      "rule reminder:\n    when (NOT name is_empty)\n    then show_warning \"\", custom ping"
    let defect := Defect.missingPayload "reminder" "show_warning"
    readRules text = .ok [reminder] ∧ reminder.Readable ∧ reminder.TextDefect defect ∧
      RuleSet.ofText text = .error (.defective defect) := by
  intro text defect
  have htext : text.toList = joinWith ['\n', '\n'] ([reminder].map Rule.source) := by decide
  have hmany : many rule text.toList = .done [reminder] [] := by
    rw [htext]
    exact many_rule [reminder] (List.forall_mem_singleton.mpr writable_reminder)
  have hread : readRules text = .ok [reminder] := readRules_eq_ok.mpr ⟨[], hmany, dropBlanks_nil⟩
  obtain ⟨hrules, _⟩ := readRules_defects hread
  obtain ⟨hreadable, hdefects⟩ := hrules reminder List.mem_cons_self
  refine ⟨hread, hreadable, hdefects defect rfl, ?_⟩
  simp only [RuleSet.ofText, hread]
  rfl

end RuleText

end FormRules
