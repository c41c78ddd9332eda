import FormRules.Proofs.RuleSet.Check
import Mathlib.Data.List.Nodup

/-!
Rule sets from drafts. All drafts are finished before ids are compared, so the defect of a draft
is told even where an id is repeated before it, while a list of rules is checked rule by rule.
The two ways to a rule set give the same except for this (`ofDrafts_eq_ofRules_iff`).
-/

namespace FormRules

namespace Rule

namespace Draft

/-- The rule that a draft describes, if it has a condition. Finishing the draft gives this rule
or its defect. -/
def rule? (draft : Draft) : Option Rule :=
  draft.condition.map fun condition =>
    { id := draft.id, title := draft.title, description := draft.description,
      subject := draft.subject, condition, actions := draft.actions,
      priority := draft.priority, enabled := draft.enabled, debounce := draft.debounce }

theorem build_of_rule? {draft : Draft} {rule : Rule} (h : draft.rule? = some rule) :
    draft.build = match rule.defect? with
      | some defect => .error defect
      | none => .ok rule := by
  obtain ⟨id, title, description, subject, condition, actions⟩ := draft
  obtain ⟨condition, rfl, rfl⟩ := Option.map_eq_some_iff.mp h
  rfl

/-- Drafts with a condition are finished in order until one has a defect. -/
theorem mapM_build {drafts : List Draft} (h : ∀ draft ∈ drafts, draft.condition ≠ none) :
    drafts.mapM build = match (drafts.filterMap rule?).findSome? Rule.defect? with
      | some defect => .error defect
      | none => .ok (drafts.filterMap rule?) := by
  induction drafts with
  | nil => rfl
  | cons draft rest ih =>
    obtain ⟨hfirst, hrest⟩ := List.forall_mem_cons.mp h
    obtain ⟨condition, hcondition⟩ := Option.ne_none_iff_exists'.mp hfirst
    have hrule : draft.rule? = some _ := Option.map_eq_some_iff.mpr ⟨condition, hcondition, rfl⟩
    rw [List.mapM_cons, build_of_rule? hrule, List.filterMap_cons_some hrule, List.findSome?_cons]
    cases Rule.defect? _ with
    | some defect => rfl
    | none =>
      rw [ih hrest]
      cases (rest.filterMap rule?).findSome? Rule.defect? <;> rfl

end Draft

/-- An id is repeated, no later than in the first rule with a defect of its own. -/
def RepeatsBeforeDefect (rules : List Rule) : Prop :=
  ∃ before rule after, rules = before ++ rule :: after ∧
    (∀ other ∈ before, other.defect? = none) ∧ rule.defect? ≠ none ∧
    ¬((before ++ [rule]).filterMap Rule.id).Nodup

theorem nodup_ids_append_singleton {before : List Rule} {rule : Rule} :
    ((before ++ [rule]).filterMap Rule.id).Nodup ↔ (before.filterMap Rule.id).Nodup ∧
      ∀ id, rule.id = some id → id ∉ before.filterMap Rule.id := by
  rw [List.filterMap_append]
  cases hid : rule.id with
  | none => simp [hid]
  | some id =>
    rw [List.filterMap_cons_some hid, List.filterMap_nil, ← List.concat_eq_append,
      List.nodup_concat]
    simp [and_comm]

section FirstDefective

/-! A rule with a defect of its own, behind rules without one. -/

variable {before : List Rule} {rule : Rule} (hbefore : ∀ other ∈ before, other.defect? = none)

include hbefore

/-- Where no id is repeated up to the rule, its defect is the first one. -/
theorem defectOfAll?_of_nodup {defect : Defect} (hrule : rule.defect? = some defect)
    (hids : ((before ++ [rule]).filterMap Rule.id).Nodup) (after : List Rule) :
    defectOfAll? (before ++ rule :: after) = some defect := by
  obtain ⟨hearlier, hnew⟩ := nodup_ids_append_singleton.mp hids
  exact defectOfAll?_eq_some_iff.mpr
    ⟨before, rule, after, rfl, ⟨hbefore, hearlier⟩, .defective hnew hrule⟩

/-- Where an id is repeated up to the rule, a repeated id is the first defect. -/
theorem defectOfAll?_of_not_nodup (hids : ¬((before ++ [rule]).filterMap Rule.id).Nodup)
    (after : List Rule) :
    ∃ id, defectOfAll? (before ++ rule :: after) = some (.duplicateId id) := by
  cases hearlier : defectOfAll? before with
  | none =>
    -- the ids before the rule differ, so it repeats one of them
    have hsound := defectOfAll?_eq_none_iff.mp hearlier
    have htaken : ∃ id, rule.id = some id ∧ id ∈ before.filterMap Rule.id := by
      by_contra hnone
      exact hids (nodup_ids_append_singleton.mpr
        ⟨hsound.ids, fun id hid hmem => hnone ⟨id, hid, hmem⟩⟩)
    obtain ⟨id, hid, hmem⟩ := htaken
    exact ⟨id, defectOfAll?_eq_some_iff.mpr ⟨before, rule, after, rfl, hsound, .repeated hid hmem⟩⟩
  | some defect =>
    obtain ⟨passed, other, rest, rfl, hsound, hrefused⟩ := defectOfAll?_eq_some_iff.mp hearlier
    rcases hrefused with ⟨hid, hmem⟩ | ⟨-, hown⟩
    · rename_i id
      exact ⟨id, defectOfAll?_eq_some_iff.mpr
        ⟨passed, other, rest ++ rule :: after, by simp, hsound, .repeated hid hmem⟩⟩
    · rw [hbefore other (by simp)] at hown
      cases hown

end FirstDefective

end Rule

namespace RuleSet

open Rule

/-- The rules that drafts with a condition describe. -/
def described (drafts : List Draft) : List Rule := drafts.filterMap Draft.rule?

section Outcomes

variable {drafts : List Draft} (h : ∀ draft ∈ drafts, draft.condition ≠ none)

include h

theorem ofDrafts_eq :
    ofDrafts drafts = match (described drafts).findSome? Rule.defect? with
      | some defect => .error defect
      | none => ofRules (described drafts) := by
  rw [ofDrafts, Draft.mapM_build h, described]
  cases (drafts.filterMap Draft.rule?).findSome? Rule.defect? <;> rfl

/-- Where an id is repeated too early, the rules are refused for a repeated id and their drafts
for another defect. -/
theorem outcomes_of_repeatsBeforeDefect (hrepeats : RepeatsBeforeDefect (described drafts)) :
    ∃ rule ∈ described drafts, ∃ defect id, rule.defect? = some defect ∧
      ofDrafts drafts = .error defect ∧
      ofRules (described drafts) = .error (.duplicateId id) := by
  obtain ⟨before, rule, after, hrules, hbefore, hrule, hids⟩ := hrepeats
  obtain ⟨defect, hdefect⟩ := Option.ne_none_iff_exists'.mp hrule
  have hfirst : (described drafts).findSome? Rule.defect? = some defect :=
    List.findSome?_eq_some_iff.mpr ⟨before, rule, after, hrules, hdefect, hbefore⟩
  obtain ⟨id, hid⟩ := defectOfAll?_of_not_nodup hbefore hids after
  rw [← hrules] at hid
  exact ⟨rule, by simp [hrules], defect, id, hdefect, by rw [ofDrafts_eq h, hfirst],
    ofRules_eq_error.mpr hid⟩

theorem ofDrafts_eq_ofRules (hrepeats : ¬RepeatsBeforeDefect (described drafts)) :
    ofDrafts drafts = ofRules (described drafts) := by
  rw [ofDrafts_eq h]
  cases hfirst : (described drafts).findSome? Rule.defect? with
  | none => rfl
  | some defect =>
    obtain ⟨before, rule, after, hrules, hrule, hbefore⟩ := List.findSome?_eq_some_iff.mp hfirst
    have hids : ((before ++ [rule]).filterMap Rule.id).Nodup := by
      by_contra hrepeated
      exact hrepeats ⟨before, rule, after, hrules, hbefore, by simp [hrule], hrepeated⟩
    have hdefect := defectOfAll?_of_nodup hbefore hrule hids after
    rw [← hrules] at hdefect
    exact (ofRules_eq_error.mpr hdefect).symm

/-- Drafts and the rules that they describe make the same rule set, if any, and are refused for
the same defect unless an id is repeated no later than in the first rule with a defect of its
own. Then the repeated id is the first defect of the rules, but that of the drafts is the other
one. -/
theorem ofDrafts_eq_ofRules_iff :
    (∀ set, ofDrafts drafts = .ok set ↔ ofRules (described drafts) = .ok set) ∧
    (ofDrafts drafts = ofRules (described drafts) ↔ ¬RepeatsBeforeDefect (described drafts)) ∧
    (RepeatsBeforeDefect (described drafts) →
      ∃ rule ∈ described drafts, ∃ defect id, rule.defect? = some defect ∧
        ofDrafts drafts = .error defect ∧
        ofRules (described drafts) = .error (.duplicateId id)) := by
  have houtcomes := outcomes_of_repeatsBeforeDefect h
  refine ⟨fun set => ?_, ⟨fun heq hrepeats => ?_, ofDrafts_eq_ofRules h⟩, houtcomes⟩
  · by_cases hrepeats : RepeatsBeforeDefect (described drafts)
    · obtain ⟨rule, -, defect, id, -, hdrafts, hrules⟩ := houtcomes hrepeats
      simp [hdrafts, hrules]
    · rw [ofDrafts_eq_ofRules h hrepeats]
  · obtain ⟨rule, -, defect, id, hdefect, hdrafts, hrules⟩ := houtcomes hrepeats
    -- the defect of a rule names the rule, but a repeated id names none
    rw [hdrafts, hrules, Except.error.injEq] at heq
    rw [heq] at hdefect
    cases rule?_of_defect? hdefect

end Outcomes

section Hints

/-- A rule that shows some help. -/
def hint : Draft :=
  ((Draft.withId {} "hint").when (.comparison ⟨"name", .isEmpty, .literal .null, none⟩)).andThen
    ⟨.show, some "help"⟩

/-- A rule that does nothing. -/
def idle : Draft :=
  (Draft.withId {} "idle").when (.comparison ⟨"name", .isEmpty, .literal .null, none⟩)

/-- A defect in front of a repeated id is the first one of the drafts and of their rules. -/
theorem idle_between_hints :
    let drafts := [hint, idle, hint]
    (∀ draft ∈ drafts, draft.condition ≠ none) ∧
      ofDrafts drafts = .error (.noActions "idle") ∧
      ofDrafts drafts = ofRules (described drafts) := by
  intro drafts
  have hconditions : ∀ draft ∈ drafts, draft.condition ≠ none := by
    simp [drafts, hint, idle, Draft.when, Draft.andThen]
  have hrules : ofRules (described drafts) = .error (.noActions "idle") :=
    ofRules_eq_error.mpr rfl
  obtain ⟨-, hiff, houtcomes⟩ := ofDrafts_eq_ofRules_iff hconditions
  have heq := hiff.mpr fun hrepeats => by
    obtain ⟨-, -, -, id, -, -, hrepeated⟩ := houtcomes hrepeats
    rw [hrules] at hrepeated
    cases hrepeated
  exact ⟨hconditions, heq.trans hrules, heq⟩

/-- Of a repeated id in front of a defect, the rules are refused for the one and their drafts for
the other. -/
theorem idle_behind_hints :
    let drafts := [hint, hint, idle]
    (∀ draft ∈ drafts, draft.id ≠ none ∧ draft.condition ≠ none) ∧
      ofDrafts drafts = .error (.noActions "idle") ∧
      ofRules (described drafts) = .error (.duplicateId "hint") := by
  intro drafts
  have hfilled : ∀ draft ∈ drafts, draft.id ≠ none ∧ draft.condition ≠ none := by
    simp [drafts, hint, idle, Draft.when, Draft.andThen, Draft.withId]
  exact ⟨hfilled, rfl, ofRules_eq_error.mpr rfl⟩

end Hints

end RuleSet

end FormRules
