import FormRules.Proofs.Rule.Defect
import FormRules.RuleSet

/-!
Checked lists of rules. A list makes a rule set when its rules are sound and have different ids,
so that in a rule set an id finds its one rule. Otherwise the defect is that of the first rule
that is not let in (`ofRules_keeps_ids_apart`).
-/

namespace FormRules

/-- Among rules with different ids, an id finds the rule that has it. -/
theorem Rule.find?_of_nodup_ids {rules : List Rule} (h : (rules.filterMap Rule.id).Nodup)
    {rule : Rule} {id : String} (hmem : rule ∈ rules) (hid : rule.id = some id) :
    (rules.find? fun other => other.id == some id) = some rule := by
  obtain ⟨before, after, rfl⟩ := List.append_of_mem hmem
  rw [List.filterMap_append, List.filterMap_cons_some hid] at h
  have hother : ∀ other ∈ before, (other.id == some id) = false := by
    intro other hbefore
    rw [beq_eq_false_iff_ne]
    intro hsame
    have hearlier : id ∈ before.filterMap Rule.id := List.mem_filterMap.mpr ⟨other, hbefore, hsame⟩
    exact (List.nodup_append.mp h).2.2 id hearlier id List.mem_cons_self rfl
  rw [List.find?_append, List.find?_eq_none.mpr (by simpa using hother), Option.none_or,
    List.find?_cons_of_pos (by simp [hid])]

namespace RuleSet

theorem ofRules_eq_ok {rules : List Rule} {set : RuleSet} :
    ofRules rules = .ok set ↔ set.rules = rules := by
  constructor
  · intro h
    unfold ofRules at h
    split at h
    · cases h
    · cases h
      rfl
  · rintro rfl
    have hsound := set.sound
    unfold ofRules
    split
    · rename_i defect hdefect
      rw [hdefect] at hsound
      cases hsound
    · rfl

theorem ofRules_eq_error {rules : List Rule} {defect : Defect} :
    ofRules rules = .error defect ↔ Rule.defectOfAll? rules = some defect := by
  unfold ofRules
  split <;> simp_all

theorem allSound (set : RuleSet) : Rule.AllSound set.rules :=
  Rule.defectOfAll?_eq_none_iff.mp set.sound

theorem exists_ofRules_eq_ok_iff {rules : List Rule} :
    (∃ set, ofRules rules = .ok set) ↔ Rule.AllSound rules := by
  constructor
  · rintro ⟨set, h⟩
    exact ofRules_eq_ok.mp h ▸ set.allSound
  · intro h
    exact ⟨⟨rules, Rule.defectOfAll?_eq_none_iff.mpr h⟩, ofRules_eq_ok.mpr rfl⟩

theorem get?_of_mem (set : RuleSet) {rule : Rule} {id : String} (hmem : rule ∈ set.rules)
    (hid : rule.id = some id) : set.get? id = some rule :=
  Rule.find?_of_nodup_ids set.allSound.ids hmem hid

theorem get?_eq_none (set : RuleSet) {id : String} (h : ∀ rule ∈ set.rules, rule.id ≠ some id) :
    set.get? id = none :=
  List.find?_eq_none.mpr (by simpa using h)

/-- A rule set comes of sound rules with different ids. It holds these rules in order, and an id
gets the rule that has it and nothing else. Otherwise the defect is that of the first rule which
repeats an id or, if it does not, has a defect of its own. -/
theorem ofRules_keeps_ids_apart (rules : List Rule) :
    ((∃ set, ofRules rules = .ok set) ↔
      (∀ rule ∈ rules, rule.defect? = none) ∧ (rules.filterMap Rule.id).Nodup) ∧
    (∀ set, ofRules rules = .ok set → set.rules = rules ∧
      ∀ id, (∀ rule ∈ rules, rule.id = some id → set.get? id = some rule) ∧
        ((∀ rule ∈ rules, rule.id ≠ some id) → set.get? id = none)) ∧
    ∀ defect, ofRules rules = .error defect ↔
      ∃ before rule after, rules = before ++ rule :: after ∧ Rule.AllSound before ∧
        rule.Refused (before.filterMap Rule.id) defect := by
  refine ⟨?_, ?_, fun defect => ofRules_eq_error.trans Rule.defectOfAll?_eq_some_iff⟩
  · rw [exists_ofRules_eq_ok_iff]
    exact ⟨fun h => ⟨h.sound, h.ids⟩, fun h => ⟨h.1, h.2⟩⟩
  · intro set hset
    obtain rfl := ofRules_eq_ok.mp hset
    exact ⟨rfl, fun id => ⟨fun rule hmem hid => set.get?_of_mem hmem hid, set.get?_eq_none⟩⟩

/-- Rules without an id do not repeat one, and of a repeated id and a defect the id is told. -/
example :
    let blank : Rule := { condition := .all [], actions := [⟨.custom "ping" none {}, none⟩] }
    let named := { blank with id := some "ping" }
    Rule.defectOfAll? [blank, blank, named] = none ∧
      Rule.defectOfAll? [named, { named with actions := [] }] = some (.duplicateId "ping") :=
  ⟨rfl, rfl⟩

end RuleSet

end FormRules
