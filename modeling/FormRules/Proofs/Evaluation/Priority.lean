import FormRules.Proofs.Evaluation.Report

/-!
The order by priority. It is the one arrangement of the rules in which priorities ascend, rules
without a priority come last, and rules of one priority stand as they are listed
(`ByPriority`). So an evaluation by priority is one in declaration order of the rules so
arranged, and it depends only on how the rules of each priority are listed
(`ofRules_priority`).
-/

namespace FormRules

namespace Rule

/-- The rules of one priority, or those without a priority, as they are listed. -/
def atPriority (priority : Option Int32) (rules : List Rule) : List Rule :=
  rules.filter fun rule => rule.priority = priority

/-- The rules are arranged by priority: the lower one stands first, rules without one stand
behind all others, and among equals the order of the list is kept. -/
structure ByPriority (rules arranged : List Rule) : Prop where
  perm : arranged.Perm rules
  ascending : arranged.Pairwise fun earlier later =>
    ∀ q ∈ later.priority, ∃ p ∈ earlier.priority, p.toInt ≤ q.toInt
  stable : ∀ priority, atPriority priority arranged = atPriority priority rules

theorem precedes_iff {x y : Rule} :
    x.precedes y = true ↔ ∀ q ∈ y.priority, ∃ p ∈ x.priority, p.toInt ≤ q.toInt := by
  unfold precedes
  cases x.priority <;> cases y.priority <;> simp [Int32.le_iff_toInt_le]

theorem precedes_trans (x y z : Rule) (hxy : x.precedes y = true) (hyz : y.precedes z = true) :
    x.precedes z = true := by
  rw [precedes_iff] at *
  intro r hr
  obtain ⟨q, hq, hqr⟩ := hyz r hr
  obtain ⟨p, hp, hpq⟩ := hxy q hq
  exact ⟨p, hp, Int.le_trans hpq hqr⟩

theorem precedes_total (x y : Rule) : (x.precedes y || y.precedes x) = true := by
  unfold precedes
  cases x.priority with
  | none => cases y.priority <;> rfl
  | some p =>
    cases y.priority with
    | none => rfl
    | some q => simpa [Int32.le_iff_toInt_le] using Int.le_total p.toInt q.toInt

/-- Rules that may stand on either side of each other have the same priority. -/
theorem priority_eq_of_precedes {x y : Rule} (hxy : x.precedes y = true)
    (hyx : y.precedes x = true) : x.priority = y.priority := by
  unfold precedes at hxy hyx
  cases hx : x.priority with
  | none => cases hy : y.priority <;> simp [hx, hy] at hxy ⊢
  | some p =>
    cases hy : y.priority with
    | none => simp [hx, hy] at hyx
    | some q =>
      simp only [hx, hy, Int32.le_iff_toInt_le, decide_eq_true_eq] at hxy hyx
      rw [Int32.toInt_inj.mp (Int.le_antisymm hxy hyx)]

theorem mem_atPriority {priority : Option Int32} {rules : List Rule} {rule : Rule} :
    rule ∈ atPriority priority rules ↔ rule ∈ rules ∧ rule.priority = priority := by
  simp [atPriority]

theorem atPriority_cons (priority : Option Int32) (rule : Rule) (rest : List Rule) :
    atPriority priority (rule :: rest) =
      if rule.priority = priority then rule :: atPriority priority rest
      else atPriority priority rest := by
  simp [atPriority, List.filter_cons]

/-- Two ascending lists with the same rules of each priority are the same list. -/
theorem eq_of_precedes {first second : List Rule}
    (hfirst : first.Pairwise fun earlier later => earlier.precedes later = true)
    (hsecond : second.Pairwise fun earlier later => earlier.precedes later = true)
    (h : ∀ priority, atPriority priority first = atPriority priority second) :
    first = second := by
  induction first generalizing second with
  | nil =>
    cases second with
    | nil => rfl
    | cons y ys =>
      have hnil := h y.priority
      simp [atPriority] at hnil
  | cons x xs ih =>
    cases second with
    | nil =>
      have hnil := h x.priority
      simp [atPriority] at hnil
    | cons y ys =>
      obtain ⟨hxs, hfirsts⟩ := List.pairwise_cons.mp hfirst
      obtain ⟨hys, hseconds⟩ := List.pairwise_cons.mp hsecond
      -- Each head is somewhere in the other list, so the heads have one priority; then they
      -- are the first rules of this priority in both lists.
      have hx : x ∈ y :: ys :=
        (mem_atPriority.mp (h x.priority ▸ mem_atPriority.mpr ⟨List.mem_cons_self, rfl⟩)).1
      have hy : y ∈ x :: xs :=
        (mem_atPriority.mp (h y.priority ▸ mem_atPriority.mpr ⟨List.mem_cons_self, rfl⟩)).1
      have hpriority : x.priority = y.priority := by
        rcases List.mem_cons.mp hx with rfl | hx
        · rfl
        · rcases List.mem_cons.mp hy with rfl | hy
          · rfl
          · exact priority_eq_of_precedes (hxs y hy) (hys x hx)
      have hheads := h x.priority
      simp only [atPriority_cons, hpriority, if_true, List.cons.injEq] at hheads
      obtain ⟨rfl, -⟩ := hheads
      have htails : ∀ priority, atPriority priority xs = atPriority priority ys := by
        intro priority
        have hall := h priority
        rw [atPriority_cons, atPriority_cons] at hall
        split at hall
        · exact (List.cons.inj hall).2
        · exact hall
      exact congrArg (x :: ·) (ih hfirsts hseconds htails)

theorem atPriority_mergeSort (priority : Option Int32) (rules : List Rule) :
    atPriority priority (rules.mergeSort precedes) = atPriority priority rules := by
  have hequal : (atPriority priority rules).Pairwise fun earlier later =>
      earlier.precedes later = true := by
    apply List.pairwise_of_forall_mem_list
    intro earlier hearlier later hlater
    rw [precedes_iff, (mem_atPriority.mp hearlier).2, (mem_atPriority.mp hlater).2]
    exact fun p hp => ⟨p, hp, Int.le_refl _⟩
  have hsub : (atPriority priority rules).Sublist (rules.mergeSort precedes) :=
    List.sublist_mergeSort precedes_trans precedes_total hequal List.filter_sublist
  have hwithin : (atPriority priority rules).Sublist
      (atPriority priority (rules.mergeSort precedes)) := by
    have hfilter := hsub.filter fun rule => rule.priority = priority
    simpa only [atPriority, List.filter_filter, Bool.and_self] using hfilter
  have hlength := ((List.mergeSort_perm rules precedes).filter fun rule =>
    rule.priority = priority).length_eq
  exact (hwithin.eq_of_length hlength.symm).symm

/-- Arranging by priority does what it says. -/
theorem byPriority_arrange (rules : List Rule) :
    ByPriority rules (RuleOrder.priority.arrange rules) where
  perm := RuleOrder.perm_arrange .priority rules
  ascending := (List.pairwise_mergeSort precedes_trans precedes_total rules).imp precedes_iff.mp
  stable priority := atPriority_mergeSort priority rules

/-- There is only one arrangement by priority, and it is the same for all lists with the same
rules of each priority. -/
theorem ByPriority.eq {rules others arranged rearranged : List Rule}
    (h : ByPriority rules arranged) (hother : ByPriority others rearranged)
    (hsame : ∀ priority, atPriority priority rules = atPriority priority others) :
    arranged = rearranged :=
  eq_of_precedes (h.ascending.imp precedes_iff.mpr) (hother.ascending.imp precedes_iff.mpr)
    fun priority => by rw [h.stable, hother.stable, hsame]

/-- Lists with the same rules of each priority are permutations of each other. -/
theorem perm_of_atPriority {first second : List Rule}
    (h : ∀ priority, atPriority priority first = atPriority priority second) :
    first.Perm second := by
  have hfirst := byPriority_arrange first
  have hsecond := byPriority_arrange second
  have hequal := hfirst.eq hsecond h
  exact hfirst.perm.symm.trans (hequal ▸ hsecond.perm)

/-- Taking rules out of a list takes them out of each priority. -/
theorem atPriority_filter (priority : Option Int32) (keep : Rule → Bool) (rules : List Rule) :
    atPriority priority (rules.filter keep) = (atPriority priority rules).filter keep := by
  simp only [atPriority, List.filter_filter, Bool.and_comm]

theorem ByPriority.filter {rules arranged : List Rule} (h : ByPriority rules arranged)
    (keep : Rule → Bool) : ByPriority (rules.filter keep) (arranged.filter keep) where
  perm := h.perm.filter keep
  ascending := h.ascending.filter keep
  stable priority := by rw [atPriority_filter, atPriority_filter, h.stable]

end Rule

/-- Rules may be taken out before they are arranged or after it. -/
theorem RuleOrder.arrange_filter (order : RuleOrder) (keep : Rule → Bool) (rules : List Rule) :
    order.arrange (rules.filter keep) = (order.arrange rules).filter keep := by
  cases order with
  | declaration => rfl
  | priority =>
    have hkept := (Rule.byPriority_arrange rules).filter keep
    exact (Rule.byPriority_arrange (rules.filter keep)).eq hkept fun _ => rfl

namespace Evaluation

open Rule

variable {S : Type} [FieldSchema S] (ctx : Context) (fns : Functions) (schema : S)

/-- Evaluating rules by priority is evaluating them as they are listed, after they have been
arranged by priority; and there is just one such arrangement. Lists that have the same rules of
each priority in the same order, those without a priority included, are evaluated alike. -/
theorem ofRules_priority (rules : List Rule) :
    (∃! arranged, ByPriority rules arranged) ∧
      (∀ arranged, ByPriority rules arranged →
        ofRules ctx fns schema .priority rules = ofRules ctx fns schema .declaration arranged) ∧
      ∀ others, (∀ priority, atPriority priority rules = atPriority priority others) →
        ofRules ctx fns schema .priority rules = ofRules ctx fns schema .priority others := by
  have harranged := byPriority_arrange rules
  refine ⟨?unique, ?arranged, ?others⟩
  case unique =>
    exact ⟨_, harranged, fun other hother => hother.eq harranged fun _ => rfl⟩
  case arranged =>
    intro arranged h
    rw [h.eq harranged fun _ => rfl]
    rfl
  case others =>
    intro others hsame
    have hequal := harranged.eq (byPriority_arrange others) hsame
    rw [ofRules, ofRules, hequal]

/-- A rule that holds as soon as there is a name, with some priority. -/
def greeting (id : String) (priority : Option Int32) : Rule where
  id := some id
  condition := .compare "name" .isNotEmpty (.literal .null) none
  actions := [⟨.addClass id, none⟩]
  priority

/-- Rules with the lowest priority that there is, twice the same one, and none, in two lists:
neither has them in the order of their priorities. -/
theorem greetings_by_priority :
    let ctx : Context := { formData := Dict.ofList [("name", .string "Ada")] }
    let list := [greeting "late" none, greeting "one" (some 5),
      greeting "first" (some (-2147483648)), greeting "two" (some 5)]
    let other := [greeting "one" (some 5), greeting "late" none, greeting "two" (some 5),
      greeting "first" (some (-2147483648))]
    let arranged := [greeting "first" (some (-2147483648)), greeting "one" (some 5),
      greeting "two" (some 5), greeting "late" none]
    ByPriority list arranged ∧
      (ofRules ctx .builtin ({} : Schema) .priority list).fired = ["first", "one", "two", "late"] ∧
      ofRules ctx .builtin ({} : Schema) .priority list =
        ofRules ctx .builtin ({} : Schema) .priority other := by
  intro ctx list other arranged
  have hsame : ∀ priority, atPriority priority list = atPriority priority other ∧
      atPriority priority arranged = atPriority priority list := by
    intro priority
    simp only [list, other, arranged, atPriority_cons, greeting]
    by_cases hfive : some 5 = priority
    · subst hfive
      exact ⟨rfl, rfl⟩
    · by_cases hnone : none = priority
      · subst hnone
        exact ⟨rfl, rfl⟩
      · simp only [hfive, hnone, if_false, and_self]
  have hascending : arranged.Pairwise fun earlier later => earlier.precedes later = true := by
    simp [arranged, greeting, precedes]
  have harranged : ByPriority list arranged := {
    perm := perm_of_atPriority fun priority => (hsame priority).2
    ascending := hascending.imp precedes_iff.mp
    stable := fun priority => (hsame priority).2 }
  obtain ⟨-, hevaluation, hothers⟩ := ofRules_priority ctx .builtin ({} : Schema) list
  refine ⟨harranged, ?_, hothers other fun priority => (hsame priority).1⟩
  rw [hevaluation arranged harranged]
  decide

end Evaluation

end FormRules
