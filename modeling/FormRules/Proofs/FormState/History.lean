import FormRules.Proofs.FormState.Field
import Mathlib.Data.List.Induction

/-!
The display of a field as a summary of its history. Flags and options come from the last
transition that sets them, messages are collected in the order of their first arrival,
and classes depend on how arrivals and removals interleave: of the classes that a field
had, those stay in place that are never taken off, and behind them come the classes that
the same history would give to a field without classes (`classes_foldl`). So a history
that is repeated changes nothing but, possibly, the order of the classes
(`after_twice`), and it changes that order exactly where a class that was taken off and
came back stands before a new one (`classes_twice_eq_iff`).
-/

namespace FormRules

section Folds

variable {σ τ β : Type}

/-- A part of a state that steps either set or leave alone is what was set last. -/
theorem foldl_last (part : σ → β) (step : σ → τ → σ) (set? : τ → Option β)
    (hstep : ∀ state input, part (step state input) = (set? input).getD (part state))
    (inputs : List τ) (state : σ) :
    part (inputs.foldl step state) = ((inputs.filterMap set?).getLast?).getD (part state) := by
  induction inputs generalizing state with
  | nil => rfl
  | cons input rest ih =>
    rw [List.foldl_cons, ih, hstep]
    cases hset : set? input with
    | none => simp [hset]
    | some value => simp [hset, List.getLast?_cons]

/-- A part of a state that steps add texts to is what is collected of these texts. -/
theorem foldl_collected (part : σ → List String) (step : σ → τ → σ)
    (text? : τ → Option String)
    (hstep : ∀ state input,
      part (step state input) = (text? input).toList.foldl addNew (part state))
    (inputs : List τ) (state : σ) :
    part (inputs.foldl step state) = (inputs.filterMap text?).foldl addNew (part state) := by
  induction inputs generalizing state with
  | nil => rfl
  | cons input rest ih =>
    rw [List.foldl_cons, ih, hstep]
    cases htext : text? input <;> simp [htext]

end Folds

theorem mem_addNew {texts : List String} {text other : String} :
    other ∈ addNew texts text ↔ other ∈ texts ∨ other = text := by
  unfold addNew
  split
  · rename_i hmem
    have hmem : text ∈ texts := by simpa using hmem
    constructor
    · exact Or.inl
    · rintro (h | rfl)
      · exact h
      · exact hmem
  · simp

theorem mem_foldl_addNew {texts collected : List String} {text : String} :
    text ∈ texts.foldl addNew collected ↔ text ∈ collected ∨ text ∈ texts := by
  induction texts generalizing collected with
  | nil => simp
  | cons first rest ih =>
    rw [List.foldl_cons, ih, mem_addNew, List.mem_cons, or_assoc]

/-- Texts that are there already are not collected again. -/
theorem foldl_addNew_of_subset {texts collected : List String}
    (h : ∀ text ∈ texts, text ∈ collected) : texts.foldl addNew collected = collected := by
  induction texts with
  | nil => rfl
  | cons first rest ih =>
    have hfirst : addNew collected first = collected := by
      simp [addNew, h first List.mem_cons_self]
    rw [List.foldl_cons, hfirst]
    exact ih fun text hmem => h text (List.mem_cons_of_mem _ hmem)

/-- A text that arrives in one of two lists: the second one shows only the texts of a kind,
and the first one holds it exactly where it is not of that kind. -/
theorem addNew_append_filter {kept texts : List String} {text : String} {shown : String → Bool}
    (h : text ∈ kept ↔ shown text = false) :
    addNew (kept ++ texts.filter shown) text = kept ++ (addNew texts text).filter shown := by
  unfold addNew
  by_cases hmem : text ∈ texts <;> cases hshown : shown text <;>
    simp [hmem, hshown, h, List.filter_append]

/-- Moving what satisfies a condition to the end changes nothing exactly when it stands
there already. -/
theorem filter_not_append_filter_eq_iff {α : Type} (accept : α → Bool) (items : List α) :
    items.filter (fun item => !accept item) ++ items.filter accept = items ↔
      items.Pairwise fun earlier later => accept earlier = true → accept later = true := by
  induction items with
  | nil => simp
  | cons item rest ih =>
    cases haccept : accept item with
    | false => simp [haccept, ih]
    | true =>
      simp only [haccept, List.filter_cons, Bool.not_true, Bool.false_eq_true, if_false, if_true,
        List.pairwise_cons, forall_const]
      constructor
      · intro h
        have hnone : rest.filter (fun item => !accept item) = [] := by
          cases hfirst : rest.filter (fun item => !accept item) with
          | nil => rfl
          | cons first others =>
            have hmem : first ∈ rest.filter (fun item => !accept item) := by simp [hfirst]
            have heq : first = item := by
              rw [hfirst, List.cons_append] at h
              exact (List.cons.inj h).1
            have hnot := (List.mem_filter.mp hmem).2
            simp [heq, haccept] at hnot
        have hall : ∀ later ∈ rest, accept later = true := by
          simpa using List.filter_eq_nil_iff.mp hnone
        exact ⟨hall, List.pairwise_of_forall_mem_list fun _ _ later hmem _ => hall later hmem⟩
      · rintro ⟨hall, _⟩
        have hnone : rest.filter (fun item => !accept item) = [] :=
          List.filter_eq_nil_iff.mpr fun later hmem => by simp [hall later hmem]
        rw [hnone, List.filter_eq_self.mpr hall, List.nil_append]

namespace Transition

/-- What a transition sets the visible flag of a field to, if it does. -/
def visible? (field : String) : Transition → Option Bool
  | .setVisible other visible => if other = field then some visible else none
  | _ => none

def disabled? (field : String) : Transition → Option Bool
  | .setDisabled other disabled => if other = field then some disabled else none
  | _ => none

def required? (field : String) : Transition → Option Bool
  | .setRequired other required => if other = field then some required else none
  | _ => none

def options? (field : String) : Transition → Option (List Value)
  | .setOptions other options => if other = field then some options else none
  | _ => none

/-- The warning that a transition brings to a field, if it does. -/
def warning? (field : String) : Transition → Option String
  | .addWarning other message => if other = field then some message else none
  | _ => none

def error? (field : String) : Transition → Option String
  | .addError other message => if other = field then some message else none
  | _ => none

/-- Whether a transition takes a class off a field. -/
def takesOff (field cls : String) : Transition → Bool
  | .removeClass other gone => other = field && gone = cls
  | _ => false

/-- Whether some transition takes a class off a field. -/
def anyTakesOff (transitions : List Transition) (field cls : String) : Bool :=
  transitions.any (·.takesOff field cls)

/-- The classes that transitions give to a field without classes, in order of arrival. -/
def newClasses (transitions : List Transition) (field : String) : List String :=
  (transitions.foldl (FieldConfig.after field) {}).classes

end Transition

namespace FieldConfig

open Transition

variable (field : String) (config : FieldConfig) (transitions : List Transition)

theorem visible_foldl :
    (transitions.foldl (after field) config).visible =
      ((transitions.filterMap (visible? field)).getLast?).getD config.visible := by
  apply foldl_last FieldConfig.visible
  intro config transition
  cases transition <;> grind [after, visible?]

theorem disabled_foldl :
    (transitions.foldl (after field) config).disabled =
      ((transitions.filterMap (disabled? field)).getLast?).getD config.disabled := by
  apply foldl_last FieldConfig.disabled
  intro config transition
  cases transition <;> grind [after, disabled?]

theorem required_foldl :
    (transitions.foldl (after field) config).required =
      ((transitions.filterMap (required? field)).getLast?).getD config.required := by
  apply foldl_last FieldConfig.required
  intro config transition
  cases transition <;> grind [after, required?]

theorem options_foldl :
    (transitions.foldl (after field) config).options =
      ((transitions.filterMap (options? field)).getLast?).getD config.options := by
  apply foldl_last FieldConfig.options
  intro config transition
  cases transition <;> grind [after, options?]

theorem warnings_foldl :
    (transitions.foldl (after field) config).warnings =
      (transitions.filterMap (warning? field)).foldl addNew config.warnings := by
  apply foldl_collected FieldConfig.warnings
  intro config transition
  cases transition <;> grind [after, warning?]

theorem errors_foldl :
    (transitions.foldl (after field) config).errors =
      (transitions.filterMap (error? field)).foldl addNew config.errors := by
  apply foldl_collected FieldConfig.errors
  intro config transition
  cases transition <;> grind [after, error?]

/-- What a transition means for the classes of a field: one arrives, one goes, or nothing. -/
theorem classes_after_cases (transition : Transition) :
    (∃ cls, transition = .addClass field cls) ∨ (∃ cls, transition = .removeClass field cls) ∨
      (∀ config : FieldConfig, (config.after field transition).classes = config.classes) ∧
        ∀ cls, transition.takesOff field cls = false := by
  cases transition with
  | addClass other cls =>
    by_cases h : other = field
    · exact Or.inl ⟨cls, by rw [h]⟩
    · exact Or.inr (Or.inr ⟨by simp [after, h], by simp [takesOff]⟩)
  | removeClass other cls =>
    by_cases h : other = field
    · exact Or.inr (Or.inl ⟨cls, by rw [h]⟩)
    · exact Or.inr (Or.inr ⟨by simp [after, h], by simp [takesOff, h]⟩)
  | declare | setVisible | setDisabled | setRequired | addWarning | addError | setOptions =>
    exact Or.inr (Or.inr ⟨fun config => by grind [after], fun cls => rfl⟩)

/-- Classes that are never taken off keep their places; behind them stand the new ones, and
those that were taken off and came back, in order of arrival. -/
theorem classes_foldl :
    (transitions.foldl (after field) config).classes =
      config.classes.filter (fun cls => !anyTakesOff transitions field cls) ++
        (newClasses transitions field).filter fun cls =>
          anyTakesOff transitions field cls || !config.classes.contains cls := by
  induction transitions using List.reverseRecOn with
  | nil => simp [anyTakesOff, newClasses, List.filter_eq_self.mpr]
  | append_singleton earlier transition ih =>
    have hnew : newClasses (earlier ++ [transition]) field =
        (after field (earlier.foldl (after field) {}) transition).classes := by
      simp [newClasses]
    have hoff : ∀ cls, anyTakesOff (earlier ++ [transition]) field cls =
        (anyTakesOff earlier field cls || transition.takesOff field cls) := by
      simp [anyTakesOff]
    rw [List.foldl_append, List.foldl_cons, List.foldl_nil, hnew]
    simp only [hoff]
    rcases classes_after_cases field transition with ⟨cls, rfl⟩ | ⟨cls, rfl⟩ | ⟨hsame, hno⟩
    · -- A class arrives. It is new to the field exactly where it is new to both parts.
      simp only [after, if_true, takesOff, Bool.or_false]
      rw [ih]
      apply addNew_append_filter
      simp only [List.mem_filter, Bool.or_eq_false_iff, Bool.not_eq_eq_eq_not, Bool.not_true,
        Bool.not_false, List.contains_iff_mem]
      exact and_comm
    · simp only [after, if_true, takesOff, ih, newClasses, List.filter_append, List.filter_filter]
      congr 1
      · apply List.filter_congr
        grind
      · apply List.filter_congr
        grind
    · simp only [hsame, hno, Bool.or_false]
      exact ih

/-- Repeating a history brings no new class: all that could arrive are there. -/
theorem mem_classes_foldl_of_mem_newClasses {cls : String}
    (h : cls ∈ newClasses transitions field) :
    cls ∈ (transitions.foldl (after field) config).classes := by
  rw [classes_foldl, List.mem_append, List.mem_filter, List.mem_filter]
  cases hoff : anyTakesOff transitions field cls <;> by_cases hold : cls ∈ config.classes <;>
    simp [h, hold]

/-- What a history does to the classes when it is repeated: of those that arrived the
first time, the ones that it takes off go behind the others. -/
theorem classes_twice :
    let off := anyTakesOff transitions field
    let arrived := (newClasses transitions field).filter fun cls =>
      off cls || !config.classes.contains cls
    (transitions.foldl (after field) (transitions.foldl (after field) config)).classes =
      config.classes.filter (fun cls => !off cls) ++
        (arrived.filter (fun cls => !off cls) ++ arrived.filter off) := by
  intro off arrived
  have honce : (transitions.foldl (after field) config).classes =
      config.classes.filter (fun cls => !off cls) ++ arrived :=
    classes_foldl field config transitions
  have hback : ((newClasses transitions field).filter fun cls =>
      off cls || !(transitions.foldl (after field) config).classes.contains cls) =
      arrived.filter off := by
    rw [List.filter_filter]
    apply List.filter_congr
    intro cls hmem
    have hthere := mem_classes_foldl_of_mem_newClasses field config transitions hmem
    cases off cls <;> simp [hthere]
  rw [classes_foldl, hback, honce, List.filter_append, List.filter_filter]
  simp only [off, Bool.and_self, List.append_assoc]

/-- A repeated history keeps the classes exactly when none that it takes off and brings
back stands before one that it only brings, and that the field did not have. -/
theorem classes_twice_eq_iff :
    (transitions.foldl (after field) (transitions.foldl (after field) config)).classes =
        (transitions.foldl (after field) config).classes ↔
      (newClasses transitions field).Pairwise fun earlier later =>
        anyTakesOff transitions field earlier = true →
          anyTakesOff transitions field later = true ∨ later ∈ config.classes := by
  rw [classes_twice, classes_foldl, List.append_cancel_left_eq, filter_not_append_filter_eq_iff,
    List.pairwise_filter]
  refine List.Pairwise.iff fun earlier later => ?_
  cases anyTakesOff transitions field earlier <;> cases anyTakesOff transitions field later <;>
    simp

theorem perm_classes_twice :
    (transitions.foldl (after field) (transitions.foldl (after field) config)).classes.Perm
      (transitions.foldl (after field) config).classes := by
  rw [classes_twice, classes_foldl]
  apply List.Perm.append_left
  exact List.perm_append_comm.trans (List.filter_append_perm _ _)

/-- Apart from the order of the classes, a repeated history changes nothing. -/
theorem after_twice :
    let once := transitions.foldl (after field) config
    let twice := transitions.foldl (after field) once
    twice = { once with classes := twice.classes } := by
  intro once twice
  have hvisible : twice.visible = once.visible := by
    simp only [twice, once, visible_foldl]
    cases (transitions.filterMap (visible? field)).getLast? <;> rfl
  have hdisabled : twice.disabled = once.disabled := by
    simp only [twice, once, disabled_foldl]
    cases (transitions.filterMap (disabled? field)).getLast? <;> rfl
  have hrequired : twice.required = once.required := by
    simp only [twice, once, required_foldl]
    cases (transitions.filterMap (required? field)).getLast? <;> rfl
  have hoptions : twice.options = once.options := by
    simp only [twice, once, options_foldl]
    cases (transitions.filterMap (options? field)).getLast? <;> rfl
  have hwarnings : twice.warnings = once.warnings := by
    simp only [twice, once, warnings_foldl]
    exact foldl_addNew_of_subset fun message hmem => mem_foldl_addNew.mpr (Or.inr hmem)
  have herrors : twice.errors = once.errors := by
    simp only [twice, once, errors_foldl]
    exact foldl_addNew_of_subset fun message hmem => mem_foldl_addNew.mpr (Or.inr hmem)
  cases htwice : twice with
  | mk visible required disabled warnings errors classes options =>
    rw [htwice] at hvisible hdisabled hrequired hoptions hwarnings herrors
    simp only at hvisible hdisabled hrequired hoptions hwarnings herrors
    rw [hvisible, hdisabled, hrequired, hoptions, hwarnings, herrors]

/-- Repeating a history once more changes nothing at all. -/
theorem after_thrice {twice : FieldConfig}
    (htwice : twice = transitions.foldl (after field) (transitions.foldl (after field) config)) :
    transitions.foldl (after field) twice = twice := by
  subst htwice
  let twice := transitions.foldl (after field) (transitions.foldl (after field) config)
  have hclasses : (transitions.foldl (after field) twice).classes = twice.classes := by
    refine (classes_twice_eq_iff field (transitions.foldl (after field) config) transitions).mpr ?_
    apply List.pairwise_of_forall_mem_list
    intro earlier _ later hlater _
    exact Or.inr (mem_classes_foldl_of_mem_newClasses field config transitions hlater)
  have hrest := after_twice field (transitions.foldl (after field) config) transitions
  calc transitions.foldl (after field) twice
      = { twice with classes := (transitions.foldl (after field) twice).classes } := hrest
    _ = { twice with classes := twice.classes } := by rw [hclasses]

end FieldConfig

end FormRules
