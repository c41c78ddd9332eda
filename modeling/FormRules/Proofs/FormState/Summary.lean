import FormRules.Proofs.FormState.History

/-!
The display of a field told from its history alone, without the states in between. Flags and
options are those set last; messages are listed once, in the order of their first arrival; and
of the classes those are listed that arrived and were not taken off any more, in the order in
which they came to stay (`fieldConfig_of_history`). What happens to other fields, and
declarations, may be left out of a history.
-/

namespace FormRules

/-- Texts that are collected one by one: behind those that were there stand the new ones, each
in the place of its first occurrence. -/
theorem foldl_addNew (texts collected : List String) :
    texts.foldl addNew collected = collected ++ (texts.removeAll collected).eraseDups := by
  induction texts generalizing collected with
  | nil => simp [List.removeAll]
  | cons first rest ih =>
    rw [List.foldl_cons, ih]
    by_cases hmem : first ∈ collected
    · simp [addNew, List.removeAll, hmem]
    · have hall : (first :: rest).removeAll collected = first :: rest.removeAll collected := by
        simp [List.removeAll, hmem]
      have hrest : rest.removeAll (collected ++ [first]) =
          (rest.removeAll collected).filter fun text => !text == first := by
        simp only [List.removeAll, List.filter_filter]
        apply List.filter_congr
        intro text _
        simp [Bool.and_comm, beq_eq_decide]
      rw [hall, List.eraseDups_cons, ← hrest]
      simp [addNew, hmem]

theorem foldl_addNew_nil (texts : List String) : texts.foldl addNew [] = texts.eraseDups := by
  rw [foldl_addNew, List.nil_append, List.removeAll, List.filter_eq_self.mpr]
  simp

theorem filter_addNew (texts : List String) (text : String) (keep : String → Bool) :
    (addNew texts text).filter keep =
      if keep text then addNew (texts.filter keep) text else texts.filter keep := by
  unfold addNew
  by_cases hmem : text ∈ texts <;> cases hkeep : keep text <;>
    simp [hmem, hkeep, List.filter_append]

namespace Transition

/-- Whether a class is there after a transition, if the transition brings it to a field or takes
it off. -/
def classChange? (field cls : String) : Transition → Option Bool
  | .addClass other new => if other = field ∧ new = cls then some true else none
  | .removeClass other gone => if other = field ∧ gone = cls then some false else none
  | _ => none

/-- The classes that arrive at a field and are not taken off later, one for each such arrival. -/
def stayingClasses (field : String) : List Transition → List String
  | [] => []
  | .addClass other cls :: later =>
    if other = field ∧ anyTakesOff later field cls = false then
      cls :: stayingClasses field later
    else stayingClasses field later
  | _ :: later => stayingClasses field later

theorem anyTakesOff_cons (transition : Transition) (later : List Transition)
    (field cls : String) :
    anyTakesOff (transition :: later) field cls =
      (transition.takesOff field cls || anyTakesOff later field cls) := rfl

end Transition

attribute [ext] FieldConfig

namespace FieldConfig

open Transition

variable (field : String) (config : FieldConfig) (transitions : List Transition)

/-- Classes that are never taken off keep their places; behind them come those that arrive to
stay. -/
theorem classes_foldl_staying :
    (transitions.foldl (after field) config).classes =
      (stayingClasses field transitions).foldl addNew
        (config.classes.filter fun cls => !anyTakesOff transitions field cls) := by
  induction transitions generalizing config with
  | nil => simp [stayingClasses, anyTakesOff, List.filter_eq_self.mpr]
  | cons transition later ih =>
    rw [List.foldl_cons, ih]
    simp only [anyTakesOff_cons]
    cases transition with
    | addClass other cls =>
      by_cases h : other = field
      · -- The class stays if it is not taken off later; else the filter drops it again.
        subst h
        simp only [after, if_true, stayingClasses, true_and, takesOff, Bool.false_or,
          filter_addNew]
        cases anyTakesOff later other cls <;> simp
      · simp [after, stayingClasses, takesOff, h]
    | removeClass other gone =>
      by_cases h : other = field
      · subst h
        simp only [after, if_true, stayingClasses, takesOff, List.filter_filter]
        congr 1
        apply List.filter_congr
        intro cls _
        by_cases hgone : gone = cls <;> simp [hgone, eq_comm]
      · simp [after, stayingClasses, takesOff, h]
    | declare | setVisible | setDisabled | setRequired | addWarning | addError | setOptions =>
      simp only [stayingClasses, takesOff, Bool.false_or]
      grind [after]

theorem newClasses_eq_staying :
    newClasses transitions field = (stayingClasses field transitions).eraseDups := by
  rw [newClasses, classes_foldl_staying, List.filter_nil, foldl_addNew_nil]

/-- A class is there exactly when the last change of it was that it arrived. -/
theorem contains_classes_foldl (cls : String) :
    (transitions.foldl (after field) config).classes.contains cls =
      ((transitions.filterMap (classChange? field cls)).getLast?).getD
        (config.classes.contains cls) := by
  apply foldl_last fun config : FieldConfig => config.classes.contains cls
  intro config transition
  cases transition with
  | addClass other new =>
    rw [Bool.eq_iff_iff]
    by_cases h : other = field <;> by_cases hnew : new = cls <;>
      simp [after, classChange?, mem_addNew, h, hnew, @eq_comm _ cls new]
  | removeClass other gone =>
    rw [Bool.eq_iff_iff]
    by_cases h : other = field <;> by_cases hgone : gone = cls <;>
      simp [after, classChange?, h, hgone, @eq_comm _ cls gone]
  | declare | setVisible | setDisabled | setRequired | addWarning | addError | setOptions =>
    grind [after, classChange?]

/-- Transitions that are not about a field may be left out. -/
theorem foldl_after_of_field? :
    (transitions.filter fun transition => transition.field? = some field).foldl
      (after field) config = transitions.foldl (after field) config := by
  rw [List.foldl_filter]
  congr 1
  funext config transition
  by_cases h : transition.field? = some field
  · simp [h]
  · simp [h, after_of_field?_ne h]

/-- What a history makes of a field that shows the defaults. -/
theorem foldl_after_default :
    transitions.foldl (after field) {} =
      { visible := (transitions.filterMap (visible? field)).getLast?.getD true
        required := (transitions.filterMap (required? field)).getLast?.getD false
        disabled := (transitions.filterMap (disabled? field)).getLast?.getD false
        warnings := (transitions.filterMap (warning? field)).eraseDups
        errors := (transitions.filterMap (error? field)).eraseDups
        classes := (stayingClasses field transitions).eraseDups
        options := (transitions.filterMap (options? field)).getLast?.getD [] } := by
  apply FieldConfig.ext
  case visible => exact visible_foldl field {} transitions
  case required => exact required_foldl field {} transitions
  case disabled => exact disabled_foldl field {} transitions
  case warnings => exact (warnings_foldl field {} transitions).trans (foldl_addNew_nil _)
  case errors => exact (errors_foldl field {} transitions).trans (foldl_addNew_nil _)
  case classes => exact newClasses_eq_staying field transitions
  case options => exact options_foldl field {} transitions

end FieldConfig

namespace FormState

open Transition

/-- The display of a field after any history. Each flag is what was set last, the options are
the ones set last, and the messages are all that were added, each once, by first arrival. The
classes are those whose last change was an arrival, each once, in the order of the first
arrivals since they were last taken off. Only what is about the field counts. -/
theorem fieldConfig_of_history (transitions : List Transition) (field : String) :
    let shown := (({} : FormState).applyAll transitions).fieldConfig field
    shown =
        { visible := (transitions.filterMap (visible? field)).getLast?.getD true
          required := (transitions.filterMap (required? field)).getLast?.getD false
          disabled := (transitions.filterMap (disabled? field)).getLast?.getD false
          warnings := (transitions.filterMap (warning? field)).eraseDups
          errors := (transitions.filterMap (error? field)).eraseDups
          classes := (stayingClasses field transitions).eraseDups
          options := (transitions.filterMap (options? field)).getLast?.getD [] } ∧
      (∀ cls, cls ∈ shown.classes ↔
        (transitions.filterMap (classChange? field cls)).getLast? = some true) ∧
      shown = (({} : FormState).applyAll
        (transitions.filter fun transition => transition.field? = some field)).fieldConfig
          field := by
  intro shown
  have hshown : shown = transitions.foldl (FieldConfig.after field) {} :=
    fieldConfig_applyAll {} transitions field
  refine ⟨?formula, fun cls => ?classes, ?others⟩
  case formula =>
    rw [hshown]
    exact FieldConfig.foldl_after_default field transitions
  case classes =>
    have hthere := FieldConfig.contains_classes_foldl field {} transitions cls
    rw [← List.contains_iff_mem, hshown, hthere]
    cases (transitions.filterMap (classChange? field cls)).getLast? <;> simp
  case others =>
    rw [fieldConfig_applyAll, hshown]
    exact (FieldConfig.foldl_after_of_field? field _ transitions).symm

/-- A class that was taken off and came back stands behind those that came in between, and
stays where it is when it arrives once more. -/
example : (stayingClasses "plan" [.addClass "plan" "new", .addClass "plan" "wide",
    .removeClass "plan" "new", .addClass "fee" "new", .addClass "plan" "wide",
    .addClass "plan" "new", .addClass "plan" "wide"]).eraseDups = ["wide", "new"] := by
  decide

end FormState

end FormRules
