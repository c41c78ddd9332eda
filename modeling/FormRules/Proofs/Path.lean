import FormRules.Path
import Mathlib.Data.List.TakeWhile

/-!
The first segment of a path. A text without dots is a path of one segment; any other text
splits at its first dot into its first segment and the path of the others
(`segments_of_splitFirst?`).
-/

namespace FormRules.Path

theorem segmentsOf_of_no_dot {chars : List Char} (h : '.' ∉ chars) :
    segmentsOf chars = [chars] := by
  induction chars with
  | nil => rfl
  | cons c rest ih =>
    rw [List.mem_cons, not_or] at h
    rw [segmentsOf, if_neg (Ne.symm h.1), ih h.2]

/-- A text splits at a dot, and there is none before it. -/
theorem toList_of_splitFirst? {path head rest : String}
    (h : splitFirst? path = some (head, rest)) :
    '.' ∉ head.toList ∧ path.toList = head.toList ++ '.' :: rest.toList := by
  unfold splitFirst? at h
  dsimp only at h
  split at h
  · cases h
  · rename_i c others hdrop
    cases h
    have hsplit := List.takeWhile_append_dropWhile (p := (· ≠ '.')) (l := path.toList)
    have hdot : c = '.' := by
      have hhead := List.head?_dropWhile_not (· ≠ '.') path.toList
      rw [hdrop] at hhead
      simpa using hhead
    rw [hdrop, hdot] at hsplit
    refine ⟨fun hmem => ?_, ?_⟩
    · rw [String.toList_ofList] at hmem
      simpa using List.all_eq_true.mp List.all_takeWhile '.' hmem
    · rw [String.toList_ofList, String.toList_ofList]
      exact hsplit.symm

/-- Only a text without dots does not split. -/
theorem no_dot_of_splitFirst?_eq_none {path : String} (h : splitFirst? path = none) :
    '.' ∉ path.toList := by
  intro hmem
  unfold splitFirst? at h
  dsimp only at h
  split at h
  · rename_i hdrop
    have hne := List.dropWhile_eq_nil_iff.mp hdrop '.' hmem
    simp at hne
  · cases h

/-- The part before the first dot is a segment, and the part behind it holds the others. -/
theorem segments_of_splitFirst? {path head rest : String}
    (h : splitFirst? path = some (head, rest)) : segments path = head :: segments rest := by
  obtain ⟨hdot, hpath⟩ := toList_of_splitFirst? h
  rw [segments, hpath, segmentsOf_append, segmentsOf_of_no_dot hdot]
  simp [segments]

/-- The part of a path before its first dot. -/
def first (path : String) : String := (segments path).headD ""

theorem first_of_splitFirst? {path head rest : String}
    (h : splitFirst? path = some (head, rest)) : first path = head := by
  rw [first, segments_of_splitFirst? h]
  rfl

/-- A longer path has the same first segment. -/
theorem first_append (path rest : String) : first (path ++ "." ++ rest) = first path := by
  cases hsegments : segments path with
  | nil => simp [segments, segmentsOf_ne_nil] at hsegments
  | cons head others => rw [first, first, segments_append, hsegments, List.cons_append]; rfl

end FormRules.Path
