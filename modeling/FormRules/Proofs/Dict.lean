import FormRules.Dict

/-!
Names and lookups of a dictionary: a name is listed exactly when it has a value, and a
dictionary collected from names and what belongs to them answers exactly these names.
Entries that are sorted already are collected as they are. So sorting names and leaving out
those that are repeated gives the names of a dictionary (`eraseReps_mergeSort`).
-/

namespace FormRules

universe u

variable {α : Type u}

namespace Entries

theorem mem_names_iff (name : String) (entries : List (String × α)) :
    name ∈ entries.map Prod.fst ↔ (get? name entries).isSome := by
  induction entries with
  | nil => simp [get?]
  | cons head rest ih =>
    obtain ⟨key, value⟩ := head
    by_cases hkey : key = name
    · simp [get?, hkey]
    · have hne : name ≠ key := fun h => hkey h.symm
      simp only [List.map_cons, List.mem_cons, get?, hkey, hne, false_or, if_false]
      exact ih

theorem mem_of_mem_insert {name : String} {value : α} {entry : String × α}
    {entries : List (String × α)} (h : entry ∈ insert name value entries) :
    entry = (name, value) ∨ entry ∈ entries := by
  induction entries with
  | nil => simpa [insert] using h
  | cons head rest ih =>
    obtain ⟨key, old⟩ := head
    simp only [insert] at h
    split at h
    · simpa using h
    · split at h
      · rcases List.mem_cons.mp h with h | h
        · exact .inl h
        · exact .inr (List.mem_cons_of_mem _ h)
      · rcases List.mem_cons.mp h with h | h
        · exact .inr (h ▸ List.mem_cons_self)
        · exact (ih h).imp_right (List.mem_cons_of_mem _)

/-- Every collected entry is one of the pairs. -/
theorem mem_of_mem_ofList {entry : String × α} {pairs : List (String × α)}
    (h : entry ∈ ofList pairs) : entry ∈ pairs := by
  suffices hfold : ∀ entries : List (String × α),
      entry ∈ pairs.foldl (fun entries pair => insert pair.1 pair.2 entries) entries →
        entry ∈ entries ∨ entry ∈ pairs from (hfold [] h).resolve_left (by simp)
  clear h
  induction pairs with
  | nil => exact fun entries => Or.inl
  | cons pair rest ih =>
    intro entries h
    rcases ih _ h with h | h
    · rcases mem_of_mem_insert h with rfl | h
      · exact .inr List.mem_cons_self
      · exact .inl h
    · exact .inr (List.mem_cons_of_mem _ h)

theorem insert_of_above {name : String} {value : α} {entries : List (String × α)}
    (h : ∀ entry ∈ entries, entry.1 < name) :
    insert name value entries = entries ++ [(name, value)] := by
  induction entries with
  | nil => rfl
  | cons head rest ih =>
    obtain ⟨key, old⟩ := head
    have hlt : key < name := h (key, old) List.mem_cons_self
    have hnot : ¬name < key := fun hgt => String.lt_irrefl key (String.lt_trans hlt hgt)
    have hne : key ≠ name := fun heq => hnot (heq ▸ hlt)
    rw [insert, if_neg hnot, if_neg hne, ih fun entry hmem => h entry (List.mem_cons_of_mem _ hmem),
      List.cons_append]

/-- Sorted entries are collected as they are. -/
theorem ofList_of_sorted {entries : List (String × α)} (h : Sorted entries) :
    ofList entries = entries := by
  suffices hfold : ∀ collected : List (String × α), Sorted (collected ++ entries) →
      entries.foldl (fun entries pair => insert pair.1 pair.2 entries) collected =
        collected ++ entries from hfold [] h
  clear h
  induction entries with
  | nil => simp
  | cons entry rest ih =>
    intro collected h
    have habove : ∀ other ∈ collected, other.1 < entry.1 := fun other hmem =>
      (List.pairwise_append.mp h).2.2 other hmem entry List.mem_cons_self
    have hsorted : Sorted (collected ++ [entry] ++ rest) := by
      rw [List.append_assoc]
      exact h
    rw [List.foldl_cons, insert_of_above habove, ih _ hsorted, List.append_assoc]
    rfl

end Entries

namespace Dict

theorem mem_keys_iff (dict : Dict α) (name : String) :
    name ∈ dict.keys ↔ dict.contains name = true :=
  Entries.mem_names_iff name dict.toList

theorem contains_insert (dict : Dict α) (name other : String) (value : α) :
    (dict.insert name value).contains other = (decide (name = other) || dict.contains other) := by
  unfold contains
  rw [get?_insert]
  by_cases h : name = other <;> simp [h]

theorem contains_insertNew (dict : Dict α) (name other : String) (value : α) :
    (dict.insertNew name value).contains other =
      (decide (name = other) || dict.contains other) := by
  unfold contains
  rw [get?_insertNew]
  by_cases h : name = other <;> simp [h]

/-- Reading with a default does not see where the default was filled in. -/
theorem getD_get?_insertNew (dict : Dict α) (name other : String) (value : α) :
    ((dict.insertNew name value).get? other).getD value = (dict.get? other).getD value := by
  rw [get?_insertNew]
  by_cases h : name = other
  · subst h
    simp
  · simp [h]

theorem get?_ofList_map (names : List String) (value : String → α) (name : String) :
    (ofList (names.map fun key => (key, value key))).get? name =
      if name ∈ names then some (value name) else none := by
  suffices h : ∀ entries : List (String × α),
      Entries.get? name ((names.map fun key => (key, value key)).foldl
        (fun entries pair => Entries.insert pair.1 pair.2 entries) entries) =
      if name ∈ names then some (value name) else Entries.get? name entries by
    exact h []
  induction names with
  | nil => simp
  | cons key rest ih =>
    intro entries
    simp only [List.map_cons, List.foldl_cons]
    rw [ih]
    by_cases hrest : name ∈ rest
    · simp [hrest]
    · by_cases hkey : key = name
      · subst hkey
        simp [hrest, Entries.get?_insert_self]
      · have hne : name ≠ key := fun h => hkey h.symm
        simp [hrest, hne, Entries.get?_insert_of_ne hkey]

/-- Names that are strictly ascending are listed as they are. -/
theorem keys_ofList_of_pairwise {names : List String} (h : names.Pairwise (· < ·))
    (value : String → α) : (ofList (names.map fun key => (key, value key))).keys = names := by
  have hsorted : Entries.Sorted (names.map fun key => (key, value key)) :=
    List.pairwise_map.mpr h
  change (Entries.ofList _).map Prod.fst = names
  rw [Entries.ofList_of_sorted hsorted, List.map_map]
  exact List.map_id names

end Dict

/-! ### Names without those that are repeated -/

namespace Names

/-- What is kept already stands in front of what is kept of the rest. -/
theorem eraseRepsBy_loop (first : String) (rest kept : List String) :
    List.eraseRepsBy.loop (· == ·) first rest kept =
      kept.reverse ++ List.eraseRepsBy.loop (· == ·) first rest [] := by
  induction rest generalizing first kept with
  | nil => simp [List.eraseRepsBy.loop]
  | cons second rest ih =>
    simp only [List.eraseRepsBy.loop]
    split
    · exact ih first kept
    · rw [ih second (first :: kept), ih second [first]]
      simp

/-- Of two equal neighbours one is left out. -/
theorem eraseReps_cons_cons (first second : String) (rest : List String) :
    (first :: second :: rest).eraseReps =
      if first = second then (second :: rest).eraseReps
      else first :: (second :: rest).eraseReps := by
  simp only [List.eraseReps, List.eraseRepsBy, List.eraseRepsBy.loop]
  by_cases h : first = second
  · simp [h]
  · rw [if_neg h, beq_false_of_ne h]
    exact eraseRepsBy_loop second rest [first]

theorem mem_eraseReps {name : String} {names : List String} :
    name ∈ names.eraseReps ↔ name ∈ names := by
  induction names with
  | nil => exact Iff.rfl
  | cons first rest ih =>
    cases rest with
    | nil => exact Iff.rfl
    | cons second rest =>
      rw [eraseReps_cons_cons]
      split
      · rename_i h
        rw [ih, h]
        simp
      · rw [List.mem_cons, ih, ← List.mem_cons]

/-- Of names in ascending order, those that are left are strictly ascending. -/
theorem pairwise_eraseReps {names : List String} (h : names.Pairwise (· ≤ ·)) :
    names.eraseReps.Pairwise (· < ·) := by
  induction names with
  | nil => exact List.Pairwise.nil
  | cons first rest ih =>
    obtain ⟨hfirst, hrest⟩ := List.pairwise_cons.mp h
    cases rest with
    | nil => exact List.pairwise_singleton _ _
    | cons second rest =>
      rw [eraseReps_cons_cons]
      split
      · exact ih hrest
      · rename_i hne
        -- The first name is below its neighbour, and so below all that come later.
        have hlt : first < second := Std.lt_of_le_of_ne (hfirst second List.mem_cons_self) hne
        refine List.pairwise_cons.mpr ⟨fun name hname => ?_, ih hrest⟩
        rcases List.mem_cons.mp (mem_eraseReps.mp hname) with rfl | hlater
        · exact hlt
        · exact Std.lt_of_lt_of_le hlt ((List.pairwise_cons.mp hrest).1 name hlater)

variable (names : List String)

theorem mem_eraseReps_mergeSort (name : String) :
    name ∈ (names.mergeSort fun a b => a ≤ b).eraseReps ↔ name ∈ names :=
  mem_eraseReps.trans List.mem_mergeSort

theorem pairwise_eraseReps_mergeSort :
    (names.mergeSort fun a b => a ≤ b).eraseReps.Pairwise (· < ·) := by
  have hsorted : (names.mergeSort fun a b => a ≤ b).Pairwise fun a b => decide (a ≤ b) = true := by
    apply List.pairwise_mergeSort
    · intro a b c hab hbc
      exact decide_eq_true (String.le_trans (of_decide_eq_true hab) (of_decide_eq_true hbc))
    · intro a b
      simpa using String.le_total a b
  exact pairwise_eraseReps (hsorted.imp of_decide_eq_true)

/-- The names that are left are those that a dictionary of them lists. -/
theorem eraseReps_mergeSort :
    (names.mergeSort fun a b => a ≤ b).eraseReps =
      (Dict.ofList (names.map fun name => (name, ()))).keys := by
  have hsame : Dict.ofList (names.map fun name => (name, ())) =
      Dict.ofList ((names.mergeSort fun a b => a ≤ b).eraseReps.map fun name => (name, ())) := by
    refine Dict.ext_get? fun name => ?_
    rw [Dict.get?_ofList_map, Dict.get?_ofList_map]
    simp only [mem_eraseReps_mergeSort]
  rw [hsame, Dict.keys_ofList_of_pairwise (pairwise_eraseReps_mergeSort names)]

end Names

end FormRules
