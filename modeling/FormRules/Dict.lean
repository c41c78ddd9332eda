/-!
Associations from names to values, kept in the order of the names. Names are
compared by code point, which is also the order of their UTF-8 bytes. A
dictionary is determined by what it answers: two dictionaries with the same
lookups are equal (`Dict.ext_get?`).
-/

namespace FormRules

universe u v

/-! Lists of entries carry the operations, so that a recursive type can hold
such a list directly. -/
namespace Entries

variable {α : Type u} {β : Type v}

/-- Entries are sorted when every name is strictly below the later ones. -/
def Sorted (entries : List (String × α)) : Prop :=
  entries.Pairwise (fun a b => a.1 < b.1)

/-- The value at a name: the first entry that carries it. -/
def get? (name : String) : List (String × α) → Option α
  | [] => none
  | (key, value) :: rest => if key = name then some value else get? name rest

/-- Sets the value at a name, in place when the name is present. -/
def insert (name : String) (value : α) : List (String × α) → List (String × α)
  | [] => [(name, value)]
  | (key, old) :: rest =>
    if name < key then (name, value) :: (key, old) :: rest
    else if key = name then (name, value) :: rest
    else (key, old) :: insert name value rest

/-- Removes a name. -/
def erase (name : String) : List (String × α) → List (String × α)
  | [] => []
  | (key, value) :: rest => if key = name then rest else (key, value) :: erase name rest

/-- Collects pairs into sorted entries; of two pairs with one name the later wins. -/
def ofList (pairs : List (String × α)) : List (String × α) :=
  pairs.foldl (fun entries pair => insert pair.1 pair.2 entries) []

theorem eq_of_not_lt_of_not_lt {a b : String} (hab : ¬a < b) (hba : ¬b < a) : a = b :=
  String.le_antisymm (String.not_lt.mp hba) (String.not_lt.mp hab)

theorem sorted_nil : Sorted ([] : List (String × α)) := List.Pairwise.nil

theorem name_mem_of_mem_insert {name key : String} {value : α}
    {entries : List (String × α)} (h : key ∈ (insert name value entries).map Prod.fst) :
    key = name ∨ key ∈ entries.map Prod.fst := by
  induction entries with
  | nil => simpa [insert] using h
  | cons head rest ih =>
    obtain ⟨k, old⟩ := head
    simp only [insert] at h
    split at h
    · simpa using h
    · split at h
      · rename_i _ hk
        simp only [List.map_cons, List.mem_cons] at h ⊢
        exact h.elim Or.inl (fun m => Or.inr (Or.inr m))
      · simp only [List.map_cons, List.mem_cons] at h ⊢
        rcases h with h | h
        · exact Or.inr (Or.inl h)
        · exact (ih h).elim Or.inl (fun m => Or.inr (Or.inr m))

theorem sorted_cons_iff {head : String × α} {rest : List (String × α)} :
    Sorted (head :: rest) ↔ (∀ key ∈ rest.map Prod.fst, head.1 < key) ∧ Sorted rest := by
  simp [Sorted, List.pairwise_cons]

theorem sorted_insert (name : String) (value : α) {entries : List (String × α)}
    (h : Sorted entries) : Sorted (insert name value entries) := by
  induction entries with
  | nil => simp [insert, Sorted]
  | cons head rest ih =>
    obtain ⟨key, old⟩ := head
    obtain ⟨below, tail⟩ := sorted_cons_iff.mp h
    simp only [insert]
    split
    · rename_i hlt
      refine sorted_cons_iff.mpr ⟨?_, h⟩
      intro k hk
      simp only [List.map_cons, List.mem_cons] at hk
      rcases hk with rfl | hk
      · exact hlt
      · exact String.lt_trans hlt (below k hk)
    · rename_i hnlt
      split
      · rename_i hkey
        subst hkey
        exact sorted_cons_iff.mpr ⟨below, tail⟩
      · rename_i hne
        refine sorted_cons_iff.mpr ⟨?_, ih tail⟩
        intro k hk
        rcases name_mem_of_mem_insert hk with rfl | hk
        · by_cases hlt : key < k
          · exact hlt
          · exact absurd (eq_of_not_lt_of_not_lt hlt hnlt) hne
        · exact below k hk

theorem sorted_erase (name : String) {entries : List (String × α)} (h : Sorted entries) :
    Sorted (erase name entries) := by
  induction entries with
  | nil => exact h
  | cons head rest ih =>
    obtain ⟨key, value⟩ := head
    obtain ⟨below, tail⟩ := sorted_cons_iff.mp h
    simp only [erase]
    split
    · exact tail
    · refine sorted_cons_iff.mpr ⟨?_, ih tail⟩
      intro k hk
      apply below k
      clear ih below h tail
      induction rest with
      | nil => simp [erase] at hk
      | cons head rest ih =>
        obtain ⟨key', value'⟩ := head
        simp only [erase] at hk
        split at hk
        · exact List.mem_cons_of_mem _ hk
        · simp only [List.map_cons, List.mem_cons] at hk ⊢
          exact hk.elim Or.inl (fun m => Or.inr (ih m))

theorem sorted_ofList (pairs : List (String × α)) : Sorted (ofList pairs) := by
  suffices h : ∀ entries : List (String × α), Sorted entries →
      Sorted (pairs.foldl (fun entries pair => insert pair.1 pair.2 entries) entries) from
    h [] sorted_nil
  induction pairs with
  | nil => intro entries h; exact h
  | cons pair rest ih => intro entries h; exact ih _ (sorted_insert pair.1 pair.2 h)

theorem get?_insert_self (name : String) (value : α) (entries : List (String × α)) :
    get? name (insert name value entries) = some value := by
  induction entries with
  | nil => simp [insert, get?]
  | cons head rest ih =>
    obtain ⟨key, old⟩ := head
    simp only [insert]
    split
    · simp [get?]
    · split
      · simp [get?]
      · rename_i hne
        simp [get?, hne, ih]

theorem get?_insert_of_ne {name other : String} (h : name ≠ other) (value : α)
    (entries : List (String × α)) :
    get? other (insert name value entries) = get? other entries := by
  induction entries with
  | nil => simp [insert, get?, h]
  | cons head rest ih =>
    obtain ⟨key, old⟩ := head
    simp only [insert]
    split
    · simp [get?, h]
    · split
      · rename_i hkey
        subst hkey
        simp [get?, h]
      · by_cases hk : key = other <;> simp [get?, hk, ih]

theorem get?_eq_none_of_below {name : String} {entries : List (String × α)}
    (h : ∀ key ∈ entries.map Prod.fst, name < key) : get? name entries = none := by
  induction entries with
  | nil => rfl
  | cons head rest ih =>
    obtain ⟨key, value⟩ := head
    have hlt : name < key := h key (by simp)
    have hne : key ≠ name := fun e => String.lt_irrefl name (by rwa [e] at hlt)
    rw [get?, if_neg hne]
    exact ih (fun k hk => h k (List.mem_cons_of_mem _ hk))

theorem get?_erase_self (name : String) {entries : List (String × α)} (h : Sorted entries) :
    get? name (erase name entries) = none := by
  induction entries with
  | nil => rfl
  | cons head rest ih =>
    obtain ⟨key, value⟩ := head
    obtain ⟨below, tail⟩ := sorted_cons_iff.mp h
    simp only [erase]
    split
    · rename_i hkey
      subst hkey
      exact get?_eq_none_of_below below
    · rename_i hne
      rw [get?, if_neg hne]
      exact ih tail

theorem get?_erase_of_ne {name other : String} (h : name ≠ other)
    (entries : List (String × α)) :
    get? other (erase name entries) = get? other entries := by
  induction entries with
  | nil => rfl
  | cons head rest ih =>
    obtain ⟨key, value⟩ := head
    simp only [erase]
    split
    · rename_i hkey
      subst hkey
      simp [get?, h]
    · by_cases hk : key = other <;> simp [get?, hk, ih]

/-- Sorted entries with equal lookups are the same list. -/
theorem eq_of_get? {xs ys : List (String × α)} (hx : Sorted xs) (hy : Sorted ys)
    (h : ∀ name, get? name xs = get? name ys) : xs = ys := by
  induction xs generalizing ys with
  | nil =>
    cases ys with
    | nil => rfl
    | cons head rest =>
      have := h head.1
      simp [get?] at this
  | cons x xs ih =>
    obtain ⟨k, v⟩ := x
    obtain ⟨xbelow, xtail⟩ := sorted_cons_iff.mp hx
    cases ys with
    | nil =>
      have := h k
      simp [get?] at this
    | cons y ys =>
      obtain ⟨l, w⟩ := y
      obtain ⟨ybelow, ytail⟩ := sorted_cons_iff.mp hy
      have hkl : k = l := by
        apply eq_of_not_lt_of_not_lt
        · intro hlt
          have hnone : get? k ((l, w) :: ys) = none := by
            apply get?_eq_none_of_below
            intro key hkey
            simp only [List.map_cons, List.mem_cons] at hkey
            rcases hkey with rfl | hkey
            · exact hlt
            · exact String.lt_trans hlt (ybelow key hkey)
          have := h k
          rw [hnone] at this
          simp [get?] at this
        · intro hlt
          have hnone : get? l ((k, v) :: xs) = none := by
            apply get?_eq_none_of_below
            intro key hkey
            simp only [List.map_cons, List.mem_cons] at hkey
            rcases hkey with rfl | hkey
            · exact hlt
            · exact String.lt_trans hlt (xbelow key hkey)
          have := h l
          rw [hnone] at this
          simp [get?] at this
      subst hkl
      have hvw : v = w := by
        have := h k
        simpa [get?] using this
      subst hvw
      congr 1
      apply ih xtail ytail
      intro name
      by_cases hname : k = name
      · subst hname
        rw [get?_eq_none_of_below xbelow, get?_eq_none_of_below ybelow]
      · have := h name
        simpa [get?, hname] using this

end Entries

/-- A finite association from names to values, in the order of the names. -/
structure Dict (α : Type u) where
  toList : List (String × α)
  sorted : Entries.Sorted toList

namespace Dict

variable {α : Type u} {β : Type v}

def empty : Dict α := ⟨[], Entries.sorted_nil⟩

instance : EmptyCollection (Dict α) := ⟨empty⟩
instance : Inhabited (Dict α) := ⟨empty⟩

def get? (dict : Dict α) (name : String) : Option α :=
  Entries.get? name dict.toList

def contains (dict : Dict α) (name : String) : Bool :=
  (dict.get? name).isSome

def insert (dict : Dict α) (name : String) (value : α) : Dict α :=
  ⟨Entries.insert name value dict.toList, Entries.sorted_insert name value dict.sorted⟩

def erase (dict : Dict α) (name : String) : Dict α :=
  ⟨Entries.erase name dict.toList, Entries.sorted_erase name dict.sorted⟩

/-- Sets a value only at a name that has none. -/
def insertNew (dict : Dict α) (name : String) (value : α) : Dict α :=
  if dict.contains name then dict else dict.insert name value

/-- Collects pairs; of two pairs with one name the later wins. -/
def ofList (pairs : List (String × α)) : Dict α :=
  ⟨Entries.ofList pairs, Entries.sorted_ofList pairs⟩

/-- The names that have a value, strictly ascending. -/
def keys (dict : Dict α) : List String :=
  dict.toList.map Prod.fst

def isEmpty (dict : Dict α) : Bool :=
  dict.toList.isEmpty

theorem get?_insert_self (dict : Dict α) (name : String) (value : α) :
    (dict.insert name value).get? name = some value :=
  Entries.get?_insert_self name value dict.toList

theorem get?_insert_of_ne (dict : Dict α) {name other : String} (h : name ≠ other) (value : α) :
    (dict.insert name value).get? other = dict.get? other :=
  Entries.get?_insert_of_ne h value dict.toList

theorem get?_insert (dict : Dict α) (name other : String) (value : α) :
    (dict.insert name value).get? other = if name = other then some value else dict.get? other := by
  by_cases h : name = other
  · subst h
    simp [get?_insert_self]
  · simp [get?_insert_of_ne dict h, h]

theorem get?_erase (dict : Dict α) (name other : String) :
    (dict.erase name).get? other = if name = other then none else dict.get? other := by
  by_cases h : name = other
  · subst h
    rw [if_pos rfl]
    exact Entries.get?_erase_self name dict.sorted
  · rw [if_neg h]
    exact Entries.get?_erase_of_ne h dict.toList

theorem get?_insertNew (dict : Dict α) (name other : String) (value : α) :
    (dict.insertNew name value).get? other =
      if name = other then some ((dict.get? name).getD value) else dict.get? other := by
  unfold insertNew contains
  cases hget : dict.get? name with
  | none => simp [get?_insert]
  | some old =>
    by_cases h : name = other
    · subst h
      simp [hget]
    · simp [h]

/-- A dictionary is determined by its lookups. -/
theorem ext_get? {xs ys : Dict α} (h : ∀ name, xs.get? name = ys.get? name) : xs = ys := by
  obtain ⟨xs, hx⟩ := xs
  obtain ⟨ys, hy⟩ := ys
  have : xs = ys := Entries.eq_of_get? hx hy h
  subst this
  rfl

end Dict

end FormRules
