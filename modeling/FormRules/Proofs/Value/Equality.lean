import FormRules.Proofs.Everywhere
import FormRules.Proofs.Value.Number
import Mathlib.Data.List.Forall2

/-!
Equality of values. It is symmetric, and a value equals itself exactly when there is no NaN in it.
It is transitive but for one thing: two integers that differ may both equal the double that they
become. Where this happens inside two values, and only there, they differ although both equal a
third one; it does not happen with integers up to `2 ^ 53` (`equality_laws`).
-/

namespace FormRules.Value

open Binary64

/-- Not itself a NaN; a list or a map may hold one. -/
def NotNaN : Value → Prop
  | float x => x.isNaN = false
  | _ => True

/-- A value in which there is no NaN. -/
def FreeOfNaN (value : Value) : Prop := value.Every NotNaN

/-- In some place inside, two values hold different integers that become the same double. -/
inductive MergesInside : Value → Value → Prop where
  | here {x y : Value} : x.Merges y ∨ y.Merges x → MergesInside x y
  | item {xs ys : List Value} {x y : Value} : (x, y) ∈ xs.zip ys → MergesInside x y →
      MergesInside (array xs) (array ys)
  | entry {xs ys : List (String × Value)} {x y : Value} :
      (x, y) ∈ (xs.map Prod.snd).zip (ys.map Prod.snd) → MergesInside x y →
      MergesInside (map xs) (map ys)

section Lists

theorem equalsItems_iff {xs ys : List Value} :
    equalsItems xs ys = true ↔ List.Forall₂ (fun x y => x.equals y = true) xs ys := by
  induction xs generalizing ys with
  | nil => cases ys <;> simp [equalsItems]
  | cons x rest ih => cases ys <;> simp [equalsItems, ih]

/-- Entries are equal when their names are the same and their values are equal. -/
theorem equalsEntries_iff {xs ys : List (String × Value)} :
    equalsEntries xs ys = true ↔
      xs.map Prod.fst = ys.map Prod.fst ∧
        List.Forall₂ (fun x y => x.equals y = true) (xs.map Prod.snd) (ys.map Prod.snd) := by
  induction xs generalizing ys with
  | nil => cases ys <;> simp [equalsEntries]
  | cons entry rest ih =>
    cases ys with
    | nil => simp [equalsEntries]
    | cons other more =>
      simp only [equalsEntries, Bool.and_eq_true, beq_iff_eq, ih, List.map_cons,
        List.cons.injEq, List.forall₂_cons]
      grind

theorem equals_array {xs : List Value} {value : Value} :
    (array xs).equals value = true ↔ ∃ ys, value = array ys ∧
      List.Forall₂ (fun x y => x.equals y = true) xs ys := by
  cases value <;> simp [equals, equalsItems_iff]

theorem equals_map {xs : List (String × Value)} {value : Value} :
    (map xs).equals value = true ↔ ∃ ys, value = map ys ∧ xs.map Prod.fst = ys.map Prod.fst ∧
      List.Forall₂ (fun x y => x.equals y = true) (xs.map Prod.snd) (ys.map Prod.snd) := by
  cases value <;> simp [equals, equalsEntries_iff]

end Lists

section Numbers

variable {left right : Value}

theorem exists_rank?_of_numEq {x y : Binary64} (h : x.numEq y = true) :
    ∃ a, x.rank? = some a ∧ y.rank? = some a := by
  unfold numEq at h
  cases hx : x.rank? with
  | none => simp [hx] at h
  | some a =>
    cases hy : y.rank? with
    | none => simp [hx, hy] at h
    | some b =>
      have hab : a = b := by simpa [hx, hy] using h
      exact ⟨a, rfl, hab ▸ rfl⟩

/-- A value that equals a number is a number, and it has the same place. -/
theorem exists_rank?_of_equals {x : Binary64} (hnumber : left.toBinary64? = some x)
    (h : left.equals right = true) : ∃ a, left.rank? = some a ∧ right.rank? = some a := by
  cases left with
  | int m =>
    cases right with
    | int n =>
      have hmn : m = n := by simpa [equals] using h
      exact ⟨_, rank?_int m, hmn ▸ rank?_int m⟩
    | float y => exact exists_rank?_of_numEq h
    | _ => cases h
  | float x =>
    cases right with
    | int n =>
      rw [equals, numEq_comm] at h
      exact exists_rank?_of_numEq h
    | float y => exact exists_rank?_of_numEq h
    | _ => cases h
  | _ => cases hnumber

/-- Numbers are equal exactly when they have one place and are not two integers that rounding
makes equal. -/
theorem equals_number_iff {a b : Int} (hleft : left.rank? = some a)
    (hright : right.rank? = some b) :
    left.equals right = true ↔ a = b ∧ ¬left.Merges right ∧ ¬right.Merges left := by
  rw [equals_iff_compareNumbers? hleft hright, compareNumbers?_eq_eq_iff hleft hright]

end Numbers

section Symmetry

theorem equalsItems_comm {xs : List Value} (h : ∀ x ∈ xs, ∀ y, x.equals y = y.equals x)
    (ys : List Value) : equalsItems xs ys = equalsItems ys xs := by
  induction xs generalizing ys with
  | nil => cases ys <;> rfl
  | cons x rest ih =>
    obtain ⟨hx, hrest⟩ := List.forall_mem_cons.mp h
    cases ys with
    | nil => rfl
    | cons y more => rw [equalsItems, equalsItems, hx y, ih hrest more]

theorem equalsEntries_comm {xs : List (String × Value)}
    (h : ∀ entry ∈ xs, ∀ y, entry.2.equals y = y.equals entry.2) (ys : List (String × Value)) :
    equalsEntries xs ys = equalsEntries ys xs := by
  induction xs generalizing ys with
  | nil => cases ys <;> rfl
  | cons entry rest ih =>
    obtain ⟨hentry, hrest⟩ := List.forall_mem_cons.mp h
    cases ys with
    | nil => rfl
    | cons other more =>
      rw [equalsEntries, equalsEntries, hentry other.2, ih hrest more, BEq.comm]

theorem equals_comm (left right : Value) : left.equals right = right.equals left := by
  induction left generalizing right with
  | array xs ih =>
    cases right with
    | array ys => exact equalsItems_comm ih ys
    | _ => rfl
  | map xs ih =>
    cases right with
    | map ys => exact equalsEntries_comm ih ys
    | _ => rfl
  | float x =>
    cases right with
    | float y => exact numEq_comm x y
    | _ => rfl
  | null => cases right <;> rfl
  | bool truth =>
    cases right with
    | bool other => exact BEq.comm
    | _ => rfl
  | int n =>
    cases right with
    | int m => exact BEq.comm
    | _ => rfl
  | string text =>
    cases right with
    | string other => exact BEq.comm
    | _ => rfl

end Symmetry

section Reflexivity

/-- A value equals itself exactly when no NaN is in it. -/
theorem equals_self_iff (value : Value) : value.equals value = true ↔ value.FreeOfNaN := by
  induction value with
  | array xs ih =>
    rw [equals, equalsItems_iff, List.forall₂_same, FreeOfNaN, every_array]
    simp only [NotNaN, true_and]
    exact forall₂_congr ih
  | map entries ih =>
    rw [equals, equalsEntries_iff, List.forall₂_same, FreeOfNaN, every_map]
    simp only [NotNaN, true_and, List.forall_mem_map]
    exact forall₂_congr ih
  | float x =>
    change x.numEq x = true ↔ x.isNaN = false
    refine ⟨fun h => ?_, numEq_self⟩
    cases x with
    | nan => cases h
    | signed negative place inRow => rfl
  | _ => exact iff_of_true (by simp [equals]) trivial

end Reflexivity

section Transitivity

theorem forall₂_equals_trans {xs ys zs : List Value}
    (ih : ∀ x ∈ xs, ∀ y z, x.equals y = true → y.equals z = true → ¬x.MergesInside z →
      x.equals z = true)
    (hxy : List.Forall₂ (fun x y => x.equals y = true) xs ys)
    (hyz : List.Forall₂ (fun y z => y.equals z = true) ys zs)
    (hnot : ∀ x z, (x, z) ∈ xs.zip zs → ¬x.MergesInside z) :
    List.Forall₂ (fun x z => x.equals z = true) xs zs := by
  induction hxy generalizing zs with
  | nil =>
    cases hyz
    exact .nil
  | cons hfirst hrest ihrest =>
    cases hyz with
    | cons hsecond hmore =>
      obtain ⟨ihfirst, ihtail⟩ := List.forall_mem_cons.mp ih
      exact .cons (ihfirst _ _ hfirst hsecond (hnot _ _ List.mem_cons_self))
        (ihrest ihtail hmore fun x z hmem => hnot x z (List.mem_cons_of_mem _ hmem))

/-- For numbers transitivity is that of places. -/
theorem equals_trans_number {x : Binary64} {a b c : Value} (hnumber : a.toBinary64? = some x)
    (hab : a.equals b = true) (hbc : b.equals c = true) (hnot : ¬a.MergesInside c) :
    a.equals c = true := by
  obtain ⟨place, ha, hb⟩ := exists_rank?_of_equals hnumber hab
  obtain ⟨y, hy, -⟩ := Option.bind_eq_some_iff.mp hb
  obtain ⟨other, hother, hc⟩ := exists_rank?_of_equals hy hbc
  have hplace : other = place := Option.some.inj (hother.symm.trans hb)
  rw [hplace] at hc
  exact (equals_number_iff ha hc).mpr
    ⟨rfl, fun h => hnot (.here (.inl h)), fun h => hnot (.here (.inr h))⟩

/-- Values that equal a third one are equal, if no integers are merged inside them. -/
theorem equals_trans {a b c : Value} (hab : a.equals b = true) (hbc : b.equals c = true)
    (hnot : ¬a.MergesInside c) : a.equals c = true := by
  induction a generalizing b c with
  | array xs ih =>
    obtain ⟨ys, rfl, hxy⟩ := equals_array.mp hab
    obtain ⟨zs, rfl, hyz⟩ := equals_array.mp hbc
    exact equals_array.mpr ⟨zs, rfl, forall₂_equals_trans (fun x hx y z => ih x hx) hxy hyz
      fun x z hmem h => hnot (.item hmem h)⟩
  | map xs ih =>
    obtain ⟨ys, rfl, hnames, hxy⟩ := equals_map.mp hab
    obtain ⟨zs, rfl, hmore, hyz⟩ := equals_map.mp hbc
    refine equals_map.mpr ⟨zs, rfl, hnames.trans hmore, forall₂_equals_trans ?_ hxy hyz
      fun x z hmem h => hnot (.entry hmem h)⟩
    exact List.forall_mem_map.mpr fun entry hmem y z => ih entry hmem
  | int n => exact equals_trans_number rfl hab hbc hnot
  | float x => exact equals_trans_number rfl hab hbc hnot
  | null =>
    cases b with
    | null => exact hbc
    | _ => cases hab
  | bool truth =>
    cases b with
    | bool other =>
      obtain rfl : truth = other := by simpa [equals] using hab
      exact hbc
    | _ => cases hab
  | string text =>
    cases b with
    | string other =>
      obtain rfl : text = other := by simpa [equals] using hab
      exact hbc
    | _ => cases hab

theorem not_equals_of_merges {left right : Value} (h : left.Merges right) :
    left.equals right = false := by
  cases h with
  | integers hlt =>
    simp only [equals, beq_eq_false_iff_ne]
    rintro rfl
    exact Int.lt_irrefl _ hlt

theorem not_equals_of_mergesInside {a c : Value} (h : a.MergesInside c) : a.equals c = false := by
  induction h with
  | here h =>
    rcases h with h | h
    · exact not_equals_of_merges h
    · rw [equals_comm]
      exact not_equals_of_merges h
  | item hmem _ ih =>
    refine Bool.eq_false_of_not_eq_true fun hequals => ?_
    have hitem := (List.forall₂_iff_zip.mp (equalsItems_iff.mp hequals)).2 hmem
    exact Bool.false_ne_true (ih.symm.trans hitem)
  | entry hmem _ ih =>
    refine Bool.eq_false_of_not_eq_true fun hequals => ?_
    have hvalue := (List.forall₂_iff_zip.mp (equalsEntries_iff.mp hequals).2).2 hmem
    exact Bool.false_ne_true (ih.symm.trans hvalue)

theorem not_mergesInside_of_exact {a c : Value} (ha : a.Every Exact) (hc : c.Every Exact) :
    ¬a.MergesInside c := by
  intro h
  induction h with
  | here h =>
    rcases h with h | h
    · exact not_merges_of_exact ha.self hc.self h
    · exact not_merges_of_exact hc.self ha.self h
  | item hmem _ ih =>
    obtain ⟨hleft, hright⟩ := List.of_mem_zip hmem
    exact ih ((every_array.mp ha).2 _ hleft) ((every_array.mp hc).2 _ hright)
  | entry hmem _ ih =>
    obtain ⟨hleft, hright⟩ := List.of_mem_zip hmem
    obtain ⟨first, hfirst, rfl⟩ := List.mem_map.mp hleft
    obtain ⟨second, hsecond, rfl⟩ := List.mem_map.mp hright
    exact ih ((every_map.mp ha).2 first hfirst) ((every_map.mp hc).2 second hsecond)

/-- Equality of values is reflexive but for NaN, and symmetric. It is transitive except where
two different integers become the same double, which integers up to `2 ^ 53` do not. -/
theorem equality_laws (a b c : Value) :
    (a.equals a = true ↔ a.FreeOfNaN) ∧
    a.equals b = b.equals a ∧
    (a.equals b = true → b.equals c = true → (a.equals c = true ↔ ¬a.MergesInside c)) ∧
    (a.equals b = true → b.equals c = true → a.Every Exact → c.Every Exact →
      a.equals c = true) := by
  refine ⟨equals_self_iff a, equals_comm a b, fun hab hbc => ⟨fun hac hmerges => ?_,
    equals_trans hab hbc⟩, fun hab hbc ha hc => ?_⟩
  · exact Bool.false_ne_true ((not_equals_of_mergesInside hmerges).symm.trans hac)
  · exact equals_trans hab hbc (not_mergesInside_of_exact ha hc)

/-- An order of `2.5` metres, whose count and width may be of either numeric type. -/
def orderLine (count width : Value) : Value :=
  map [("count", count), ("size", array [float (ofPlace false 0x4004000000000000), width])]

theorem orderLine_every_exact {count width : Value} (hcount : count.Every Exact)
    (hwidth : width.Every Exact) : (orderLine count width).Every Exact := by
  simp [orderLine, Every, EveryEntry, EveryItem, Exact, hcount, hwidth]

theorem orderLine_equals_through_doubles :
    let whole := orderLine (int 12) (int 3)
    let mixed := orderLine (float (ofInt 12)) (int 3)
    let other := orderLine (int 12) (float (ofInt 3))
    whole.Every Exact ∧ other.Every Exact ∧ whole.equals mixed = true ∧
      mixed.equals other = true ∧ whole.equals other = true := by
  have hwhole : (orderLine (int 12) (int 3)).Every Exact :=
    orderLine_every_exact (by simp only [Every, Exact]; decide)
      (by simp only [Every, Exact]; decide)
  have hother : (orderLine (int 12) (float (ofInt 3))).Every Exact :=
    orderLine_every_exact (by simp only [Every, Exact]; decide) (by simp only [Every, Exact])
  have hfirst : (orderLine (int 12) (int 3)).equals
      (orderLine (float (ofInt 12)) (int 3)) = true := by decide +kernel
  have hsecond : (orderLine (float (ofInt 12)) (int 3)).equals
      (orderLine (int 12) (float (ofInt 3))) = true := by decide +kernel
  obtain ⟨-, -, -, htrans⟩ := equality_laws (orderLine (int 12) (int 3))
    (orderLine (float (ofInt 12)) (int 3)) (orderLine (int 12) (float (ofInt 3)))
  exact ⟨hwhole, hother, hfirst, hsecond, htrans hfirst hsecond hwhole hother⟩

/-- `2 ^ 53` as a double, and as that double the next integer too. -/
def doubleOfTwoIntegers : Value := float (ofInt 9007199254740992)

/-- An integer and its successor that both equal one double. -/
theorem equals_not_transitive :
    (int 9007199254740992).FreeOfNaN ∧ doubleOfTwoIntegers.FreeOfNaN ∧
      (int 9007199254740993).FreeOfNaN ∧
      (int 9007199254740992).equals doubleOfTwoIntegers = true ∧
      doubleOfTwoIntegers.equals (int 9007199254740993) = true ∧
      (int 9007199254740992).equals (int 9007199254740993) = false := by
  have hfree : doubleOfTwoIntegers.FreeOfNaN := by
    simp only [FreeOfNaN, doubleOfTwoIntegers, Every, NotNaN]
    rfl
  refine ⟨trivial, hfree, trivial, ?_, ?_, ?_⟩
  all_goals decide +kernel

end Transitivity

end FormRules.Value
