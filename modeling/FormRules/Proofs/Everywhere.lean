import FormRules.Condition

/-!
Properties that hold everywhere inside a value, an expression or a condition: of the whole
and of every part. The induction principles give for a list of parts one hypothesis about
its members.
-/

namespace FormRules

namespace Value

@[elab_as_elim, induction_eliminator]
theorem induction {motive : Value → Prop} (null : motive null) (bool : ∀ truth, motive (bool truth))
    (int : ∀ number, motive (int number)) (float : ∀ number, motive (float number))
    (string : ∀ text, motive (string text))
    (array : ∀ items, (∀ item ∈ items, motive item) → motive (array items))
    (map : ∀ entries, (∀ entry ∈ entries, motive entry.2) → motive (map entries))
    (value : Value) : motive value :=
  @Value.rec motive (fun items => ∀ item ∈ items, motive item)
    (fun entries => ∀ entry ∈ entries, motive entry.2) (fun entry => motive entry.2)
    null bool int float string array map (by simp)
    (fun _ _ hfirst hrest => List.forall_mem_cons.mpr ⟨hfirst, hrest⟩) (by simp)
    (fun _ _ hfirst hrest => List.forall_mem_cons.mpr ⟨hfirst, hrest⟩) (fun _ _ h => h) value

mutual

/-- A property of a value and of all values inside it. -/
def Every (P : Value → Prop) : Value → Prop
  | array items => P (array items) ∧ EveryItem P items
  | map entries => P (map entries) ∧ EveryEntry P entries
  | value => P value

def EveryItem (P : Value → Prop) : List Value → Prop
  | [] => True
  | item :: rest => Every P item ∧ EveryItem P rest

def EveryEntry (P : Value → Prop) : List (String × Value) → Prop
  | [] => True
  | (_, value) :: rest => Every P value ∧ EveryEntry P rest

end

variable {P Q : Value → Prop}

theorem everyItem_iff {items : List Value} : EveryItem P items ↔ ∀ item ∈ items, item.Every P := by
  induction items with
  | nil => simp [EveryItem]
  | cons item rest ih => simp [EveryItem, ih]

theorem everyEntry_iff {entries : List (String × Value)} :
    EveryEntry P entries ↔ ∀ entry ∈ entries, entry.2.Every P := by
  induction entries with
  | nil => simp [EveryEntry]
  | cons entry rest ih => simp [EveryEntry, ih]

theorem every_array {items : List Value} :
    (array items).Every P ↔ P (array items) ∧ ∀ item ∈ items, item.Every P := by
  rw [Every, everyItem_iff]

theorem every_map {entries : List (String × Value)} :
    (map entries).Every P ↔ P (map entries) ∧ ∀ entry ∈ entries, entry.2.Every P := by
  rw [Every, everyEntry_iff]

theorem Every.self {value : Value} (h : value.Every P) : P value := by
  cases value with
  | array items => exact (every_array.mp h).1
  | map entries => exact (every_map.mp h).1
  | _ => exact h

/-- Two properties everywhere inside give a third one everywhere inside. -/
theorem Every.imp₂ {R : Value → Prop} {value : Value} (hp : value.Every P) (hq : value.Every Q)
    (h : ∀ v, P v → Q v → R v) : value.Every R := by
  induction value with
  | array items ih =>
    obtain ⟨hpself, hpitems⟩ := every_array.mp hp
    obtain ⟨hqself, hqitems⟩ := every_array.mp hq
    exact every_array.mpr ⟨h _ hpself hqself,
      fun item hmem => ih item hmem (hpitems item hmem) (hqitems item hmem)⟩
  | map entries ih =>
    obtain ⟨hpself, hpentries⟩ := every_map.mp hp
    obtain ⟨hqself, hqentries⟩ := every_map.mp hq
    exact every_map.mpr ⟨h _ hpself hqself,
      fun entry hmem => ih entry hmem (hpentries entry hmem) (hqentries entry hmem)⟩
  | _ => exact h _ hp hq

end Value

namespace Expr

@[elab_as_elim, induction_eliminator]
theorem induction {motive : Expr → Prop} (literal : ∀ value, motive (literal value))
    (field : ∀ name property, motive (field name property))
    (context : ∀ path, motive (context path))
    (call : ∀ name args, (∀ arg ∈ args, motive arg) → motive (call name args)) (e : Expr) :
    motive e :=
  @Expr.rec motive (fun args => ∀ arg ∈ args, motive arg) literal field context call (by simp)
    (fun _ _ hfirst hrest => List.forall_mem_cons.mpr ⟨hfirst, hrest⟩) e

mutual

/-- A property of an expression and of all expressions inside it. -/
def Every (P : Expr → Prop) : Expr → Prop
  | call name args => P (call name args) ∧ EveryArg P args
  | e => P e

def EveryArg (P : Expr → Prop) : List Expr → Prop
  | [] => True
  | arg :: rest => Every P arg ∧ EveryArg P rest

end

variable {P Q : Expr → Prop}

theorem everyArg_iff {args : List Expr} : EveryArg P args ↔ ∀ arg ∈ args, arg.Every P := by
  induction args with
  | nil => simp [EveryArg]
  | cons arg rest ih => simp [EveryArg, ih]

theorem every_call {name : String} {args : List Expr} :
    (call name args).Every P ↔ P (call name args) ∧ ∀ arg ∈ args, arg.Every P := by
  rw [Every, everyArg_iff]

theorem Every.imp₂ {R : Expr → Prop} {e : Expr} (hp : e.Every P) (hq : e.Every Q)
    (h : ∀ e, P e → Q e → R e) : e.Every R := by
  induction e with
  | call name args ih =>
    obtain ⟨hpself, hpargs⟩ := every_call.mp hp
    obtain ⟨hqself, hqargs⟩ := every_call.mp hq
    exact every_call.mpr ⟨h _ hpself hqself,
      fun arg hmem => ih arg hmem (hpargs arg hmem) (hqargs arg hmem)⟩
  | _ => exact h _ hp hq

end Expr

namespace Condition

@[elab_as_elim, induction_eliminator]
theorem induction {motive : Condition → Prop} (comparison : ∀ c, motive (comparison c))
    (group : ∀ connective children, (∀ child ∈ children, motive child) →
      motive (group connective children)) (condition : Condition) : motive condition :=
  @Condition.rec motive (fun children => ∀ child ∈ children, motive child) comparison group
    (by simp) (fun _ _ hfirst hrest => List.forall_mem_cons.mpr ⟨hfirst, hrest⟩) condition

mutual

/-- A property of a condition and of all conditions inside it. -/
def Every (P : Condition → Prop) : Condition → Prop
  | group connective children => P (group connective children) ∧ EveryChild P children
  | condition => P condition

def EveryChild (P : Condition → Prop) : List Condition → Prop
  | [] => True
  | child :: rest => Every P child ∧ EveryChild P rest

end

variable {P Q : Condition → Prop}

theorem everyChild_iff {children : List Condition} :
    EveryChild P children ↔ ∀ child ∈ children, child.Every P := by
  induction children with
  | nil => simp [EveryChild]
  | cons child rest ih => simp [EveryChild, ih]

theorem every_group {connective : Connective} {children : List Condition} :
    (group connective children).Every P ↔
      P (group connective children) ∧ ∀ child ∈ children, child.Every P := by
  rw [Every, everyChild_iff]

theorem Every.imp₂ {R : Condition → Prop} {condition : Condition} (hp : condition.Every P)
    (hq : condition.Every Q) (h : ∀ c, P c → Q c → R c) : condition.Every R := by
  induction condition with
  | comparison c => exact h _ hp hq
  | group connective children ih =>
    obtain ⟨hpself, hpchildren⟩ := every_group.mp hp
    obtain ⟨hqself, hqchildren⟩ := every_group.mp hq
    exact every_group.mpr ⟨h _ hpself hqself,
      fun child hmem => ih child hmem (hpchildren child hmem) (hqchildren child hmem)⟩

end Condition

end FormRules
