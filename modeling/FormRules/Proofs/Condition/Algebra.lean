import FormRules.Condition.Evaluate

/-!
The algebra of conditions. With a failure taken for false, conjunction, disjunction and negation
of conditions are those of their truth, although joining flattens a left operand of the same
connective; and a condition compares the fields that its parts compare, from left to right
(`boolean_algebra`).
-/

namespace FormRules.Condition

/-- What a condition brings into a group of a connective. -/
def operands (connective : Connective) : Condition → List Condition
  | comparison c => [comparison c]
  | group own children => if own = connective then children else [group own children]

theorem join_eq (connective : Connective) (left right : Condition) :
    join connective left right = group connective (operands connective left ++ [right]) := by
  cases left with
  | comparison c => rfl
  | group own children =>
    unfold join operands
    dsimp only
    split <;> rfl

section Fields

theorem fieldsOfAll_eq_flatMap (children : List Condition) :
    fieldsOfAll children = children.flatMap fields := by
  induction children with
  | nil => rfl
  | cons child rest ih => rw [fieldsOfAll, ih, List.flatMap_cons]

theorem fields_group (connective : Connective) (children : List Condition) :
    (group connective children).fields = children.flatMap fields := by
  rw [fields, fieldsOfAll_eq_flatMap]

/-- Flattening loses no field and moves none. -/
theorem flatMap_fields_operands (connective : Connective) (condition : Condition) :
    (operands connective condition).flatMap fields = condition.fields := by
  cases condition with
  | comparison c => rw [operands, List.flatMap_singleton]
  | group own children =>
    rw [operands]
    split
    · rw [fields_group]
    · rw [List.flatMap_singleton]

theorem fields_join (connective : Connective) (left right : Condition) :
    (join connective left right).fields = left.fields ++ right.fields := by
  rw [join_eq, fields_group, List.flatMap_append, flatMap_fields_operands,
    List.flatMap_singleton]

end Fields

section Truth

variable {ctx : Context} {fns : Functions}

theorem holds_group (connective : Connective) (children : List Condition) :
    (group connective children).holds ctx fns =
      match connective with
      | .and => children.all (holds ctx fns)
      | .or => children.any (holds ctx fns)
      | .not => !(children.head?.any (holds ctx fns)) := by
  have hholds : ∀ truth, (group connective children).evaluate ctx fns = .ok truth →
      (group connective children).holds ctx fns = truth := by
    intro truth h
    simp [holds, h]
  exact hholds _ (evaluate_group ctx fns connective children)

theorem holds_negate (c : Condition) : c.negate.holds ctx fns = !c.holds ctx fns := by
  rw [negate, holds_group]
  simp

/-- A left operand may be flattened: its children hold together when it does. -/
theorem holds_and (left right : Condition) :
    (left.and right).holds ctx fns = (left.holds ctx fns && right.holds ctx fns) := by
  have hoperands : (operands .and left).all (holds ctx fns) = left.holds ctx fns := by
    cases left with
    | comparison c => simp [operands]
    | group own children => cases own <;> simp [operands, holds_group]
  rw [Condition.and, join_eq, holds_group]
  simp [hoperands]

theorem holds_or (left right : Condition) :
    (left.or right).holds ctx fns = (left.holds ctx fns || right.holds ctx fns) := by
  have hoperands : (operands .or left).any (holds ctx fns) = left.holds ctx fns := by
    cases left with
    | comparison c => simp [operands]
    | group own children => cases own <;> simp [operands, holds_group]
  rw [Condition.or, join_eq, holds_group]
  simp [hoperands]

theorem all_holds_map_negate (children : List Condition) :
    (children.map negate).all (holds ctx fns) = !children.any (holds ctx fns) := by
  rw [List.all_map, List.not_any_eq_all_not]
  exact List.all_congr rfl fun child => holds_negate child

theorem any_holds_map_negate (children : List Condition) :
    (children.map negate).any (holds ctx fns) = !children.all (holds ctx fns) := by
  rw [List.any_map, List.not_all_eq_any_not]
  exact List.any_congr rfl fun child => holds_negate child

end Truth

/-- Conditions obey the laws of truth values, and list their fields part by part. The conditions
are arbitrary: they may fail, be groups of the connective that joins them, or be groups without
children. -/
theorem boolean_algebra (ctx : Context) (fns : Functions) (a b : Condition)
    (children : List Condition) :
    ((a.and b).holds ctx fns = (a.holds ctx fns && b.holds ctx fns) ∧
        (a.or b).holds ctx fns = (a.holds ctx fns || b.holds ctx fns) ∧
        a.negate.holds ctx fns = !a.holds ctx fns ∧
        (all children).negate.holds ctx fns = (any (children.map negate)).holds ctx fns ∧
        (any children).negate.holds ctx fns = (all (children.map negate)).holds ctx fns) ∧
      (a.and b).fields = a.fields ++ b.fields ∧
        (a.or b).fields = a.fields ++ b.fields ∧
        (all children).fields = children.flatMap fields := by
  refine ⟨⟨holds_and a b, holds_or a b, holds_negate a, ?notAll, ?notAny⟩,
    fields_join .and a b, fields_join .or a b, fields_group .and children⟩
  case notAll =>
    rw [holds_negate, all, any, holds_group, holds_group]
    exact (any_holds_map_negate children).symm
  case notAny =>
    rw [holds_negate, all, any, holds_group, holds_group]
    exact (all_holds_map_negate children).symm

end FormRules.Condition
