import FormRules.Proofs.Condition.Algebra
import FormRules.Proofs.Everywhere
import FormRules.Proofs.RuleText.Source

/-!
The shapes of values, expressions and conditions that rule text can express. The entries of
every map are sorted, references and calls have identifiers as names, chains of a connective
have at least two conditions and are flattened on the left, and unary operators have the
operand null. Joining and negating conditions keeps these shapes.
-/

namespace FormRules

/-- A map has its entries sorted. -/
def Value.SortedMap : Value → Prop
  | .map entries => Entries.Sorted entries
  | _ => True

/-- The entries of every map inside are sorted. -/
def Value.Normal (value : Value) : Prop := value.Every SortedMap

/-- The words that are read as literals. -/
def RuleText.literalWords : List String := ["true", "false", "null"]

open RuleText

namespace Expr

/-- Names are identifiers, a reference to a field has no dot before its property, and a call
is not taken for a literal. -/
def WellNamed : Expr → Prop
  | literal _ => True
  | field name property => isIdentifier name = true ∧ '.' ∉ name.toList ∧
      ∀ path ∈ property, ∀ c ∈ path.toList, isIdentChar c = true
  | context path => isIdentifier path = true
  | call name _ => isIdentifier name = true ∧ name ∉ literalWords

def Readable (e : Expr) : Prop := e.Every WellNamed

/-- A property of an expression that is a literal. -/
def OfLiteral (P : Value → Prop) : Expr → Prop
  | literal value => P value
  | _ => True

/-- A property of all literals inside. -/
def Literals (P : Value → Prop) (e : Expr) : Prop := e.Every (OfLiteral P)

end Expr

/-- The field is a name, the transform an identifier, and a unary operator has the operand
null. -/
structure Comparison.Readable (c : Comparison) : Prop where
  field : isIdentifier c.field = true ∧ reserved.contains c.field = false
  transform : ∀ name ∈ c.transform, isIdentifier name = true
  operand : if c.operator.isUnary then c.operand = .literal .null else c.operand.Readable

namespace Condition

/-- The connective of a group. -/
def connective? : Condition → Option Connective
  | comparison _ => none
  | group connective _ => some connective

/-- A negation has one condition; another group has two or more, and the first of them is
no group of the same connective. -/
def WellShaped : Condition → Prop
  | comparison c => c.Readable
  | group .not children => children.length = 1
  | group connective children => 2 ≤ children.length ∧
      ∀ first ∈ children.head?, first.connective? ≠ some connective

def Readable (condition : Condition) : Prop := condition.Every WellShaped

/-- A property of the literals in a comparison. -/
def OfComparison (P : Value → Prop) : Condition → Prop
  | comparison c => c.operand.Literals P
  | group _ _ => True

/-- A property of all literals inside. -/
def Literals (P : Value → Prop) (condition : Condition) : Prop := condition.Every (OfComparison P)

variable {P : Condition → Prop} {left right condition : Condition} {connective : Connective}

theorem every_operands (h : condition.Every P) :
    ∀ child ∈ operands connective condition, child.Every P := by
  cases condition with
  | comparison c => simpa [operands] using h
  | group own children =>
    rw [operands]
    split
    · exact (every_group.mp h).2
    · simpa using h

theorem every_join (hleft : left.Every P) (hright : right.Every P)
    (hself : P (join connective left right)) : (join connective left right).Every P := by
  rw [join_eq] at hself ⊢
  refine every_group.mpr ⟨hself, ?_⟩
  simpa [or_imp, forall_and] using ⟨every_operands hleft, hright⟩

theorem every_negate (h : condition.Every P) (hself : P (negate condition)) :
    (negate condition).Every P :=
  every_group.mpr ⟨hself, by simpa using h⟩

/-- A condition brings at least one condition into a group, and the first one is no group
of that connective. -/
theorem operands_of_readable (hnot : connective ≠ .not) (h : condition.Readable) :
    ∃ first rest, operands connective condition = first :: rest ∧
      first.connective? ≠ some connective := by
  cases condition with
  | comparison c => exact ⟨_, [], rfl, by simp [connective?]⟩
  | group own children =>
    obtain ⟨hself, _⟩ := every_group.mp h
    by_cases heq : own = connective
    · subst heq
      rw [operands, if_pos rfl]
      cases children with
      | nil => cases own <;> simp [WellShaped] at hself hnot
      | cons first rest =>
        cases own with
        | not => exact absurd rfl hnot
        | and => exact ⟨first, rest, rfl, hself.2 first rfl⟩
        | or => exact ⟨first, rest, rfl, hself.2 first rfl⟩
    · rw [operands, if_neg heq]
      exact ⟨_, [], rfl, by simpa [connective?] using heq⟩

/-- Joining makes groups of at least two conditions, flattened on the left. -/
theorem readable_join (hnot : connective ≠ .not) (hleft : left.Readable)
    (hright : right.Readable) : (join connective left right).Readable := by
  refine every_join hleft hright ?_
  obtain ⟨first, rest, hoperands, hfirst⟩ := operands_of_readable hnot hleft
  rw [join_eq, hoperands]
  cases connective with
  | not => exact absurd rfl hnot
  | and => exact ⟨by simp, by simpa using hfirst⟩
  | or => exact ⟨by simp, by simpa using hfirst⟩

theorem readable_negate (h : condition.Readable) : (negate condition).Readable :=
  every_negate h rfl

theorem literals_join {P : Value → Prop} (hleft : left.Literals P) (hright : right.Literals P) :
    (join connective left right).Literals P := by
  refine every_join hleft hright ?_
  rw [join_eq]
  trivial

theorem literals_negate {P : Value → Prop} (h : condition.Literals P) :
    (negate condition).Literals P :=
  every_negate h trivial

end Condition

end FormRules
