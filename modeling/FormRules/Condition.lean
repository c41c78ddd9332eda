import FormRules.Expr
import FormRules.Operator

/-!
Conditions: comparisons of form fields, combined by connectives.
-/

namespace FormRules

/-- A comparison of a field's value, possibly transformed, with an operand. -/
structure Comparison where
  field : String
  operator : Operator
  operand : Expr
  transform : Option String := none

inductive Connective where
  | and
  | or
  /-- Negates its first condition; further ones are not looked at. -/
  | not
  deriving DecidableEq

inductive Condition where
  | comparison (comparison : Comparison)
  | group (connective : Connective) (children : List Condition)

namespace Condition

/-- A comparison. Unary operators are given the operand null. -/
def compare (field : String) (operator : Operator) (operand : Expr)
    (transform : Option String) : Condition :=
  comparison ⟨field, operator, if operator.isUnary then .literal .null else operand, transform⟩

/-- Holds when every child holds. -/
def all (children : List Condition) : Condition := group .and children

/-- Holds when some child holds. -/
def any (children : List Condition) : Condition := group .or children

def negate (condition : Condition) : Condition := group .not [condition]

/-- Joins two conditions. A left operand of the same connective takes the right one
as its last child. -/
def join (connective : Connective) (left right : Condition) : Condition :=
  match left with
  | comparison c => group connective [comparison c, right]
  | group own children =>
    if own = connective then group connective (children ++ [right])
    else group connective [group own children, right]

def and (left right : Condition) : Condition := join .and left right

def or (left right : Condition) : Condition := join .or left right

/-- The compared field of a condition that is a single comparison. -/
def field? : Condition → Option String
  | comparison c => some c.field
  | group _ _ => none

mutual

/-- Every compared field, from left to right. -/
def fields : Condition → List String
  | comparison c => [c.field]
  | group _ children => fieldsOfAll children

def fieldsOfAll : List Condition → List String
  | [] => []
  | child :: rest => fields child ++ fieldsOfAll rest

end

end Condition

def Connective.word : Connective → List Char
  | .and => "AND".toList
  | .or => "OR".toList
  | .not => "NOT".toList

def Comparison.write (c : Comparison) : List Char :=
  let transform :=
    match c.transform with
    | some name => ' ' :: '|' :: ' ' :: name.toList
    | none => []
  let operand := if c.operator.isUnary then [] else ' ' :: c.operand.write
  c.field.toList ++ transform ++ ' ' :: c.operator.name.toList ++ operand

namespace Condition

mutual

/-- The text of a condition. Groups stand in parentheses; a negation shows its first
child only. -/
def write : Condition → List Char
  | comparison c => c.write
  | group .not children => '(' :: ("NOT ".toList ++ writeFirst children ++ [')'])
  | group .and children => '(' :: (writeAll Connective.and.word children ++ [')'])
  | group .or children => '(' :: (writeAll Connective.or.word children ++ [')'])

def writeFirst : List Condition → List Char
  | [] => ['(', ')']
  | child :: _ => write child

/-- Conditions with a word between them. -/
def writeAll (word : List Char) : List Condition → List Char
  | [] => []
  | [child] => write child
  | child :: next :: rest =>
    write child ++ ' ' :: word ++ ' ' :: writeAll word (next :: rest)

end

def text (condition : Condition) : String := String.ofList condition.write

end Condition

end FormRules
