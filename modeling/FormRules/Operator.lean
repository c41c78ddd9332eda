import FormRules.EvalError

/-!
The vocabulary of comparison operators.
-/

namespace FormRules

inductive Operator where
  | equals
  | notEquals
  | greaterThan
  | greaterThanOrEqual
  | lessThan
  | lessThanOrEqual
  | contains
  | notContains
  | startsWith
  | endsWith
  | matchesRegex
  | notMatchesRegex
  | isIn
  | notIn
  | isEmpty
  | isNotEmpty
  | emailFormat
  | urlFormat
  | phoneFormat
  | creditCardFormat
  | uuidFormat
  | beforeDate
  | afterDate
  | isWeekend
  | isBusinessDay
  | between
  | notBetween
  | multipleOf
  | isInteger
  | lengthEquals
  | lengthGreaterThan
  | lengthLessThan
  deriving DecidableEq

namespace Operator

/-- Every operator, in the order of the vocabulary. -/
def all : List Operator := [
  equals, notEquals, greaterThan, greaterThanOrEqual, lessThan, lessThanOrEqual,
  contains, notContains, startsWith, endsWith, matchesRegex, notMatchesRegex,
  isIn, notIn, isEmpty, isNotEmpty, emailFormat, urlFormat, phoneFormat,
  creditCardFormat, uuidFormat, beforeDate, afterDate, isWeekend, isBusinessDay,
  between, notBetween, multipleOf, isInteger, lengthEquals, lengthGreaterThan,
  lengthLessThan]

/-- The name of an operator in rule definitions. -/
def name : Operator → String
  | equals => "equals"
  | notEquals => "not_equals"
  | greaterThan => "greater_than"
  | greaterThanOrEqual => "greater_than_or_equal"
  | lessThan => "less_than"
  | lessThanOrEqual => "less_than_or_equal"
  | contains => "contains"
  | notContains => "not_contains"
  | startsWith => "starts_with"
  | endsWith => "ends_with"
  | matchesRegex => "matches_regex"
  | notMatchesRegex => "not_matches_regex"
  | isIn => "in"
  | notIn => "not_in"
  | isEmpty => "is_empty"
  | isNotEmpty => "is_not_empty"
  | emailFormat => "email_format"
  | urlFormat => "url_format"
  | phoneFormat => "phone_format"
  | creditCardFormat => "credit_card_format"
  | uuidFormat => "uuid_format"
  | beforeDate => "before_date"
  | afterDate => "after_date"
  | isWeekend => "is_weekend"
  | isBusinessDay => "is_business_day"
  | between => "between"
  | notBetween => "not_between"
  | multipleOf => "multiple_of"
  | isInteger => "is_integer"
  | lengthEquals => "length_equals"
  | lengthGreaterThan => "length_greater_than"
  | lengthLessThan => "length_less_than"

/-- The operator of a name. -/
def ofName (name : String) : Except EvalError Operator :=
  match all.find? fun op => op.name == name with
  | some op => .ok op
  | none => .error (.unknownOperator name)

/-- Whether an operator looks at the field's value alone. -/
def isUnary : Operator → Bool
  | isEmpty | isNotEmpty | emailFormat | urlFormat | phoneFormat | creditCardFormat
  | uuidFormat | isWeekend | isBusinessDay | isInteger => true
  | _ => false

theorem ofName_name (op : Operator) : ofName op.name = .ok op := by
  cases op <;> rfl

end Operator

end FormRules
