import FormRules.Calendar.Reading
import FormRules.Format.Card
import FormRules.Format.Email
import FormRules.Format.Phone
import FormRules.Format.Url
import FormRules.Format.Uuid
import FormRules.Operator
import FormRules.Pattern.Meaning
import FormRules.Value

/-!
What the operators mean. Each one decides for all operands, missing ones and
those of the wrong type included; what an operator cannot make sense of does not
hold, and neither does its negative form where that is an operator of its own.
-/

namespace FormRules

namespace Value

/-- The moment that a value means as a date: milliseconds since 1970, or a text in
one of the date forms. -/
def toMoment? : Value → Option Calendar.Moment
  | int n => Calendar.Moment.ofUnixMillis? n.toInt
  | float x => if x.isFinite then Calendar.Moment.ofUnixMillis? x.toInt64.toInt else none
  | string text => Calendar.moment? (Unicode.trimChars text.toList)
  | _ => none

/-- The day that a value falls on. A timestamp with an offset keeps its own local
day. -/
def toDay? (value : Value) : Option Int :=
  match value.toString?.bind fun text => Calendar.timestamp? (Unicode.trimChars text.toList) with
  | some zoned => some zoned.localMoment.day
  | none => value.toMoment?.map Calendar.Moment.day

/-- The order of two values as dates. -/
def compareDates? (left right : Value) : Option Ordering :=
  match left.toMoment?, right.toMoment? with
  | some l, some r => some (l.compare r)
  | _, _ => none

/-- The order of two values: as numbers if they have one, else as dates. -/
def order? (left right : Value) : Option Ordering :=
  (left.compareNumbers? right).orElse fun _ => left.compareDates? right

end Value

namespace Operator

/-- Both operands, when none is missing. -/
def both? (left right : Option Value) : Option (Value × Value) :=
  match left, right with
  | some l, some r => some (l, r)
  | _, _ => none

def order? (left right : Option Value) : Option Ordering :=
  (both? left right).bind fun (l, r) => l.order? r

def dateOrder? (left right : Option Value) : Option Ordering :=
  (both? left right).bind fun (l, r) => l.compareDates? r

/-- Both operands as the characters of strings. -/
def texts? (left right : Option Value) : Option (List Char × List Char) :=
  match left, right with
  | some (.string l), some (.string r) => some (l.toList, r.toList)
  | _, _ => none

/-- Whether a text occurs in another one. -/
def occursIn (part : List Char) : List Char → Bool
  | [] => part.isEmpty
  | c :: rest => part.isPrefixOf (c :: rest) || occursIn part rest

/-- A string holds its parts, a list its items. -/
def holdsPart (left right : Option Value) : Bool :=
  match left, right with
  | some (.string l), some (.string r) => occursIn r.toList l.toList
  | some (.array items), some value => value.isIn items
  | _, _ => false

/-- Whether a string holds a match of a pattern, unless the pattern is none. -/
def matches? (left right : Option Value) : Option Bool :=
  match left, right with
  | some (.string l), some (.string r) => (Pattern.ofText? r).map fun pattern => pattern.matchesIn l
  | _, _ => none

/-- Whether a value is among the items of a list. -/
def member? (left right : Option Value) : Option Bool :=
  match right with
  | some (.array items) => some (left.any fun value => value.isIn items)
  | _ => none

def isBlank (value : Option Value) : Bool :=
  value.all Value.isBlank

/-- Whether a string has a form. -/
def hasForm (form : List Char → Bool) (value : Option Value) : Bool :=
  match value with
  | some (.string text) => form text.toList
  | _ => false

def day? (value : Option Value) : Option Int :=
  value.bind Value.toDay?

/-- Whether a number lies in a range of two numbers, ends included. -/
def inRange? (left right : Option Value) : Option Bool :=
  match left, right with
  | some value, some (.array [low, high]) =>
    match value.toBinary64?, low.toBinary64?, high.toBinary64? with
    | some n, some min, some max =>
      if n.isNaN || min.isNaN || max.isNaN then none
      else some (min.numLe n && n.numLe max)
    | _, _, _ => none
  | _, _ => none

/-- Whether a number is a whole multiple of another one, which is not zero. -/
def isMultiple (left right : Option Value) : Bool :=
  match left, right with
  | some (.int l), some (.int r) => r.toInt != 0 && l.toInt % r.toInt == 0
  | some l, some r =>
    match l.toBinary64?, r.toBinary64? with
    | some a, some b => a.isMultipleOf b
    | _, _ => false
  | _, _ => false

/-- The order of a length and a number. -/
def lengthOrder? (left right : Option Value) : Option Ordering :=
  match left.bind Value.length?, right.bind Value.toBinary64? with
  | some length, some n => (Binary64.ofInt length).compare? n
  | _, _ => none

/-- Whether a field's value stands in the relation of an operator to an operand. -/
def holds (op : Operator) (left right : Option Value) : Bool :=
  match op with
  | equals => Value.sameOption left right
  | notEquals => !Value.sameOption left right
  | greaterThan => order? left right == some .gt
  | greaterThanOrEqual => (order? left right).any (· != .lt)
  | lessThan => order? left right == some .lt
  | lessThanOrEqual => (order? left right).any (· != .gt)
  | contains => holdsPart left right
  | notContains => !holdsPart left right
  | startsWith => (texts? left right).any fun (l, r) => r.isPrefixOf l
  | endsWith => (texts? left right).any fun (l, r) => r.isSuffixOf l
  | matchesRegex => matches? left right == some true
  | notMatchesRegex => matches? left right == some false
  | isIn => member? left right == some true
  | notIn => member? left right == some false
  | isEmpty => isBlank left
  | isNotEmpty => !isBlank left
  | emailFormat => hasForm Format.Email.isEmail left
  | urlFormat => hasForm Format.Url.isUrl left
  | phoneFormat => hasForm Format.Phone.isPhone left
  | creditCardFormat => hasForm Format.Card.isCard left
  | uuidFormat => hasForm Format.Uuid.isUuid left
  | beforeDate => dateOrder? left right == some .lt
  | afterDate => dateOrder? left right == some .gt
  | isWeekend => (day? left).any Calendar.isWeekendDay
  | isBusinessDay => (day? left).any fun day => !Calendar.isWeekendDay day
  | between => inRange? left right == some true
  | notBetween => inRange? left right == some false
  | multipleOf => isMultiple left right
  | isInteger => left.any Value.isInteger
  | lengthEquals => lengthOrder? left right == some .eq
  | lengthGreaterThan => lengthOrder? left right == some .gt
  | lengthLessThan => lengthOrder? left right == some .lt

end Operator

end FormRules
