import FormRules.Binary64.Decimal
import FormRules.Dict
import FormRules.Path

/-!
Form values. A missing value is not a value: it is `none` wherever a value may be
missing, and differs from the explicit `Value.null`. Integers and doubles are
one numeric family: they compare and equal each other by the integer's nearest
double.
-/

namespace FormRules

/-- A form value. The entries of a map are sorted by name (`Value.ofDict`). -/
inductive Value where
  | null
  | bool (truth : Bool)
  | int (number : Int64)
  | float (number : Binary64)
  | string (text : String)
  | array (items : List Value)
  | map (entries : List (String × Value))

namespace Value

instance : Inhabited Value := ⟨null⟩

/-- A map value with the entries of a dictionary. -/
def ofDict (dict : Dict Value) : Value := map dict.toList

/-- A list of strings. -/
def ofStrings (texts : List String) : Value := array (texts.map string)

mutual

/-- Equality of values: numbers by their numeric value, lists and maps entry by
entry. NaN equals nothing, so it is not reflexive. -/
def equals : Value → Value → Bool
  | null, null => true
  | bool a, bool b => a == b
  | int a, int b => a == b
  | float a, float b => a.numEq b
  | int a, float b => (Binary64.ofInt a.toInt).numEq b
  | float a, int b => (Binary64.ofInt b.toInt).numEq a
  | string a, string b => a == b
  | array xs, array ys => equalsItems xs ys
  | map xs, map ys => equalsEntries xs ys
  | _, _ => false

def equalsItems : List Value → List Value → Bool
  | [], [] => true
  | x :: xs, y :: ys => equals x y && equalsItems xs ys
  | _, _ => false

def equalsEntries : List (String × Value) → List (String × Value) → Bool
  | [], [] => true
  | (k, x) :: xs, (l, y) :: ys => k == l && equals x y && equalsEntries xs ys
  | _, _ => false

end

instance : BEq Value := ⟨equals⟩

/-- The equality of two possibly missing values. -/
def sameOption : Option Value → Option Value → Bool
  | none, none => true
  | some x, some y => x.equals y
  | _, _ => false

/-- Whether a list holds a value equal to a given one. -/
def isIn (value : Value) (items : List Value) : Bool :=
  items.any fun item => item.equals value

/-- The double that a number counts as. -/
def toBinary64? : Value → Option Binary64
  | int n => some (Binary64.ofInt n.toInt)
  | float x => some x
  | _ => none

def toString? : Value → Option String
  | string text => some text
  | _ => none

def toBool? : Value → Option Bool
  | bool truth => some truth
  | _ => none

def toItems? : Value → Option (List Value)
  | array items => some items
  | _ => none

def toEntries? : Value → Option (List (String × Value))
  | map entries => some entries
  | _ => none

def isNull : Value → Bool
  | null => true
  | _ => false

/-- The values that count as not filled in. -/
def isBlank : Value → Bool
  | null => true
  | string text => text.isEmpty
  | array items => items.isEmpty
  | map entries => entries.isEmpty
  | _ => false

/-- A whole number: an integer, or a finite double without a fraction. -/
def isInteger : Value → Bool
  | int _ => true
  | float x => x.isInteger
  | _ => false

/-- The characters of a string or the items of a list, counted. -/
def length? : Value → Option Nat
  | string text => some text.length
  | array items => some items.length
  | _ => none

/-- The order of two numbers: exact between integers, otherwise that of doubles. -/
def compareNumbers? : Value → Value → Option Ordering
  | int a, int b => some (compare a.toInt b.toInt)
  | x, y =>
    match x.toBinary64?, y.toBinary64? with
    | some a, some b => a.compare? b
    | _, _ => none

/-- One step along a path: a name in a map, a position in a list. -/
def child? (value : Value) (segment : String) : Option Value :=
  match value with
  | map entries => Entries.get? segment entries
  | array items => (Path.index? segment).bind fun i => items[i]?
  | _ => none

/-- Follows the segments of a path. -/
def descend? (value : Value) : List String → Option Value
  | [] => some value
  | segment :: rest => (value.child? segment).bind fun next => next.descend? rest

/-- The value at a dotted path. -/
def atPath? (value : Value) (path : String) : Option Value :=
  value.descend? (Path.segments path)

/-- The name of a value's type. -/
def typeName : Value → String
  | null => "null"
  | bool _ => "bool"
  | int _ => "int"
  | float _ => "float"
  | string _ => "string"
  | array _ => "array"
  | map _ => "map"

mutual

/-- The text of a value. Strings stand between quotes as they are, without
escapes. -/
def write : Value → List Char
  | null => "null".toList
  | bool truth => if truth then "true".toList else "false".toList
  | int n => Numeral.writeInt n.toInt
  | float x => x.write
  | string text => '"' :: (text.toList ++ ['"'])
  | array items => '[' :: (writeItems items ++ [']'])
  | map entries => '{' :: (writeEntries entries ++ ['}'])

/-- Values separated by commas. -/
def writeItems : List Value → List Char
  | [] => []
  | [x] => write x
  | x :: y :: rest => write x ++ ',' :: ' ' :: writeItems (y :: rest)

/-- Names and values separated by commas. -/
def writeEntries : List (String × Value) → List Char
  | [] => []
  | [(k, x)] => k.toList ++ ':' :: ' ' :: write x
  | (k, x) :: y :: rest =>
    k.toList ++ ':' :: ' ' :: (write x ++ ',' :: ' ' :: writeEntries (y :: rest))

end

def text (value : Value) : String := String.ofList value.write

theorem descend?_append (value : Value) (xs ys : List String) :
    value.descend? (xs ++ ys) = (value.descend? xs).bind fun next => next.descend? ys := by
  induction xs generalizing value with
  | nil => rfl
  | cons segment rest ih =>
    simp only [List.cons_append, descend?]
    cases value.child? segment with
    | none => rfl
    | some next => exact ih next

end Value

end FormRules
