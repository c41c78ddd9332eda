import FormRules.Text.Quoted
import FormRules.Unicode.Blank
import FormRules.Unicode.Case
import FormRules.Value

/-!
The functions that expressions call and the transforms that comparisons apply to
a field's value, both by name.
-/

namespace FormRules

/-- A function gets its arguments and gives a value or a reason of failure. It is taken to be
pure: what it gives depends on the arguments alone, and calling it changes nothing. A host
function that keeps a count of its calls, or reads a clock, is outside of this. -/
abbrev HostFunction := List Value → Except String Value

/-- A transform turns a field's value into the one that is compared. It is pure as well. -/
abbrev Transform := Value → Value

structure Functions where
  functions : Dict HostFunction := {}
  transforms : Dict Transform := {}

namespace Functions

instance : Inhabited Functions := ⟨{}⟩

def empty : Functions := {}

def withFunction (fns : Functions) (name : String) (f : HostFunction) : Functions :=
  { fns with functions := fns.functions.insert name f }

def withTransform (fns : Functions) (name : String) (f : Transform) : Functions :=
  { fns with transforms := fns.transforms.insert name f }

def function? (fns : Functions) (name : String) : Option HostFunction :=
  fns.functions.get? name

def transform? (fns : Functions) (name : String) : Option Transform :=
  fns.transforms.get? name

/-- Changes strings and leaves every other value alone. -/
def onString (f : String → String) : Transform
  | .string text => .string (f text)
  | value => value

/-- The number that a value spells. A string is read as an integer if it is one,
else as a double; one that is neither becomes null. Truth values become 0 and 1. -/
def toNumber : Transform
  | .string text =>
    let chars := Unicode.trimChars text.toList
    match (Numeral.integer? chars).bind Numeral.toInt64? with
    | some n => .int n
    | none =>
      match Binary64.read? chars with
      | some x => .float x
      | none => .null
  | .bool truth => .int (if truth then 1 else 0)
  | value => value

/-- The transforms that every form has. -/
def builtin : Functions :=
  (((empty.withTransform "trim" (onString Unicode.trim)).withTransform
    "lowercase" (onString Unicode.toLower)).withTransform
    "uppercase" (onString Unicode.toUpper)).withTransform
    "to_number" toNumber

/-- The registered names, for diagnostics. -/
def describe (fns : Functions) : String :=
  let names (keys : List String) := "[" ++ String.intercalate ", " (keys.map Text.quoted) ++ "]"
  "Functions \x7b functions: " ++ names fns.functions.keys ++
    ", transforms: " ++ names fns.transforms.keys ++ " \x7d"

end Functions

end FormRules
