import FormRules.Value

/-!
Expressions: what stands on the right of a comparison and in the payload of an
action. They are resolved when a rule is evaluated.
-/

namespace FormRules

inductive Expr where
  | literal (value : Value)
  /-- The value of a form field, or of a dotted property inside it. -/
  | field (name : String) (property : Option String)
  /-- The value at a dotted path into the context. -/
  | context (path : String)
  /-- A call of a registered function. -/
  | call (name : String) (args : List Expr)

namespace Expr

instance : Inhabited Expr := ⟨literal .null⟩

mutual

def write : Expr → List Char
  | literal value => value.write
  | field name none => '$' :: name.toList
  | field name (some property) => '$' :: (name.toList ++ '.' :: property.toList)
  | context path => '@' :: path.toList
  | call name args => name.toList ++ '(' :: (writeArgs args ++ [')'])

/-- Expressions separated by commas. -/
def writeArgs : List Expr → List Char
  | [] => []
  | [e] => write e
  | e :: f :: rest => write e ++ ',' :: ' ' :: writeArgs (f :: rest)

end

def text (e : Expr) : String := String.ofList e.write

end Expr

end FormRules
