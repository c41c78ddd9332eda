/-!
What can go wrong when an expression is resolved or a condition evaluated.
-/

namespace FormRules

inductive EvalError where
  | unknownOperator (name : String)
  | unknownFunction (name : String)
  | functionFailed (name : String) (reason : String)
  deriving DecidableEq

namespace EvalError

/-- Whether the rule itself is at fault, and not the data it ran on. -/
def isDefinitionError : EvalError → Bool
  | unknownOperator _ => true
  | unknownFunction _ => true
  | functionFailed .. => false

def message : EvalError → String
  | unknownOperator name => "unknown operator '" ++ name ++ "'"
  | unknownFunction name => "unknown function '" ++ name ++ "'"
  | functionFailed name reason => "function '" ++ name ++ "' failed: " ++ reason

end EvalError

end FormRules
