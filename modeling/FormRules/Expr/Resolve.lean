import FormRules.Context
import FormRules.EvalError
import FormRules.Expr
import FormRules.Functions

/-!
The value of an expression in a context. A reference to something missing
resolves to `none`; only calls can fail.
-/

namespace FormRules.Expr

/-- The value that a field reference means: for a reference with a property the
entry under the full dotted name, else the property inside the field. -/
def fieldValue? (ctx : Context) (name : String) (property : Option String) : Option Value :=
  match property with
  | none => ctx.field? name
  | some path =>
    match ctx.formData.get? (name ++ "." ++ path) with
    | some value => some value
    | none => (ctx.field? name).bind fun value => value.atPath? path

mutual

/-- Resolves an expression. A call is refused before its arguments are looked at
when its function is not registered; arguments are resolved from left to right,
and a missing argument is passed as null. -/
def resolve (ctx : Context) (fns : Functions) : Expr → Except EvalError (Option Value)
  | literal value => .ok (some value)
  | field name property => .ok (fieldValue? ctx name property)
  | context path => .ok (ctx.lookup? path)
  | call name args =>
    match fns.function? name with
    | none => .error (.unknownFunction name)
    | some f =>
      match resolveArgs ctx fns args with
      | .error e => .error e
      | .ok values =>
        match f values with
        | .ok value => .ok (some value)
        | .error reason => .error (.functionFailed name reason)

def resolveArgs (ctx : Context) (fns : Functions) : List Expr → Except EvalError (List Value)
  | [] => .ok []
  | e :: rest =>
    match resolve ctx fns e with
    | .error err => .error err
    | .ok value =>
      match resolveArgs ctx fns rest with
      | .error err => .error err
      | .ok values => .ok (value.getD .null :: values)

end

end FormRules.Expr
