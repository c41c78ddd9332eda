import FormRules.Calendar.Moment
import FormRules.Value

/-!
The data one evaluation reads: the form's values and what the host adds. All of
it can be reached by dotted paths.
-/

namespace FormRules

/-- The values of a form's fields, by field name. -/
abbrev FormData := Dict Value

structure Context where
  formData : FormData := {}
  user : Option Value := none
  permissions : List String := []
  metadata : Dict Value := {}
  timestamp : Option Calendar.Moment := none
  custom : Dict Value := {}

namespace Context

instance : Inhabited Context := ⟨{}⟩

/-- The value of a form field. A name that is a key of the form data means that
entry; otherwise a dotted name is a path into the field before the first dot. -/
def field? (ctx : Context) (name : String) : Option Value :=
  match ctx.formData.get? name with
  | some value => some value
  | none =>
    match Path.splitFirst? name with
    | some (head, rest) => (ctx.formData.get? head).bind fun value => value.atPath? rest
    | none => none

/-- A section of the context as one value. -/
def section? (ctx : Context) (name : String) : Option Value :=
  if name = "formData" ∨ name = "form_data" then some (Value.ofDict ctx.formData)
  else if name = "metadata" then some (Value.ofDict ctx.metadata)
  else if name = "custom" then some (Value.ofDict ctx.custom)
  else if name = "user" then ctx.user
  else if name = "permissions" then some (Value.ofStrings ctx.permissions)
  else if name = "timestamp" then
    ctx.timestamp.map fun moment => Value.string (String.ofList moment.writeUtc)
  else none

/-- The value at a path into named values: an entry, and a path into that. -/
def entryAt? (entries : Dict Value) (path : String) : Option Value :=
  match Path.splitFirst? path with
  | some (name, rest) => (entries.get? name).bind fun value => value.atPath? rest
  | none => entries.get? path

/-- The value at a path into a section of the context. A permission is named by its position,
and nothing is inside the timestamp. -/
def insideSection? (ctx : Context) (name path : String) : Option Value :=
  if name = "formData" ∨ name = "form_data" then entryAt? ctx.formData path
  else if name = "metadata" then entryAt? ctx.metadata path
  else if name = "custom" then entryAt? ctx.custom path
  else if name = "user" then ctx.user.bind fun user => user.atPath? path
  else if name = "permissions" then
    (Path.index? path).bind fun i => ctx.permissions[i]?.map Value.string
  else none

/-- The value at a dotted path across the whole context. Its first segment names a section. -/
def lookup? (ctx : Context) (path : String) : Option Value :=
  match Path.splitFirst? path with
  | some (name, rest) => ctx.insideSection? name rest
  | none => ctx.section? path

end Context

end FormRules
