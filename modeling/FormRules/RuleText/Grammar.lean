import FormRules.Rule
import FormRules.RuleText.Token

/-!
The grammar of rule text. A rule is
`rule id "title" on subject (note) … : when condition then action, …`
where title, subject and notes may be missing. Conditions are comparisons
combined by `OR`, `AND` and `NOT`, which bind in this order from loose to tight.
-/

namespace FormRules.RuleText

open Reader

/-- A character between blanks. -/
def spaced (c : Char) : Reader Unit := do
  blanks
  let _ ← char c
  blanks

/-- A closing character after blanks, which must be there. -/
def closing (c : Char) : Reader Unit := do
  blanks
  let _ ← commit (char c)

/-- The end of a list: blanks, possibly a last comma, and the closing character. -/
def listEnd (c : Char) : Reader Unit := do
  blanks
  let _ ← optional (after (char ',') blanks)
  let _ ← commit (char c)

/-- An opening character and blanks. -/
def opening (c : Char) : Reader Unit := do
  let _ ← char c
  blanks

/-- A name, a colon and a literal. -/
def mapEntry (literal : Reader Value) : Reader (String × Value) := do
  let key ← orElse quotedString ident
  blanks
  let _ ← commit (char ':')
  blanks
  let value ← commit literal
  return (key, value)

/-- A literal, given the reader of the literals inside it. -/
def literalWith (inner : Reader Value) : Reader Value :=
  label .literal <|
    orElse (map Value.string quotedString) <|
    orElse (map (fun _ => Value.bool true) (keyword "true")) <|
    orElse (map (fun _ => Value.bool false) (keyword "false")) <|
    orElse (map (fun _ => Value.null) (keyword "null")) <|
    orElse number <|
    orElse
      (map Value.array (between (opening '[') (listEnd ']') (separated (spaced ',') inner)))
      (map (fun entries => Value.map (Entries.ofList entries))
        (between (opening '\x7b') (listEnd '\x7d') (separated (spaced ',') (mapEntry inner))))

def literal : Reader Value := fix literalWith

/-- A reference to a field: its name up to the first dot, and a property after it. -/
def fieldReference : Reader Expr := do
  let _ ← char '$'
  let path ← commit ident
  match Path.splitFirst? path with
  | some (field, property) => return .field field (some property)
  | none => return .field path none

def contextReference : Reader Expr := do
  let _ ← char '@'
  let path ← commit ident
  return .context path

def functionCall (argument : Reader Expr) : Reader Expr := do
  let name ← ident
  let args ← between (opening '(') (closing ')') (separated (spaced ',') argument)
  return .call name args

/-- An expression, given the reader of the arguments inside it. -/
def exprWith (argument : Reader Expr) : Reader Expr := do
  blanks
  label .value <|
    orElse fieldReference <|
    orElse contextReference <|
    orElse (map Expr.literal literal) (functionCall argument)

def expr : Reader Expr := fix exprWith

/-- The name of an operator: a run of lower-case letters and underscores. -/
def operator : Reader Operator :=
  label .operator <|
    refine
      (fun word =>
        match Operator.ofName (String.ofList word) with
        | .ok op => .ok op
        | .error e => .error (some e))
      (run1 fun c => c.isLower || c == '_')

/-- A field, possibly a transform after a bar, an operator, and an operand unless the
operator is unary. -/
def comparison : Reader Condition := do
  let field ← name
  let transform ← optional (after (spaced '|') (commit ident))
  blanks
  let op ← commit operator
  if op.isUnary then
    return .comparison ⟨field, op, .literal .null, transform⟩
  else
    let operand ← commit expr
    return .comparison ⟨field, op, operand, transform⟩

/-- One of two spellings of a connective, after blanks. -/
def connectiveWord (upper lower : String) : Reader Unit := do
  blanks
  orElse (keyword upper) (keyword lower)

/-- Conditions joined by a connective, from left to right. -/
def chain (word : Reader Unit) (join : Condition → Condition → Condition)
    (part : Reader Condition) : Reader Condition := do
  let first ← part
  let others ← many (after word (commit part))
  return others.foldl join first

/-- A condition, given the reader of what `NOT`, `AND` and `OR` connect. -/
def conditionWith (unary : Reader Condition) : Reader Condition := do
  blanks
  chain (connectiveWord "OR" "or") Condition.or
    (chain (connectiveWord "AND" "and") Condition.and unary)

/-- A condition in parentheses. -/
def grouped (unary : Reader Condition) : Reader Condition :=
  between (char '(') (closing ')') (conditionWith unary)

/-- A condition in parentheses or a comparison. -/
def primary (unary : Reader Condition) : Reader Condition := do
  blanks
  label .condition (orElse (grouped unary) comparison)

/-- A possibly negated condition, given the reader of those inside it. -/
def unaryWith (inner : Reader Condition) : Reader Condition := do
  blanks
  let negation ← optional (orElse (keyword "NOT") (keyword "not"))
  match negation with
  | some _ => map Condition.negate (commit inner)
  | none => primary inner

def unary : Reader Condition := fix unaryWith

def condition : Reader Condition := conditionWith unary

/-- The field an action is directed to, if one is named. -/
def target : Reader (Option String) := optional (after blanks name)

/-- An equals sign and an expression. -/
def assigned : Reader Expr := after (spaced '=') (commit expr)

/-- A quoted string after blanks. -/
def quoted : Reader String :=
  label .quotedString (after blanks (commit quotedString))

/-- Names and literals in parentheses. -/
def params : Reader (Dict Value) :=
  map Dict.ofList
    (between (spaced '(') (closing ')') (separated (spaced ',') (mapEntry literal)))

/-- What follows the word that begins an action. -/
def actionAfter (word : String) : Reader Action :=
  let targeted (kind : ActionKind) : Reader Action := do
    let target ← target
    return ⟨kind, target⟩
  let withExpr (kind : Expr → ActionKind) : Reader Action := do
    let target ← target
    let e ← assigned
    return ⟨kind e, target⟩
  let withText (kind : String → ActionKind) : Reader Action := do
    let target ← target
    let text ← quoted
    return ⟨kind text, target⟩
  match word with
  | "show" => targeted .show
  | "hide" => targeted .hide
  | "enable" => targeted .enable
  | "disable" => targeted .disable
  | "require" => targeted (.setValue none (some true))
  | "optional" => targeted (.setValue none (some false))
  | "set_value" => withExpr fun e => .setValue (some e) none
  | "clear_value" => targeted .clearValue
  | "show_warning" => withText .showWarning
  | "show_error" => withText .showError
  | "add_class" => withText .addClass
  | "remove_class" => withText .removeClass
  | "set_options" => withExpr .setOptions
  | "trigger_validation" => targeted .triggerValidation
  | "custom" => do
    let name ← after blanks (commit ident)
    let params ← optional params
    let value ← optional assigned
    return ⟨.custom name value (params.getD {}), none⟩
  | _ => abort

def action : Reader Action := do
  blanks
  let word ← label .action ident
  actionAfter word

/-- What a rule says about itself in parentheses. -/
inductive RuleNote where
  | priority (priority : Int32)
  | debounce (millis : UInt64)
  | disabled

def ruleNote : Reader RuleNote :=
  between (spaced '(') (closing ')') <|
    label .ruleNote <|
      commit <|
        orElse
          (map RuleNote.priority
            (after (keyword "priority") (after blanks int32))) <|
        orElse
          (map RuleNote.debounce
            (after (keyword "debounce") (after blanks uint64)))
          (map (fun _ => RuleNote.disabled) (keyword "disabled"))

/-- Takes a note into a rule. Of several notes of one kind the last one counts. -/
def RuleNote.apply (rule : Rule) : RuleNote → Rule
  | priority n => { rule with priority := some n }
  | debounce millis => { rule with debounce := some millis }
  | disabled => { rule with enabled := false }

/-- One rule. -/
def rule : Reader Rule := do
  blanks
  keyword "rule"
  blanks
  let id ← label .ruleId (commit name)
  let title ← optional (after blanks quotedString)
  let subject ← optional
    (after (do blanks; keyword "on"; blanks) (commit name))
  let notes ← many ruleNote
  blanks
  let _ ← commit (char ':')
  blanks
  label (.keyword "when") (commit (keyword "when"))
  let condition ← commit condition
  label (.keyword "then") (do blanks; commit (keyword "then"))
  let actions ← commit (separated1 (do blanks; let _ ← char ',') action)
  return notes.foldl RuleNote.apply
    { id := some id, title, subject, condition, actions }

/-- A file of rules. -/
def rules : Reader (List Rule) := do
  let rules ← many rule
  blanks
  return rules

/-- A condition with blanks around it. -/
def wholeCondition : Reader Condition := do
  let condition ← condition
  blanks
  return condition

end FormRules.RuleText
