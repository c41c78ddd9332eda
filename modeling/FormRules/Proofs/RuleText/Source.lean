import FormRules.RuleText.Grammar

/-!
Rule text for rules. What is written here is meant to be read again: unlike the texts for
display (`Condition.text`, `Value.text`), strings have their quotes and backslashes escaped,
and names of map entries that are no identifiers stand between quotes. Groups of conditions
stand in parentheses.
-/

namespace FormRules

namespace RuleText

/-- Whether a word can be read as an identifier. -/
def isIdentifier (word : String) : Bool :=
  match word.toList with
  | [] => false
  | c :: rest => isIdentStart c && rest.all isIdentChar

/-- Texts with a separator between them. -/
def joinWith (separator : List Char) : List (List Char) → List Char
  | [] => []
  | [text] => text
  | text :: next :: rest => text ++ (separator ++ joinWith separator (next :: rest))

/-- Texts with commas between them. -/
def joinCommas (texts : List (List Char)) : List Char := joinWith [',', ' '] texts

/-- How a character stands in a string. -/
def escape (c : Char) : List Char := if c = '"' ∨ c = '\\' then ['\\', c] else [c]

/-- A string between quotes. -/
def quote (text : String) : List Char := '"' :: (text.toList.flatMap escape ++ ['"'])

/-- The name of a map entry, between quotes unless it is an identifier. -/
def keySource (name : String) : List Char :=
  if isIdentifier name then name.toList else quote name

/-- Something that may be missing, after a lead. -/
def optionSource {α : Type} (lead : String) (source : α → List Char) (item : Option α) :
    List Char :=
  match item with
  | some item => lead.toList ++ source item
  | none => []

end RuleText

open RuleText

namespace Value

mutual

def source : Value → List Char
  | string text => quote text
  | array items => '[' :: (joinCommas (sources items) ++ [']'])
  | map entries => '{' :: (joinCommas (entrySources entries) ++ ['}'])
  | value => value.write

def sources : List Value → List (List Char)
  | [] => []
  | value :: rest => source value :: sources rest

def entrySources : List (String × Value) → List (List Char)
  | [] => []
  | (name, value) :: rest =>
    (keySource name ++ ':' :: ' ' :: source value) :: entrySources rest

end

/-- The text of a map entry. -/
def entrySource (entry : String × Value) : List Char :=
  keySource entry.1 ++ ':' :: ' ' :: entry.2.source

theorem sources_eq_map (items : List Value) : sources items = items.map source := by
  induction items with
  | nil => rfl
  | cons item rest ih => rw [sources, ih, List.map_cons]

theorem entrySources_eq_map (entries : List (String × Value)) :
    entrySources entries = entries.map entrySource := by
  induction entries with
  | nil => rfl
  | cons entry rest ih =>
    obtain ⟨name, value⟩ := entry
    rw [entrySources, ih, List.map_cons]
    rfl

end Value

namespace Expr

mutual

def source : Expr → List Char
  | literal value => value.source
  | field name none => '$' :: name.toList
  | field name (some property) => '$' :: (name.toList ++ '.' :: property.toList)
  | context path => '@' :: path.toList
  | call name args => name.toList ++ '(' :: (joinCommas (sources args) ++ [')'])

def sources : List Expr → List (List Char)
  | [] => []
  | e :: rest => source e :: sources rest

end

theorem sources_eq_map (args : List Expr) : sources args = args.map source := by
  induction args with
  | nil => rfl
  | cons arg rest ih => rw [sources, ih, List.map_cons]

end Expr

def Comparison.source (c : Comparison) : List Char :=
  c.field.toList ++ optionSource " | " String.toList c.transform ++
    ' ' :: c.operator.name.toList ++
    (if c.operator.isUnary then [] else ' ' :: c.operand.source)

namespace Condition

mutual

def source : Condition → List Char
  | comparison c => c.source
  | group .not children =>
    '(' :: ("NOT ".toList ++ ((sources children).headD ['(', ')'] ++ [')']))
  | group .and children => '(' :: (joinWith " AND ".toList (sources children) ++ [')'])
  | group .or children => '(' :: (joinWith " OR ".toList (sources children) ++ [')'])

def sources : List Condition → List (List Char)
  | [] => []
  | child :: rest => source child :: sources rest

end

theorem sources_eq_map (children : List Condition) : sources children = children.map source := by
  induction children with
  | nil => rfl
  | cons child rest ih => rw [sources, ih, List.map_cons]

end Condition

/-- Parameters in parentheses, if there are any. -/
def RuleText.paramsSource (params : Dict Value) : List Char :=
  if params.isEmpty then []
  else '(' :: (joinCommas (params.toList.map Value.entrySource) ++ [')'])

/-- The word an action begins with, and what follows its target. -/
def ActionKind.source : ActionKind → String × List Char
  | .setValue none (some true) => ("require", [])
  | .setValue none (some false) => ("optional", [])
  | .setValue value _ => ("set_value", optionSource " = " Expr.source value)
  | .showWarning message => ("show_warning", ' ' :: quote message)
  | .showError message => ("show_error", ' ' :: quote message)
  | .addClass cls => ("add_class", ' ' :: quote cls)
  | .removeClass cls => ("remove_class", ' ' :: quote cls)
  | .setOptions options => ("set_options", " = ".toList ++ options.source)
  | .custom name value params =>
    ("custom",
      ' ' :: (name.toList ++ (paramsSource params ++ optionSource " = " Expr.source value)))
  | kind => (kind.name, [])

def Action.source (action : Action) : List Char :=
  action.kind.source.1.toList ++ optionSource " " String.toList action.target ++
    action.kind.source.2

/-- What a note says inside its parentheses. -/
def RuleText.RuleNote.words : RuleNote → List Char
  | priority n => "priority".toList ++ ' ' :: Numeral.writeInt n.toInt
  | debounce millis => "debounce".toList ++ ' ' :: Numeral.writeNat millis.toNat
  | disabled => "disabled".toList

def RuleText.RuleNote.source (note : RuleNote) : List Char := ' ' :: '(' :: (note.words ++ [')'])

namespace Rule

/-- What a rule says about itself in parentheses. -/
def notes (rule : Rule) : List RuleNote :=
  rule.priority.toList.map .priority ++ (rule.debounce.toList.map .debounce ++
    if rule.enabled then [] else [.disabled])

/-- The condition and the actions of a rule. -/
def bodySource (rule : Rule) : List Char :=
  ':' :: ("\n    ".toList ++ ("when".toList ++ ' ' :: (rule.condition.source ++
    ("\n    ".toList ++ ("then".toList ++
      ' ' :: joinCommas (rule.actions.map Action.source))))))

def source (rule : Rule) : List Char :=
  "rule".toList ++ ' ' :: ((rule.id.getD "").toList ++
    (optionSource " " quote rule.title ++
      (optionSource " on " String.toList rule.subject ++
        (rule.notes.flatMap RuleNote.source ++ rule.bodySource))))

end Rule

/-- A file of rules. -/
def RuleText.writeRules (rules : List Rule) : String :=
  String.ofList (joinWith ['\n', '\n'] (rules.map Rule.source))

end FormRules
