import FormRules.RuleText.Reader

/-!
Errors of rule text: what was expected, and the line and column of the place where
reading stopped. Lines and columns count from one, columns in characters.
-/

namespace FormRules.RuleText

/-- A place in a text. -/
structure Position where
  line : Nat
  column : Nat
  deriving DecidableEq

/-- The place behind some characters: after the last line feed a line begins. -/
def Position.behind (before : List Char) : Position :=
  ⟨before.count '\n' + 1, (before.reverse.takeWhile (· ≠ '\n')).length + 1⟩

/-- The characters before a byte offset in UTF-8; beyond the end these are all of them. An
offset inside a character counts for the one at its beginning. -/
def charsBefore : List Char → Nat → List Char
  | [], _ => []
  | c :: rest, offset =>
    if c.utf8Size ≤ offset then c :: charsBefore rest (offset - c.utf8Size) else []

/-- The place at a byte offset; beyond the end it is the end. -/
def Position.ofOffset (text : String) (offset : Nat) : Position :=
  .behind (charsBefore text.toList offset)

structure Error where
  detail : String
  position : Position
  deriving DecidableEq

def Label.text : Label → String
  | literal => "literal"
  | value => "value"
  | operator => "operator"
  | condition => "condition"
  | action => "action"
  | quotedString => "quoted string"
  | ruleNote => "annotation"
  | ruleId => "rule id"
  | keyword word => "\x60" ++ word ++ "\x60"

/-- What was expected, and on a line of its own the cause, if there is one. -/
def Failure.detail (failure : Failure) : String :=
  let expected :=
    if failure.labels.isEmpty then []
    else ["expected " ++ String.intercalate ", " (failure.labels.map Label.text)]
  let cause := failure.cause.toList.map EvalError.message
  String.intercalate "\n" (expected ++ cause)

/-- The error that a failure means for the text that was read. -/
def Error.ofFailure (text : String) (failure : Failure) : Error :=
  let unread := (String.ofList failure.rest).utf8ByteSize
  ⟨failure.detail, Position.ofOffset text (text.utf8ByteSize - unread)⟩

def Error.message (e : Error) : String :=
  "parse error at line " ++ Nat.repr e.position.line ++ ", column " ++
    Nat.repr e.position.column ++ ": " ++ e.detail

/-- Reads a whole text. -/
def Reader.whole {α : Type} (p : Reader α) (text : String) : Except Error α :=
  match p text.toList with
  | .done value [] => .ok value
  | .done _ rest => .error (.ofFailure text { rest })
  | .failed failure => .error (.ofFailure text failure)

end FormRules.RuleText
