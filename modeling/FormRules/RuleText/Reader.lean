import FormRules.EvalError

/-!
Readers of text. A reader takes a text and gives a value and the rest of the text,
or a failure that says where reading stopped. A soft failure lets an alternative
or a repetition go back and try something else; a final failure ends the whole
reading. Readers in sequence do not go back by themselves.
-/

namespace FormRules.RuleText

/-- What a reader expected. -/
inductive Label where
  | literal
  | value
  | operator
  | condition
  | action
  | quotedString
  | ruleNote
  | ruleId
  | keyword (word : String)
  deriving DecidableEq

/-- Why and where reading stopped: the rest of the text at that place, the labels
that the failure passed, innermost first, and a further cause. -/
structure Failure where
  rest : List Char
  isFinal : Bool := false
  labels : List Label := []
  cause : Option EvalError := none
  deriving DecidableEq

inductive Reply (α : Type) where
  | done (value : α) (rest : List Char)
  | failed (failure : Failure)

/-- A reader of values of a type. -/
def Reader (α : Type) : Type := List Char → Reply α

namespace Reader

variable {α β γ : Type}

/-- Gives a value without reading. -/
def give (value : α) : Reader α := fun text => .done value text

/-- Reads a value and goes on with it. -/
def bind (p : Reader α) (f : α → Reader β) : Reader β := fun text =>
  match p text with
  | .done value rest => f value rest
  | .failed failure => .failed failure

instance : Monad Reader where
  pure := give
  bind := bind

/-- Fails at the present place. -/
def fail : Reader α := fun text => .failed { rest := text }

/-- Fails at the present place for good. -/
def abort : Reader α := fun text => .failed { rest := text, isFinal := true }

def map (f : α → β) (p : Reader α) : Reader β := fun text =>
  match p text with
  | .done value rest => .done (f value) rest
  | .failed failure => .failed failure

/-- One character that satisfies a condition. -/
def satisfy (accept : Char → Bool) : Reader Char
  | [] => .failed { rest := [] }
  | c :: rest => if accept c then .done c rest else .failed { rest := c :: rest }

def char (c : Char) : Reader Char := satisfy (· == c)

/-- A given text. -/
def exactly (word : List Char) : Reader Unit := fun text =>
  if word.isPrefixOf text then .done () (text.drop word.length) else .failed { rest := text }

/-- The longest run of characters that satisfy a condition, possibly none. -/
def run (accept : Char → Bool) : Reader (List Char) := fun text =>
  .done (text.takeWhile accept) (text.dropWhile accept)

/-- The longest run of characters that satisfy a condition, at least one. -/
def run1 (accept : Char → Bool) : Reader (List Char) := fun text =>
  match text.takeWhile accept with
  | [] => .failed { rest := text }
  | taken => .done taken (text.dropWhile accept)

/-- Tries a second reader where the first one fails softly. -/
def orElse (p q : Reader α) : Reader α := fun text =>
  match p text with
  | .done value rest => .done value rest
  | .failed failure => if failure.isFinal then .failed failure else q text

/-- Reads something or, if that fails softly, nothing. -/
def optional (p : Reader α) : Reader (Option α) := fun text =>
  match p text with
  | .done value rest => .done (some value) rest
  | .failed failure => if failure.isFinal then .failed failure else .done none text

/-- Fails where a reader succeeds; never moves. -/
def notFollowedBy (p : Reader α) : Reader Unit := fun text =>
  match p text with
  | .done _ _ => .failed { rest := text }
  | .failed failure => if failure.isFinal then .failed failure else .done () text

/-- Makes every failure final. -/
def commit (p : Reader α) : Reader α := fun text =>
  match p text with
  | .done value rest => .done value rest
  | .failed failure => .failed { failure with isFinal := true }

/-- Says what a reader expects, in every failure of it. -/
def label (l : Label) (p : Reader α) : Reader α := fun text =>
  match p text with
  | .done value rest => .done value rest
  | .failed failure => .failed { failure with labels := failure.labels ++ [l] }

/-- Accepts only some values; others are a soft failure before them. -/
def refine (f : α → Except (Option EvalError) β) (p : Reader α) : Reader β := fun text =>
  match p text with
  | .done value rest =>
    match f value with
    | .ok result => .done result rest
    | .error cause => .failed { rest := text, cause }
  | .failed failure => .failed failure

/-- Accepts only values that satisfy a condition. -/
def check (accept : α → Bool) (p : Reader α) : Reader α :=
  refine (fun value => if accept value then .ok value else .error none) p

/-- Reads something after something else, which is dropped. -/
def after (p : Reader α) (q : Reader β) : Reader β := bind p fun _ => q

/-- Reads something between two other things, which are dropped. -/
def between (opening : Reader α) (closing : Reader γ) (p : Reader β) : Reader β :=
  bind opening fun _ => bind p fun value => bind closing fun _ => give value

/-- As many values as there are. A value that takes up no text ends the reading. -/
def many (p : Reader α) (text : List Char) : Reply (List α) :=
  match p text with
  | .failed failure => if failure.isFinal then .failed failure else .done [] text
  | .done value rest =>
    if rest.length < text.length then
      match many p rest with
      | .done values tail => .done (value :: values) tail
      | .failed failure => .failed failure
    else .failed { rest := rest }
termination_by text.length

/-- Further values, each after a separator. Where no value follows a separator, the
separator is not read either. -/
def manyAfter (separator : Reader β) (p : Reader α) : Reader (List α) :=
  many (after separator p)

/-- Values with separators between them, possibly none. -/
def separated (separator : Reader β) (p : Reader α) : Reader (List α) := fun text =>
  match p text with
  | .failed failure => if failure.isFinal then .failed failure else .done [] text
  | .done value rest => map (value :: ·) (manyAfter separator p) rest

/-- Values with separators between them, at least one. -/
def separated1 (separator : Reader β) (p : Reader α) : Reader (List α) :=
  bind p fun value => map (value :: ·) (manyAfter separator p)

/-- A reader that uses itself on shorter texts. The use is granted only where the
text has become shorter, so the recursion ends whatever the body does. -/
def fix (body : Reader α → Reader α) (text : List Char) : Reply α :=
  body (fun rest => if rest.length < text.length then fix body rest else fail rest) text
termination_by text.length

end Reader

end FormRules.RuleText
