import FormRules.Numeral
import FormRules.RuleText.Reader
import FormRules.Value

/-!
The tokens of rule text: blanks and comments, words, names, quoted strings and
numbers.
-/

namespace FormRules.RuleText

open Reader

/-- White space between tokens: ASCII only. -/
def isBlank (c : Char) : Bool :=
  c == ' ' || c == '\t' || c == '\n' || c == '\r' || c == '\x0c'

/-- The rest after the text of a comment, from its line end on. A comment that runs
into a carriage return without a line feed is none. -/
def afterComment? : List Char → Option (List Char)
  | [] => some []
  | c :: rest =>
    if c = '\n' then some (c :: rest)
    else if c = '\r' then (if rest.head? = some '\n' then some (c :: rest) else none)
    else afterComment? rest

theorem length_afterComment? {text rest : List Char} (h : afterComment? text = some rest) :
    rest.length ≤ text.length := by
  induction text with
  | nil => simp_all [afterComment?]
  | cons c tail ih =>
    simp only [afterComment?] at h
    split at h
    · simp_all
    · split at h
      · split at h <;> simp_all
      · have := ih h
        simp only [List.length_cons]
        omega

/-- The text after any blanks and comments. -/
def dropBlanks (text : List Char) : List Char :=
  match text with
  | [] => []
  | c :: rest =>
    if isBlank c then dropBlanks rest
    else if c = '#' then
      match h : afterComment? rest with
      | some tail =>
        have := length_afterComment? h
        dropBlanks tail
      | none => c :: rest
    else c :: rest
termination_by text.length
decreasing_by
  · simp
  · simp only [List.length_cons]
    omega

/-- Blanks and comments, possibly none. -/
def blanks : Reader Unit := fun text => .done () (dropBlanks text)

def isIdentStart (c : Char) : Bool := c.isAlpha || c == '_'

def isIdentChar (c : Char) : Bool := c.isAlphanum || c == '_' || c == '.'

/-- A word that no further identifier characters follow. -/
def keyword (word : String) : Reader Unit := do
  exactly word.toList
  notFollowedBy (satisfy isIdentChar)

/-- An identifier: letters, digits, underscores and dots, and neither a digit nor a
dot in front. -/
def ident : Reader String := do
  let head ← run1 isIdentStart
  let tail ← run isIdentChar
  return String.ofList (head ++ tail)

/-- The words that cannot be names. -/
def reserved : List String :=
  ["rule", "when", "then", "AND", "and", "OR", "or", "NOT", "not"]

/-- An identifier that is not a reserved word. -/
def name : Reader String := check (fun word => !reserved.contains word) ident

/-- The characters that an escape stands for. An unknown escape stands for itself,
backslash included. -/
def unescape (c : Char) : List Char :=
  if c = '"' then ['"']
  else if c = '\\' then ['\\']
  else if c = 'n' then ['\n']
  else if c = 't' then ['\t']
  else ['\\', c]

/-- The characters of a string up to its closing quote. -/
def stringBody : List Char → Reply (List Char)
  | [] => .failed { rest := [] }
  | c :: rest =>
    if c = '"' then .done [] rest
    else if c = '\\' then
      match rest with
      | [] => .failed { rest := [] }
      | escaped :: rest =>
        match stringBody rest with
        | .done chars tail => .done (unescape escaped ++ chars) tail
        | .failed failure => .failed failure
    else
      match stringBody rest with
      | .done chars tail => .done (c :: chars) tail
      | .failed failure => .failed failure

/-- A string between double quotes. -/
def quotedString : Reader String := do
  let _ ← char '"'
  let chars ← stringBody
  return String.ofList chars

/-- A point and digits. -/
def fraction : Reader (List Char) := do
  let _ ← char '.'
  run1 Char.isDigit

/-- A number: an integer, or with a fraction a double. An integer of more than 64
bits is a final failure after it. -/
def number : Reader Value := do
  let sign ← optional (char '-')
  let whole ← run1 Char.isDigit
  let decimals ← optional fraction
  match decimals with
  | some digits =>
    return .float (Binary64.ofDecimal sign.isSome
      (Nat.ofDigitChars 10 (whole ++ digits) 0) (-(digits.length : Int)))
  | none =>
    let magnitude : Int := Nat.ofDigitChars 10 whole 0
    match Numeral.toInt64? (if sign.isSome then -magnitude else magnitude) with
    | some n => return .int n
    | none => abort

/-- The digits of a positive number without leading zeros. -/
def positiveDigits : Reader Nat := do
  let head ← satisfy fun c => c.isDigit && c != '0'
  let tail ← run Char.isDigit
  return Nat.ofDigitChars 10 (head :: tail) 0

/-- A signed positive number, or zero without a sign. -/
def signedInteger : Reader Int :=
  orElse
    (do
      let sign ← optional (satisfy fun c => c == '+' || c == '-')
      let n ← positiveDigits
      return if sign = some '-' then -(n : Int) else (n : Int))
    (map (fun _ => (0 : Int)) (char '0'))

/-- A positive number or zero. -/
def unsignedInteger : Reader Nat :=
  orElse positiveDigits (map (fun _ => 0) (char '0'))

/-- Takes a value for a missing one as a soft failure. -/
def orFail {α : Type} (value : Option α) : Except (Option EvalError) α :=
  match value with
  | some value => .ok value
  | none => .error none

def int32 : Reader Int32 := refine (fun n => orFail (Numeral.toInt32? n)) signedInteger

def uint64 : Reader UInt64 := refine (fun n => orFail (Numeral.toUInt64? n)) unsignedInteger

end FormRules.RuleText
