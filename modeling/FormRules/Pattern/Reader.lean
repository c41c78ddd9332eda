import FormRules.Numeral
import FormRules.Pattern.Tree
import FormRules.Unicode.Blank
import FormRules.Unicode.Recent

/-!
Reading of written patterns. Every reader takes a text and gives what it read and
the rest, or nothing when the text is no pattern. In verbose mode white space
and comments between the parts of a pattern are skipped.
-/

namespace FormRules.Pattern

/-- Skips white space, and comments from a number sign to the end of the line. -/
def skipBlanks (inComment : Bool) : List Char → List Char
  | [] => []
  | c :: rest =>
    if inComment then skipBlanks (c != '\n') rest
    else if Unicode.isWhiteSpace c then skipBlanks false rest
    else if c = '#' then skipBlanks true rest
    else c :: rest

def skip (verbose : Bool) (chars : List Char) : List Char :=
  if verbose then skipBlanks false chars else chars

/-- Collects characters as long as they satisfy a condition, skipping blanks
between them in verbose mode. -/
def collectWhile (accept : Char → Bool) (verbose inComment : Bool) :
    List Char → List Char × List Char
  | [] => ([], [])
  | c :: rest =>
    if inComment then collectWhile accept verbose (c != '\n') rest
    else if accept c then
      let (taken, tail) := collectWhile accept verbose false rest
      (c :: taken, tail)
    else if verbose && Unicode.isWhiteSpace c then collectWhile accept verbose false rest
    else if verbose && c == '#' then collectWhile accept verbose true rest
    else ([], c :: rest)

/-- The characters up to a closing brace, which is dropped. -/
def collectBraced (verbose inComment : Bool) : List Char → Option (List Char × List Char)
  | [] => none
  | c :: rest =>
    if inComment then collectBraced verbose (c != '\n') rest
    else if c = '\x7d' then some ([], rest)
    else if verbose && Unicode.isWhiteSpace c then collectBraced verbose false rest
    else if verbose && c == '#' then collectBraced verbose true rest
    else (collectBraced verbose false rest).map fun (taken, tail) => (c :: taken, tail)

/-- A number in 32 bits, with white space on both sides. -/
def readCount? (verbose : Bool) (chars : List Char) : Option (Nat × List Char) :=
  let (digits, rest) := collectWhile Char.isDigit verbose false (Unicode.trimStart chars)
  match Numeral.digits? digits with
  | some n => if n < UInt32.size then some (n, skip verbose (Unicode.trimStart rest)) else none
  | none => none

/-- The counts of a repetition after its opening brace, and the rest after the
closing one. -/
def readCounts? (verbose : Bool) (chars : List Char) : Option (Nat × Option Nat × List Char) := do
  let (least, rest) ← readCount? verbose (skip verbose chars)
  match rest with
  | ',' :: rest =>
    match skip verbose rest with
    | '\x7d' :: rest => return (least, none, rest)
    | rest =>
      let (most, rest) ← readCount? verbose rest
      match rest with
      | '\x7d' :: rest => if least ≤ most then return (least, some most, rest) else none
      | _ => none
  | '\x7d' :: rest => return (least, some least, rest)
  | _ => none

/-- Reads the question mark that makes a repetition lazy. -/
def readLazy (chars : List Char) : Bool × List Char :=
  match chars with
  | '?' :: rest => (true, rest)
  | _ => (false, chars)

def isHexDigit (c : Char) : Bool :=
  c.isDigit || ('a' ≤ c && c ≤ 'f') || ('A' ≤ c && c ≤ 'F')

/-- The character of a code point written in hexadecimal digits. -/
def charOfHex? (digits : List Char) : Option Char :=
  let n := Unicode.hexValue digits
  if n.isValidChar then some (Char.ofNat n) else none

/-- A given number of hexadecimal digits. -/
def readHexDigits? (verbose : Bool) : Nat → List Char → Option (List Char × List Char)
  | 0, chars => some ([], chars)
  | n + 1, chars =>
    match skip verbose chars with
    | c :: rest =>
      if isHexDigit c then
        (readHexDigits? verbose n rest).map fun (digits, tail) => (c :: digits, tail)
      else none
    | [] => none

/-- A character by code point, after `\x`, `\u` or `\U`: in braces, or with a fixed
number of digits. -/
def readHex? (verbose : Bool) (width : Nat) (chars : List Char) : Option (Literal × List Char) :=
  match skip verbose chars with
  | '\x7b' :: rest => do
    let (digits, tail) ← collectBraced verbose false rest
    if digits.isEmpty || !digits.all isHexDigit then none
    else (charOfHex? digits).map fun c => (⟨c, false⟩, tail)
  | rest => do
    let (digits, tail) ← readHexDigits? verbose width rest
    (charOfHex? digits).map fun c => (⟨c, width == 2⟩, tail)

/-- The position of a text in another one, as the parts before and after it. -/
def cutAt? (mark : List Char) : List Char → Option (List Char × List Char)
  | [] => if mark.isEmpty then some ([], []) else none
  | c :: rest =>
    if mark.isPrefixOf (c :: rest) then some ([], (c :: rest).drop mark.length)
    else (cutAt? mark rest).map fun (before, after) => (c :: before, after)

/-- A property by name, or by name and value, and whether it is denied. Between name
and value stand `!=`, which denies, `:` or `=`; they are looked for in this order. -/
def propertyQuery (name : List Char) : PropertyQuery × Bool :=
  let valued (n v : List Char) : PropertyQuery := .valued (String.ofList n) (String.ofList v)
  match cutAt? ['!', '='] name with
  | some (n, v) => (valued n v, true)
  | none =>
    match (cutAt? [':'] name).orElse fun _ => cutAt? ['='] name with
    | some (n, v) => (valued n v, false)
    | none => (.named (String.ofList name), false)

/-- What one element of a pattern, or of a class, can be. -/
inductive Element where
  | literal (literal : Literal)
  | dot
  | anchor (anchor : WrittenAnchor)
  | short (cls : ShortClass) (negated : Bool)
  | property (query : PropertyQuery) (negated : Bool)

/-- A property after `\p` or `\P`: one letter, or a query in braces. -/
def readProperty? (verbose negated : Bool) (chars : List Char) : Option (Element × List Char) :=
  match skip verbose chars with
  | [] => none
  | '\x7b' :: rest =>
    (collectBraced verbose false rest).map fun (name, tail) =>
      let (query, denied) := propertyQuery name
      (.property query (negated != denied), tail)
  | c :: rest =>
    if c = '\\' then none
    else some (.property (.named (String.ofList [c])) negated, rest)

/-- Characters with a meaning of their own in patterns. -/
def isMeta (c : Char) : Bool :=
  "\\.+*?()|[]\x7b\x7d^$#&-~".toList.contains c

/-- Characters that may be escaped to mean themselves: ASCII without letters,
digits and angle brackets. -/
def isEscapable (c : Char) : Bool :=
  isMeta c || (c.toNat < 0x80 && !c.isAlphanum && c != '<' && c != '>')

/-- A word boundary of a special kind in braces, if braces with a name follow. The
inner `none` means that the braces belong to a repetition. -/
def readBoundaryKind? (verbose : Bool) (chars : List Char) :
    Option (Option (WrittenAnchor × List Char)) :=
  let isNameChar (c : Char) : Bool := c.isAlpha || c == '-'
  match chars with
  | '\x7b' :: rest =>
    match skip verbose rest with
    | [] => none
    | c :: _ =>
      if isNameChar c then
        let (name, tail) := collectWhile isNameChar verbose false rest
        match tail with
        | '\x7d' :: tail =>
          let name := String.ofList name
          if name = "start" then some (some (.wordStart, tail))
          else if name = "end" then some (some (.wordEnd, tail))
          else if name = "start-half" then some (some (.noWordBefore, tail))
          else if name = "end-half" then some (some (.noWordAfter, tail))
          else none
        | _ => none
      else some none
  | _ => some none

/-- What follows a backslash. -/
def readEscape? (verbose : Bool) (chars : List Char) : Option (Element × List Char) :=
  match chars with
  | [] => none
  | c :: rest =>
    let single (l : Char) : Option (Element × List Char) := some (.literal ⟨l, false⟩, rest)
    match c with
    | 'x' => (readHex? verbose 2 rest).map fun (l, tail) => (.literal l, tail)
    | 'u' => (readHex? verbose 4 rest).map fun (l, tail) => (.literal l, tail)
    | 'U' => (readHex? verbose 8 rest).map fun (l, tail) => (.literal l, tail)
    | 'p' => readProperty? verbose false rest
    | 'P' => readProperty? verbose true rest
    | 'd' => some (.short .digit false, rest)
    | 'D' => some (.short .digit true, rest)
    | 's' => some (.short .space false, rest)
    | 'S' => some (.short .space true, rest)
    | 'w' => some (.short .word false, rest)
    | 'W' => some (.short .word true, rest)
    | 'a' => single '\x07'
    | 'f' => single '\x0c'
    | 't' => single '\t'
    | 'n' => single '\n'
    | 'r' => single '\r'
    | 'v' => single '\x0b'
    | 'A' => some (.anchor .textStart, rest)
    | 'z' => some (.anchor .textEnd, rest)
    | 'B' => some (.anchor .noWordBoundary, rest)
    | '<' => some (.anchor .wordStart, rest)
    | '>' => some (.anchor .wordEnd, rest)
    | 'b' =>
      (readBoundaryKind? verbose rest).map fun kind =>
        match kind with
        | some (boundary, tail) => (.anchor boundary, tail)
        | none => (.anchor .wordBoundary, rest)
    | c => if isEscapable c then single c else none

/-- One element of a pattern outside brackets. -/
def readElement? (verbose : Bool) (chars : List Char) : Option (Element × List Char) :=
  match chars with
  | [] => none
  | '\\' :: rest => readEscape? verbose rest
  | '.' :: rest => some (.dot, rest)
  | '^' :: rest => some (.anchor .caret, rest)
  | '$' :: rest => some (.anchor .dollar, rest)
  | c :: rest => some (.literal ⟨c, false⟩, rest)

def Element.toTree : Element → Tree
  | literal l => .literal l
  | dot => .dot
  | anchor a => .anchor a
  | short cls negated => .short cls negated
  | property query negated => .property query negated

/-- One element of a class: a character, or an escape that stands for characters. -/
def readClassElement? (verbose : Bool) (chars : List Char) : Option (Element × List Char) :=
  match chars with
  | [] => none
  | '\\' :: rest => readEscape? verbose rest
  | c :: rest => some (.literal ⟨c, false⟩, rest)

def Element.toClass? : Element → Option ClassTree
  | literal l => some (.literal l)
  | short cls negated => some (.short cls negated)
  | property query negated => some (.property query negated)
  | dot => none
  | anchor _ => none

/-- The character that decides whether a hyphen makes a range. In verbose mode it is
the next one that is no white space, or the next one after a number sign; without
one it is the very next character. -/
def peekPastHyphen (verbose : Bool) (chars : List Char) : Option Char :=
  let marked (chars : List Char) : Option Char :=
    match Unicode.trimStart chars with
    | '#' :: rest => (Unicode.trimStart rest).head?
    | rest => rest.head?
  if verbose then (marked chars).orElse fun _ => chars.head? else chars.head?

/-- An element of a class, or a range between two characters. A hyphen before the
closing bracket or another hyphen is no range. -/
def readClassItem? (verbose : Bool) (chars : List Char) : Option (ClassTree × List Char) := do
  let (first, rest) ← readClassElement? verbose chars
  match skip verbose rest with
  | [] => none
  | '-' :: tail =>
    if [some ']', some '-'].contains (peekPastHyphen verbose tail) then
      (first.toClass?).map fun item => (item, '-' :: tail)
    else
      let (last, rest) ← readClassElement? verbose (skip verbose tail)
      match first, last with
      | .literal a, .literal b => if a.char ≤ b.char then return (.range a b, rest) else none
      | _, _ => none
  | rest => (first.toClass?).map fun item => (item, rest)

/-- The names of the classes between brackets and colons. -/
def asciiClassNames : List String :=
  ["alnum", "alpha", "ascii", "blank", "cntrl", "digit", "graph", "lower", "print",
    "punct", "space", "upper", "word", "xdigit"]

/-- A class such as `[:alpha:]` or `[:^alpha:]`, after its opening bracket. -/
def readAsciiClass? (chars : List Char) : Option (ClassTree × List Char) :=
  match chars with
  | ':' :: rest =>
    let (negated, rest) := match rest with | '^' :: tail => (true, tail) | _ => (false, rest)
    let name := String.ofList (rest.takeWhile (· ≠ ':'))
    match rest.dropWhile (· ≠ ':') with
    | ':' :: ']' :: tail =>
      if asciiClassNames.contains name then some (.asciiClass name negated, tail) else none
    | _ => none
  | _ => none

/-- What is open while a class is read: brackets, with the items before them, and
operators, with their left operands. -/
inductive ClassFrame where
  | bracket (before : List ClassTree) (negated : Bool)
  | operation (op : SetOperator) (left : ClassTree)

/-- The class being read: the items of the innermost union, last one first, and
what is open around it. -/
structure ClassState where
  items : List ClassTree
  frames : List ClassFrame

/-- Hyphens at the beginning of a class, as literals. -/
def leadingHyphens (verbose : Bool) (chars : List Char) : List ClassTree × List Char :=
  let (hyphens, rest) := collectWhile (· == '-') verbose false chars
  (hyphens.map fun c => .literal ⟨c, false⟩, rest)

/-- Opens a class after its bracket: a circumflex negates it, hyphens come next,
and a closing bracket at the very beginning is a literal. -/
def openClass? (verbose : Bool) (state : ClassState) (chars : List Char) :
    Option (ClassState × List Char) :=
  let (negated, rest) :=
    match skip verbose chars with
    | '^' :: tail => (true, skip verbose tail)
    | rest => (false, rest)
  let (items, rest) := leadingHyphens verbose rest
  let opened (items : List ClassTree) : ClassState :=
    ⟨items, .bracket state.items negated :: state.frames⟩
  match items, rest with
  | _, [] => none
  | [], ']' :: tail => some (opened [.literal ⟨']', false⟩], tail)
  | items, rest => some (opened items, rest)

/-- Applies the pending operator, if there is one, to a right operand. -/
def closeOperation (frames : List ClassFrame) (right : ClassTree) :
    ClassTree × List ClassFrame :=
  match frames with
  | .operation op left :: rest => (.operation op left right, rest)
  | frames => (right, frames)

/-- Begins the right operand of an operator. -/
def beginOperand (op : SetOperator) (state : ClassState) : ClassState :=
  let (left, frames) := closeOperation state.frames (.ofItems state.items.reverse)
  ⟨[], .operation op left :: frames⟩

/-- Closes the innermost brackets: either the whole class, or an item of the class
around it. -/
def closeClass? (state : ClassState) : Option (Except ClassTree ClassState) :=
  let (inner, frames) := closeOperation state.frames (.ofItems state.items.reverse)
  match frames with
  | [.bracket _ negated] => some (.error (.bracket inner negated))
  | .bracket before negated :: rest => some (.ok ⟨.bracket inner negated :: before, rest⟩)
  | _ => none

/-- One step inside a class: a finished class, or a state to go on from. -/
def classStep? (verbose : Bool) (state : ClassState) (chars : List Char) :
    Option (Except ClassTree ClassState × List Char) :=
  match chars with
  | [] => none
  | '[' :: rest =>
    match readAsciiClass? rest with
    | some (item, tail) => some (.ok ⟨item :: state.items, state.frames⟩, tail)
    | none => (openClass? verbose state rest).map fun (state, tail) => (.ok state, tail)
  | ']' :: rest => (closeClass? state).map fun result => (result, rest)
  | '&' :: '&' :: rest => some (.ok (beginOperand .intersection state), rest)
  | '-' :: '-' :: rest => some (.ok (beginOperand .difference state), rest)
  | '~' :: '~' :: rest => some (.ok (beginOperand .symmetricDifference state), rest)
  | chars =>
    (readClassItem? verbose chars).map fun (item, tail) =>
      (.ok ⟨item :: state.items, state.frames⟩, tail)

/-- Reads on inside a class to its end. Every step consumes something. -/
def readClassFrom? (verbose : Bool) (state : ClassState) (chars : List Char) :
    Option (ClassTree × List Char) :=
  match classStep? verbose state (skip verbose chars) with
  | none => none
  | some (.error tree, rest) => some (tree, rest)
  | some (.ok state, rest) =>
    if rest.length < chars.length then readClassFrom? verbose state rest else none
termination_by chars.length

/-- A class after its opening bracket. -/
def readClass? (verbose : Bool) (chars : List Char) : Option (ClassTree × List Char) := do
  let (state, rest) ← openClass? verbose ⟨[], []⟩ chars
  readClassFrom? verbose state rest

def FlagSettings.set? (settings : FlagSettings) (flag : Char) (on : Bool) : Option FlagSettings :=
  match flag with
  | 'i' => if settings.ignoreCase.isSome then none else some { settings with ignoreCase := on }
  | 'm' => if settings.multiLine.isSome then none else some { settings with multiLine := on }
  | 's' => if settings.dotAll.isSome then none else some { settings with dotAll := on }
  | 'U' => if settings.swapGreed.isSome then none else some { settings with swapGreed := on }
  | 'u' => if settings.unicode.isSome then none else some { settings with unicode := on }
  | 'R' => if settings.anyLineEnd.isSome then none else some { settings with anyLineEnd := on }
  | 'x' => if settings.verbose.isSome then none else some { settings with verbose := on }
  | _ => none

/-- What flags were read: the settings, whether there were any, the mode that a
minus sign ends, and whether a minus sign was the last thing. -/
structure FlagState where
  settings : FlagSettings := {}
  isEmpty : Bool := true
  on : Bool := true
  dangling : Bool := false

/-- Flags up to a colon or a closing parenthesis. A flag may be set once, one minus
sign may stand among them, and not at the end. -/
def readFlags? (state : FlagState) : List Char → Option (FlagState × List Char)
  | [] => none
  | c :: rest =>
    if c = ':' ∨ c = ')' then if state.dangling then none else some (state, c :: rest)
    else if c = '-' then
      if state.on then
        readFlags? { state with isEmpty := false, on := false, dangling := true } rest
      else none
    else
      match state.settings.set? c state.on with
      | some settings =>
        readFlags? { state with settings, isEmpty := false, dangling := false } rest
      | none => none

/-- A character of a group's name. -/
def isNameChar (first : Bool) (c : Char) : Bool :=
  c == '_' ||
    if first then Unicode.recentAlphabetic.contains c
    else ['.', '[', ']'].contains c || Unicode.recentAlphanumeric.contains c

/-- The name of a group up to its closing angle bracket. -/
def readGroupName? (chars : List Char) : Option (String × List Char) :=
  let name := chars.takeWhile (· ≠ '>')
  match name, chars.dropWhile (· ≠ '>') with
  | first :: others, _ :: rest =>
    if isNameChar true first && others.all (isNameChar false) then
      some (String.ofList name, rest)
    else none
  | _, _ => none

/-- What is open while a pattern is read: a group, with the parts before it and the
mode to return to, and the finished branches of an alternation. -/
inductive Frame where
  | group (before : List Tree) (settings : FlagSettings) (captures : Bool) (verbose : Bool)
  | alternation (branches : List Tree)

/-- The pattern being read: the parts of the innermost sequence, last one first,
what is open around it, the mode, and the names of groups. -/
structure ReadState where
  parts : List Tree := []
  frames : List Frame := []
  verbose : Bool := false
  names : List String := []

namespace ReadState

def push (state : ReadState) (part : Tree) : ReadState :=
  { state with parts := part :: state.parts }

/-- Begins the next branch of an alternation. -/
def nextBranch (state : ReadState) : ReadState :=
  let branch := Tree.ofParts state.parts.reverse
  match state.frames with
  | .alternation branches :: rest =>
    { state with parts := [], frames := .alternation (branch :: branches) :: rest }
  | frames => { state with parts := [], frames := .alternation [branch] :: frames }

/-- The innermost sequence or alternation as a tree, and the frames around it. -/
def finished (state : ReadState) : Tree × List Frame :=
  let branch := Tree.ofParts state.parts.reverse
  match state.frames with
  | .alternation branches :: rest => (.alternation (branch :: branches).reverse, rest)
  | frames => (branch, frames)

/-- Closes the innermost group. -/
def closeGroup? (state : ReadState) : Option ReadState :=
  let (body, frames) := state.finished
  match frames with
  | .group before settings captures verbose :: rest =>
    some { state with parts := .group settings captures body :: before, frames := rest, verbose }
  | _ => none

def openGroup (state : ReadState) (settings : FlagSettings) (captures : Bool) : ReadState :=
  { state with
    parts := []
    frames := .group state.parts settings captures state.verbose :: state.frames
    verbose := settings.verbose.getD state.verbose }

/-- Repeats the last part. There must be one, and flags cannot be repeated. -/
def repeatLast? (state : ReadState) (isLazy : Bool) (least : Nat) (most : Option Nat) :
    Option ReadState :=
  match state.parts with
  | [] => none
  | .empty :: _ => none
  | .flags _ :: _ => none
  | part :: before => some { state with parts := .times part isLazy least most :: before }

end ReadState

/-- A group or flags, after the opening parenthesis. Look-around is refused. -/
def openGroup? (state : ReadState) (chars : List Char) : Option (ReadState × List Char) :=
  let named (rest : List Char) : Option (ReadState × List Char) := do
    let (name, tail) ← readGroupName? rest
    if state.names.contains name then none
    else return ({ state with names := name :: state.names }.openGroup {} true, tail)
  match skip state.verbose chars with
  | '?' :: '=' :: _ => none
  | '?' :: '!' :: _ => none
  | '?' :: '<' :: '=' :: _ => none
  | '?' :: '<' :: '!' :: _ => none
  | '?' :: 'P' :: '<' :: rest => named rest
  | '?' :: '<' :: rest => named rest
  | '?' :: rest => do
    let (flags, tail) ← readFlags? {} rest
    match tail with
    | ':' :: tail => return (state.openGroup flags.settings false, tail)
    | _ :: tail =>
      if flags.isEmpty then none
      else
        let verbose := flags.settings.verbose.getD state.verbose
        return ({ state.push (.flags flags.settings) with verbose }, tail)
    | [] => none
  | rest => some (state.openGroup {} true, rest)

/-- One step outside brackets. -/
def readStep? (state : ReadState) (chars : List Char) : Option (ReadState × List Char) :=
  let repeated (least : Nat) (most : Option Nat) (rest : List Char) :=
    let (isLazy, rest) := readLazy rest
    (state.repeatLast? isLazy least most).map fun state => (state, rest)
  match chars with
  | [] => none
  | '(' :: rest => openGroup? state rest
  | ')' :: rest => state.closeGroup?.map fun state => (state, rest)
  | '|' :: rest => some (state.nextBranch, rest)
  | '[' :: rest => (readClass? state.verbose rest).map fun (cls, tail) =>
      match cls with
      | .bracket inner negated => (state.push (.bracket inner negated), tail)
      | other => (state.push (.bracket other false), tail)
  | '?' :: rest => repeated 0 (some 1) rest
  | '*' :: rest => repeated 0 none rest
  | '+' :: rest => repeated 1 none rest
  | '\x7b' :: rest => do
    let (least, most, tail) ← readCounts? state.verbose rest
    repeated least most (skip state.verbose tail)
  | chars =>
    (readElement? state.verbose chars).map fun (element, tail) =>
      (state.push element.toTree, tail)

/-- Reads on to the end of a pattern. Every step consumes something. -/
def readFrom? (state : ReadState) (chars : List Char) : Option Tree :=
  match skip state.verbose chars with
  | [] =>
    match state.finished with
    | (tree, []) => some tree
    | _ => none
  | c :: rest =>
    match readStep? state (c :: rest) with
    | none => none
    | some (state, tail) =>
      if tail.length < chars.length then readFrom? state tail else none
termination_by chars.length

/-- The tree of a written pattern, if it is one and not nested too deep. -/
def Tree.read? (text : String) : Option Tree := do
  let tree ← readFrom? {} text.toList
  if tree.depth ≤ depthLimit then return tree else none

end FormRules.Pattern
