/-!
Patterns as they are written: the tree of a pattern text, before flags are
applied and character classes are looked up.
-/

namespace FormRules.Pattern

/-- Settings of flags. A flag that is not mentioned keeps its state. -/
structure FlagSettings where
  ignoreCase : Option Bool := none
  multiLine : Option Bool := none
  dotAll : Option Bool := none
  swapGreed : Option Bool := none
  unicode : Option Bool := none
  anyLineEnd : Option Bool := none
  verbose : Option Bool := none

/-- A written character. One that is written by two hexadecimal digits means a
byte where the pattern is not in Unicode mode. -/
structure Literal where
  char : Char
  isByte : Bool := false

/-- The classes with one-letter escapes. -/
inductive ShortClass where
  | digit
  | space
  | word

/-- A property of characters, by name or by name and value. -/
inductive PropertyQuery where
  | named (name : String)
  | valued (name value : String)

inductive SetOperator where
  | intersection
  | difference
  | symmetricDifference

/-- What stands between brackets. -/
inductive ClassTree where
  | literal (literal : Literal)
  | range (first last : Literal)
  /-- A class such as `[:alpha:]`, by its name. -/
  | asciiClass (name : String) (negated : Bool)
  | short (cls : ShortClass) (negated : Bool)
  | property (query : PropertyQuery) (negated : Bool)
  | bracket (inner : ClassTree) (negated : Bool)
  | union (items : List ClassTree)
  | operation (op : SetOperator) (left right : ClassTree)

/-- Anchors as they are written; lines and words depend on flags. -/
inductive WrittenAnchor where
  | caret
  | dollar
  | textStart
  | textEnd
  | wordBoundary
  | noWordBoundary
  | wordStart
  | wordEnd
  | noWordBefore
  | noWordAfter

/-- A written pattern. -/
inductive Tree where
  | empty
  | flags (settings : FlagSettings)
  | literal (literal : Literal)
  | dot
  | anchor (anchor : WrittenAnchor)
  | short (cls : ShortClass) (negated : Bool)
  | property (query : PropertyQuery) (negated : Bool)
  | bracket (inner : ClassTree) (negated : Bool)
  /-- Repetitions; a lazy one takes as few as possible. -/
  | times (body : Tree) (isLazy : Bool) (least : Nat) (most : Option Nat)
  | group (settings : FlagSettings) (captures : Bool) (body : Tree)
  | concat (parts : List Tree)
  | alternation (branches : List Tree)

/-- The union of items, which is an item itself when there is only one. -/
def ClassTree.ofItems (items : List ClassTree) : ClassTree :=
  match items with
  | [item] => item
  | items => union items

/-- Parts in sequence, without a node for a single part. -/
def Tree.ofParts (parts : List Tree) : Tree :=
  match parts with
  | [] => empty
  | [part] => part
  | parts => concat parts

mutual

/-- How deep brackets are nested. A union of one item is no level. -/
def ClassTree.depth : ClassTree → Nat
  | .literal _ | .range _ _ | .asciiClass _ _ | .short _ _ | .property _ _ => 0
  | .bracket inner _ => 1 + inner.depth
  | .union items => if items.isEmpty then 0 else 1 + ClassTree.depths items
  | .operation _ left right => 1 + max left.depth right.depth

def ClassTree.depths : List ClassTree → Nat
  | [] => 0
  | item :: rest => max item.depth (ClassTree.depths rest)

end

mutual

/-- How deep a pattern is nested. -/
def Tree.depth : Tree → Nat
  | .empty | .flags _ | .literal _ | .dot | .anchor _ | .short _ _ | .property _ _ => 0
  | .bracket inner _ => 1 + inner.depth
  | .times body _ _ _ => 1 + body.depth
  | .group _ _ body => 1 + body.depth
  | .concat parts => 1 + Tree.depths parts
  | .alternation branches => 1 + Tree.depths branches

def Tree.depths : List Tree → Nat
  | [] => 0
  | part :: rest => max part.depth (Tree.depths rest)

end

/-- The deepest nesting that is accepted. -/
def depthLimit : Nat := 250

end FormRules.Pattern
