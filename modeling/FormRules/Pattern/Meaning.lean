import FormRules.Pattern.Reader
import FormRules.Pattern.Size
import FormRules.Unicode.Age
import FormRules.Unicode.Case
import FormRules.Unicode.Segment

/-!
The meaning of written patterns: flags are applied to what follows them, classes
and properties become sets of characters. A pattern in Unicode mode means
characters; out of it classes hold ASCII characters only, so that no match can
begin or end inside a character.
-/

namespace FormRules.Pattern

open Unicode (CharSet)

/-- The state of the flags that change the meaning of a pattern. -/
structure Flags where
  ignoreCase : Bool := false
  multiLine : Bool := false
  dotAll : Bool := false
  unicode : Bool := true
  anyLineEnd : Bool := false
  swapGreed : Bool := false

def Flags.with (flags : Flags) (settings : FlagSettings) : Flags where
  ignoreCase := settings.ignoreCase.getD flags.ignoreCase
  multiLine := settings.multiLine.getD flags.multiLine
  dotAll := settings.dotAll.getD flags.dotAll
  unicode := settings.unicode.getD flags.unicode
  anyLineEnd := settings.anyLineEnd.getD flags.anyLineEnd
  swapGreed := settings.swapGreed.getD flags.swapGreed

/-- A name without the separators and the case that names may vary in. -/
def looseName (name : String) : String :=
  let chars := name.toList
  let (isForm, chars) :=
    match chars with
    | a :: b :: rest => if a.toLower = 'i' ∧ b.toLower = 's' then (true, rest) else (false, chars)
    | _ => (false, chars)
  let kept := chars.filter fun c => c.toNat < 0x80 && c != ' ' && c != '_' && c != '-'
  let loose := String.ofList (kept.map Char.toLower)
  if isForm ∧ loose = "c" then "isc" else loose

/-- The characters that a query asks for, if its name is known. Three names of
categories are also names of properties, and mean the category. -/
def PropertyQuery.set? : PropertyQuery → Option CharSet
  | named name =>
    let name := looseName name
    let property :=
      if ["cf", "sc", "lc"].contains name then none else Unicode.property? name
    (property.orElse fun _ => Unicode.category? name).orElse fun _ => Unicode.script? name
  | valued name value =>
    let name := looseName name
    let value := looseName value
    if ["gc", "generalcategory"].contains name then Unicode.category? value
    else if ["sc", "script"].contains name then Unicode.script? value
    else if ["scx", "scriptextensions"].contains name then Unicode.scriptExtension? value
    else if name = "age" then Unicode.definedBy? value
    else if ["gcb", "graphemeclusterbreak"].contains name then
      Unicode.classIn? Unicode.graphemeBreaks value
    else if ["wb", "wordbreak"].contains name then Unicode.classIn? Unicode.wordBreaks value
    else if ["sb", "sentencebreak"].contains name then
      Unicode.classIn? Unicode.sentenceBreaks value
    else none

/-- The ASCII characters of a named class. -/
def asciiSet (name : String) : CharSet :=
  let ofPairs (pairs : List (Char × Char)) : CharSet :=
    CharSet.ofRanges (pairs.map fun (a, b) => (a.toNat, b.toNat))
  match name with
  | "alnum" => ofPairs [('0', '9'), ('A', 'Z'), ('a', 'z')]
  | "alpha" => ofPairs [('A', 'Z'), ('a', 'z')]
  | "ascii" => CharSet.range 0 0x7F
  | "blank" => ofPairs [('\t', '\t'), (' ', ' ')]
  | "cntrl" => ofPairs [('\x00', '\x1f'), ('\x7f', '\x7f')]
  | "digit" => ofPairs [('0', '9')]
  | "graph" => ofPairs [('!', '~')]
  | "lower" => ofPairs [('a', 'z')]
  | "print" => ofPairs [(' ', '~')]
  | "punct" => ofPairs [('!', '/'), (':', '@'), ('[', '\x60'), ('\x7b', '~')]
  | "space" => ofPairs [('\t', '\r'), (' ', ' ')]
  | "upper" => ofPairs [('A', 'Z')]
  | "word" => ofPairs [('0', '9'), ('A', 'Z'), ('_', '_'), ('a', 'z')]
  | "xdigit" => ofPairs [('0', '9'), ('A', 'F'), ('a', 'f')]
  | _ => CharSet.empty

def ShortClass.set (unicode : Bool) : ShortClass → CharSet
  | digit => if unicode then Unicode.decimalDigits else asciiSet "digit"
  | space => if unicode then Unicode.whiteSpace else asciiSet "space"
  | word => if unicode then Unicode.wordCharacters else asciiSet "word"

/-- Adds the other case of ASCII letters. -/
def asciiCaseClosure (set : CharSet) : CharSet :=
  let letters (first last shift : Nat) (up : Bool) : List Nat :=
    ((List.range (last - first + 1)).map (· + first)).filterMap fun n =>
      if set.containsPoint n then some (if up then n + shift else n - shift) else none
  (set.union (.ofPoints (letters 0x41 0x5A 0x20 true))).union
    (.ofPoints (letters 0x61 0x7A 0x20 false))

def Flags.closeCase (flags : Flags) (set : CharSet) : CharSet :=
  if flags.ignoreCase then
    if flags.unicode then Unicode.caseClosure set else asciiCaseClosure set
  else set

/-- The complement of a class, among characters or among bytes. -/
def Flags.complement (flags : Flags) (set : CharSet) : CharSet :=
  if flags.unicode then set.complement else set.complement.inter (CharSet.range 0 0xFF)

/-- Out of Unicode mode a class may hold ASCII characters only. -/
def Flags.checked? (flags : Flags) (set : CharSet) : Option CharSet :=
  if flags.unicode || set.isAscii then some set else none

/-- Closes a class under case, then negates it. -/
def Flags.finish? (flags : Flags) (negated : Bool) (set : CharSet) : Option CharSet :=
  let closed := flags.closeCase set
  flags.checked? (if negated then flags.complement closed else closed)

/-- A letter-escape class; it is closed under case by itself. -/
def Flags.short? (flags : Flags) (cls : ShortClass) (negated : Bool) : Option CharSet :=
  let set := cls.set flags.unicode
  flags.checked? (if negated then flags.complement set else set)

def Flags.property? (flags : Flags) (query : PropertyQuery) (negated : Bool) : Option CharSet :=
  if flags.unicode then query.set?.bind (flags.finish? negated) else none

/-- A character in a class: out of Unicode mode an ASCII character or a byte. -/
def Flags.classPoint? (flags : Flags) (l : Literal) : Option Nat :=
  if flags.unicode || l.isByte || l.char.toNat < 0x80 then some l.char.toNat else none

def SetOperator.apply : SetOperator → CharSet → CharSet → CharSet
  | intersection, a, b => a.inter b
  | difference, a, b => a.difference b
  | symmetricDifference, a, b => a.symmetricDifference b

mutual

/-- The characters of a written class. -/
def ClassTree.set? (flags : Flags) : ClassTree → Option CharSet
  | .literal l => (flags.classPoint? l).map fun n => CharSet.range n n
  | .range a b => do
    let first ← flags.classPoint? a
    let last ← flags.classPoint? b
    return CharSet.range first last
  | .asciiClass name negated => flags.finish? negated (asciiSet name)
  | .short cls negated => flags.short? cls negated
  | .property query negated => flags.property? query negated
  | .bracket inner negated => (inner.set? flags).bind (flags.finish? negated)
  | .union items => (ClassTree.sets? flags items).map CharSet.unions
  | .operation op left right => do
    let a ← left.set? flags
    let b ← right.set? flags
    return op.apply (flags.closeCase a) (flags.closeCase b)

def ClassTree.sets? (flags : Flags) : List ClassTree → Option (List CharSet)
  | [] => some []
  | item :: rest => do
    let set ← item.set? flags
    let sets ← ClassTree.sets? flags rest
    return set :: sets

end

def Flags.anchor (flags : Flags) : WrittenAnchor → Anchor
  | .caret =>
    if flags.multiLine then (if flags.anyLineEnd then .anyLineStart else .lineStart) else .textStart
  | .dollar =>
    if flags.multiLine then (if flags.anyLineEnd then .anyLineEnd else .lineEnd) else .textEnd
  | .textStart => .textStart
  | .textEnd => .textEnd
  | .wordBoundary => .wordBoundary !flags.unicode
  | .noWordBoundary => .noWordBoundary !flags.unicode
  | .wordStart => .wordStart !flags.unicode
  | .wordEnd => .wordEnd !flags.unicode
  | .noWordBefore => .noWordBefore !flags.unicode
  | .noWordAfter => .noWordAfter !flags.unicode

/-- Any character, except line ends unless the flags include them. -/
def Flags.dot? (flags : Flags) : Option CharSet :=
  if !flags.unicode then none
  else if flags.dotAll then some CharSet.all
  else if flags.anyLineEnd then some (CharSet.ofPoints [0xA, 0xD]).complement
  else some (CharSet.single '\n').complement

/-- One written character; out of Unicode mode no byte beyond ASCII. -/
def Flags.literal? (flags : Flags) (l : Literal) : Option Outline :=
  if !flags.unicode && l.isByte && 0x80 ≤ l.char.toNat then none
  else some (.ofSet (flags.closeCase (CharSet.single l.char)))

mutual

/-- The outline of a written pattern and the flags that hold after it. Flags hold
to the end of the group they stand in. -/
def Tree.outline? (flags : Flags) : Tree → Option (Outline × Flags)
  | .empty => some (.empty, flags)
  | .flags settings => some (.empty, flags.with settings)
  | .literal l => (flags.literal? l).map fun p => (p, flags)
  | .dot => flags.dot?.map fun set => (.ofSet set, flags)
  | .anchor a => some (.anchor (flags.anchor a), flags)
  | .short cls negated => (flags.short? cls negated).map fun set => (.ofSet set, flags)
  | .property query negated => (flags.property? query negated).map fun set => (.ofSet set, flags)
  | .bracket inner negated =>
    ((inner.set? flags).bind (flags.finish? negated)).map fun set => (.ofSet set, flags)
  | .times body isLazy least most => do
    let (p, flags) ← body.outline? flags
    return (p.repeated (isLazy == flags.swapGreed) least most, flags)
  | .group settings captures body => do
    let (p, _) ← body.outline? (flags.with settings)
    return (if captures then .group p else p, flags)
  | .concat parts => (Tree.outlines? flags parts).map fun (ps, flags) => (.concat ps, flags)
  | .alternation branches =>
    (Tree.outlines? flags branches).map fun (ps, flags) => (.oneOf ps, flags)

def Tree.outlines? (flags : Flags) : List Tree → Option (List Outline × Flags)
  | [] => some ([], flags)
  | part :: rest => do
    let (p, flags) ← part.outline? flags
    let (ps, flags) ← Tree.outlines? flags rest
    return (p :: ps, flags)

end

/-- The pattern that a text spells, if it spells one of acceptable size. -/
def ofText? (text : String) : Option Pattern := do
  let tree ← Tree.read? text
  let (outline, _) ← tree.outline? {}
  if outline.isAccepted then return outline.pattern else none

end FormRules.Pattern
