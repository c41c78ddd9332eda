import FormRules.Pattern.Basic

/-!
Outlines of patterns: patterns in a simple form. Neighbouring characters are one
text, alternatives of single characters are one set, branches with a common
beginning share it, and what can only match the empty text is not repeated. The
functions `ofSet`, `concat`, `oneOf` and `repeated` keep this form. An outline gives
the pattern it stands for and, elsewhere, the size of the pattern's automaton.
-/

namespace FormRules.Pattern

open Unicode (CharSet)

/-- A pattern in simple form. -/
inductive Outline where
  | empty
  /-- Given characters, at least one. -/
  | text (chars : List Char)
  /-- One character of a set, which does not hold exactly one. -/
  | one (set : CharSet)
  | anchor (anchor : Anchor)
  /-- Repetitions, as many as possible or as few as possible. -/
  | times (body : Outline) (greedy : Bool) (least : Nat) (most : Option Nat)
  /-- A part whose place a match records. -/
  | group (body : Outline)
  | seq (parts : List Outline)
  | either (branches : List Outline)

/-- The number of bytes of a code point. -/
def utf8Length (n : Nat) : Nat :=
  if n < 0x80 then 1 else if n < 0x800 then 2 else if n < 0x10000 then 3 else 4

/-- The number of bytes of a text. -/
def utf8LengthOf (chars : List Char) : Nat :=
  chars.foldl (fun n c => n + utf8Length c.toNat) 0

namespace Outline

mutual

/-- The bytes of the longest match, if there is a longest one. -/
def longest? : Outline → Option Nat
  | .empty | .anchor _ => some 0
  | .text chars => some (utf8LengthOf chars)
  | .one set => set.ranges.getLast?.map fun r => utf8Length r.2
  | .times body _ _ most =>
    match most, body.longest? with
    | some count, some n => some (count * n)
    | _, _ => none
  | .group body => body.longest?
  | .seq parts => (longests? parts).map fun ns => ns.foldl (· + ·) 0
  | .either branches => (longests? branches).map fun ns => ns.foldl max 0

def longests? : List Outline → Option (List Nat)
  | [] => some []
  | part :: rest =>
    match part.longest?, longests? rest with
    | some n, some ns => some (n :: ns)
    | _, _ => none

end

mutual

/-- The bytes of the shortest match, if there is a match at all. -/
def shortest? : Outline → Option Nat
  | .empty | .anchor _ => some 0
  | .text chars => some (utf8LengthOf chars)
  | .one set => set.ranges.head?.map fun r => utf8Length r.1
  | .times body _ least _ => body.shortest?.map fun n => least * n
  | .group body => body.shortest?
  | .seq parts => (shortests? parts).map fun ns => ns.foldl (· + ·) 0
  | .either branches => (shortests? branches).bind List.min?

def shortests? : List Outline → Option (List Nat)
  | [] => some []
  | part :: rest =>
    match part.shortest?, shortests? rest with
    | some n, some ns => some (n :: ns)
    | _, _ => none

end

/-- Whether every match takes a character. -/
def takesCharacters (outline : Outline) : Bool :=
  outline.shortest?.any fun n => 0 < n

mutual

/-- Whether two outlines are written alike. Groups never are: each has a number of
its own. -/
def agrees : Outline → Outline → Bool
  | .empty, .empty => true
  | .text a, .text b => a == b
  | .one a, .one b => a == b
  | .anchor a, .anchor b => a == b
  | .times p greedy least most, .times q greedy' least' most' =>
    greedy == greedy' && least == least' && most == most' && p.agrees q
  | .seq ps, .seq qs => allAgree ps qs
  | .either ps, .either qs => allAgree ps qs
  | _, _ => false

def allAgree : List Outline → List Outline → Bool
  | [], [] => true
  | p :: ps, q :: qs => p.agrees q && allAgree ps qs
  | _, _ => false

end

/-- Reads a list of demands, each with whether its part takes no character, up to
the first part that may take one. -/
def demandedBeforeText : List (Bool × Bool) → Bool
  | [] => false
  | (demands, takesNothing) :: rest => demands || (takesNothing && demandedBeforeText rest)

mutual

/-- Whether every match asks for an anchor before its first character, or, backward,
after its last one. -/
def demands (anchor : Anchor) (backward : Bool) : Outline → Bool
  | .empty | .text _ | .one _ => false
  | .anchor a => a == anchor
  | .times body _ least _ => least != 0 && body.demands anchor backward
  | .group body => body.demands anchor backward
  | .seq parts =>
    let list := demandsOf anchor backward parts
    demandedBeforeText (if backward then list.reverse else list)
  | .either branches => (demandsOf anchor backward branches).all Prod.fst

def demandsOf (anchor : Anchor) (backward : Bool) : List Outline → List (Bool × Bool)
  | [] => []
  | part :: rest =>
    (part.demands anchor backward, part.longest? == some 0) :: demandsOf anchor backward rest

end

/-- Surrogates, which are no characters. -/
def surrogates : CharSet := CharSet.range 0xD800 0xDFFF

/-- One character of a set. -/
def ofSet (set : CharSet) : Outline :=
  let set := set.difference surrogates
  match set.ranges with
  | [(a, b)] => if a = b then .text [Char.ofNat a] else .one set
  | _ => .one set

/-- Puts a part before others, joining texts that meet. -/
def prepend (part : Outline) (rest : List Outline) : List Outline :=
  match part, rest with
  | .empty, _ => rest
  | .text a, .text b :: others => .text (a ++ b) :: others
  | _, _ => part :: rest

/-- The parts that an outline is a sequence of. -/
def parts : Outline → List Outline
  | .seq parts => parts
  | part => [part]

/-- One outline after another. -/
def concat (outlines : List Outline) : Outline :=
  match (outlines.flatMap parts).foldr prepend [] with
  | [] => .empty
  | [part] => part
  | parts => .seq parts

/-- The branches that an outline is a choice of. -/
def branches : Outline → List Outline
  | .either branches => branches
  | branch => [branch]

/-- The only character of a text. -/
def singleChar? : Outline → Option Char
  | .text [c] => some c
  | _ => none

def set? : Outline → Option CharSet
  | .one set => some set
  | _ => none

/-- Branches that are all single characters, or all sets, as one set. -/
def merged? (branches : List Outline) : Option Outline :=
  match branches.mapM singleChar? with
  | some chars => some (ofSet (.ofPoints (chars.map Char.toNat)))
  | none => (branches.mapM set?).map fun sets => ofSet (.unions sets)

/-- A choice of branches, without a look at their beginnings. -/
def choice (outlines : List Outline) : Outline :=
  match outlines.flatMap branches with
  | [] => .one .empty
  | [branch] => branch
  | branches => (merged? branches).getD (.either branches)

/-- What two sequences begin with alike. -/
def sharedPrefix (ps qs : List Outline) : List Outline :=
  ((ps.zip qs).takeWhile fun (p, q) => p.agrees q).map Prod.fst

/-- The parts of a sequence, for sequences only. -/
def sequence? : Outline → Option (List Outline)
  | .seq parts => some parts
  | _ => none

/-- One of several outlines. Sequences that begin alike are joined there. -/
def oneOf (outlines : List Outline) : Outline :=
  match choice outlines with
  | .either branches =>
    match branches.mapM sequence? with
    | some (first :: others) =>
      let shared := others.foldl sharedPrefix first
      if shared.isEmpty then .either branches
      else
        let tails := (first :: others).map fun parts => concat (parts.drop shared.length)
        concat (shared ++ [choice tails])
    | _ => .either branches
  | outline => outline

/-- Repetitions of an outline. What can only match the empty text is taken at most
once; none at all is the empty text. -/
def repeated (body : Outline) (greedy : Bool) (least : Nat) (most : Option Nat) : Outline :=
  let once := body.longest? == some 0
  let least := if once then min least 1 else least
  let most := if once then some ((most.map fun n => min n 1).getD 1) else most
  if most = some 0 then .empty
  else if least = 1 ∧ most = some 1 then body
  else .times body greedy least most

mutual

/-- The pattern that an outline stands for. -/
def pattern : Outline → Pattern
  | .empty => .empty
  | .text chars =>
    chars.foldr (fun c rest => (Pattern.one (CharSet.single c)).andThen rest) .empty
  | .one set => .one set
  | .anchor a => .anchor a
  | .times body _ least most => .times body.pattern least most
  | .group body => body.pattern
  | .seq parts => inSequence parts
  | .either branches => eitherOf branches

def inSequence : List Outline → Pattern
  | [] => .empty
  | part :: rest => part.pattern.andThen (inSequence rest)

def eitherOf : List Outline → Pattern
  | [] => .one CharSet.empty
  | [branch] => branch.pattern
  | branch :: rest => .either branch.pattern (eitherOf rest)

end

end Outline

end FormRules.Pattern
