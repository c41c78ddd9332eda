/-!
Sets of code points as ascending, separate ranges. Tables of characters are
written as hexadecimal words: a code point (`AA`), a range (`41-5A`), or every
second code point of a range (`100-12E/2`).
-/

namespace FormRules.Unicode

/-- A set of code points: inclusive ranges in ascending order that neither meet
nor touch. -/
structure CharSet where
  ranges : List (Nat × Nat)
  deriving DecidableEq

/-- A hash that looks at the first range and the number of ranges only. -/
instance : Hashable CharSet where
  hash set := mixHash (hash set.ranges.head?) (hash set.ranges.length)

/-- The value of hexadecimal digits. -/
def hexValue (digits : List Char) : Nat :=
  digits.foldl (fun n c =>
    16 * n + (if c.isDigit then c.toNat - '0'.toNat else c.toUpper.toNat - 'A'.toNat + 10)) 0

/-- The words of a text, which blanks and line ends separate. -/
def wordsOf (text : String) : List (List Char) :=
  (text.toList.splitOnP Char.isWhitespace).filter fun word => !word.isEmpty

namespace CharSet

/-- The last code point. -/
def lastPoint : Nat := 0x10FFFF

def empty : CharSet := ⟨[]⟩

def all : CharSet := ⟨[(0, lastPoint)]⟩

def range (first last : Nat) : CharSet :=
  if first ≤ last then ⟨[(first, last)]⟩ else empty

def single (c : Char) : CharSet := range c.toNat c.toNat

/-- Joins ranges in order of their first points, starting from an open one. -/
def joinFrom (first last : Nat) : List (Nat × Nat) → List (Nat × Nat)
  | [] => [(first, last)]
  | (lo, hi) :: rest =>
    if lo ≤ last + 1 then joinFrom first (max last hi) rest
    else (first, last) :: joinFrom lo hi rest

/-- Brings ranges into order and joins those that meet or touch. -/
def ofRanges (ranges : List (Nat × Nat)) : CharSet :=
  match ranges.mergeSort (fun a b => a.1 ≤ b.1) with
  | [] => empty
  | (lo, hi) :: rest => ⟨joinFrom lo hi rest⟩

def ofPoints (points : List Nat) : CharSet :=
  ofRanges (points.map fun n => (n, n))

def containsPoint (set : CharSet) (n : Nat) : Bool :=
  set.ranges.any fun (lo, hi) => lo ≤ n && n ≤ hi

def contains (set : CharSet) (c : Char) : Bool :=
  set.containsPoint c.toNat

def isEmpty (set : CharSet) : Bool := set.ranges.isEmpty

/-- Whether every member is an ASCII character. -/
def isAscii (set : CharSet) : Bool :=
  set.ranges.all fun (_, hi) => hi < 0x80

def union (a b : CharSet) : CharSet := ofRanges (a.ranges ++ b.ranges)

def unions (sets : List CharSet) : CharSet :=
  ofRanges (sets.flatMap CharSet.ranges)

/-- The gaps between ascending ranges from a point on. -/
def gapsFrom (next : Nat) : List (Nat × Nat) → List (Nat × Nat)
  | [] => if next ≤ lastPoint then [(next, lastPoint)] else []
  | (lo, hi) :: rest =>
    if next < lo then (next, lo - 1) :: gapsFrom (hi + 1) rest else gapsFrom (hi + 1) rest

def complement (set : CharSet) : CharSet := ⟨gapsFrom 0 set.ranges⟩

def inter (a b : CharSet) : CharSet := (a.complement.union b.complement).complement

def difference (a b : CharSet) : CharSet := a.inter b.complement

def symmetricDifference (a b : CharSet) : CharSet := (a.union b).difference (a.inter b)

/-- The ranges that a word of a table stands for. -/
def rangesOfHex (word : List Char) : List (Nat × Nat) :=
  let first := hexValue (word.takeWhile Char.isAlphanum)
  match word.dropWhile Char.isAlphanum with
  | [] => [(first, first)]
  | _ :: tail =>
    let last := hexValue (tail.takeWhile Char.isAlphanum)
    if tail.contains '/' then
      (List.range ((last - first) / 2 + 1)).map fun i => (first + 2 * i, first + 2 * i)
    else [(first, last)]

/-- The set that a table of hexadecimal words lists. -/
def ofHex (text : String) : CharSet :=
  ofRanges ((wordsOf text).flatMap rangesOfHex)

end CharSet

end FormRules.Unicode
