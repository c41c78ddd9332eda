import Std.Data.HashSet
import FormRules.Unicode.Property

/-!
Text patterns and the texts that hold a match. A pattern consumes characters and
asks, by anchors, about the characters on both sides of a place. Whether a text
holds a match is found in one pass, by the remainders that a pattern leaves after
each character; the order of alternatives plays no part in that question.
-/

namespace FormRules

/-- A condition on a place between two characters. -/
inductive Anchor where
  | textStart
  | textEnd
  | lineStart
  | lineEnd
  /-- Line ends may also be carriage returns, with or without a line feed. -/
  | anyLineStart
  | anyLineEnd
  | wordBoundary (ascii : Bool)
  | noWordBoundary (ascii : Bool)
  | wordStart (ascii : Bool)
  | wordEnd (ascii : Bool)
  | noWordBefore (ascii : Bool)
  | noWordAfter (ascii : Bool)
  deriving DecidableEq, Hashable

/-- A place in a text: the character before it and the one after it. -/
structure Place where
  before : Option Char
  after : Option Char

namespace Anchor

def isWordChar (ascii : Bool) (c : Char) : Bool :=
  if c.toNat < 0x80 then c.isAlphanum || c == '_'
  else !ascii && Unicode.wordCharacters.contains c

def isWord (ascii : Bool) (c : Option Char) : Bool :=
  c.any (isWordChar ascii)

/-- Whether an anchor holds at a place. -/
def holdsAt (place : Place) : Anchor → Bool
  | textStart => place.before.isNone
  | textEnd => place.after.isNone
  | lineStart => place.before.all (· == '\n')
  | lineEnd => place.after.all (· == '\n')
  | anyLineStart =>
    place.before.all fun c => c == '\n' || (c == '\r' && place.after != some '\n')
  | anyLineEnd =>
    place.after.all fun c => c == '\r' || (c == '\n' && place.before != some '\r')
  | wordBoundary ascii => isWord ascii place.before != isWord ascii place.after
  | noWordBoundary ascii => isWord ascii place.before == isWord ascii place.after
  | wordStart ascii => !isWord ascii place.before && isWord ascii place.after
  | wordEnd ascii => isWord ascii place.before && !isWord ascii place.after
  | noWordBefore ascii => !isWord ascii place.before
  | noWordAfter ascii => !isWord ascii place.after

/-- Whether an anchor holds between the bytes of a character. Words of ASCII letters
end before such a place and begin after it. -/
def holdsInside : Anchor → Bool
  | noWordBoundary ascii | noWordBefore ascii | noWordAfter ascii => ascii
  | _ => false

/-- Whether an anchor asks about words of any letters. -/
def asksUnicodeWord : Anchor → Bool
  | wordBoundary ascii | noWordBoundary ascii | wordStart ascii | wordEnd ascii
  | noWordBefore ascii | noWordAfter ascii => !ascii
  | _ => false

end Anchor

/-- A pattern of texts. -/
inductive Pattern where
  | empty
  | one (set : Unicode.CharSet)
  | anchor (anchor : Anchor)
  | seq (first second : Pattern)
  | either (left right : Pattern)
  /-- At least `least` and at most `most` repetitions. -/
  | times (body : Pattern) (least : Nat) (most : Option Nat)
  deriving DecidableEq, Hashable

namespace Pattern

/-- Whether the empty text matches where certain anchors hold. -/
def acceptsEmptyIf (holds : Anchor → Bool) : Pattern → Bool
  | empty => true
  | one _ => false
  | anchor a => holds a
  | seq p q => p.acceptsEmptyIf holds && q.acceptsEmptyIf holds
  | either p q => p.acceptsEmptyIf holds || q.acceptsEmptyIf holds
  | times p least _ => least == 0 || p.acceptsEmptyIf holds

/-- Whether the empty text matches at a place. -/
def acceptsEmpty (place : Place) (pattern : Pattern) : Bool :=
  pattern.acceptsEmptyIf (Anchor.holdsAt place)

/-- Whether the empty text matches between the bytes of a character. -/
def acceptsInside (pattern : Pattern) : Bool :=
  pattern.acceptsEmptyIf Anchor.holdsInside

/-- Whether some anchor asks about words of any letters. -/
def asksUnicodeWords : Pattern → Bool
  | empty | one _ => false
  | anchor a => a.asksUnicodeWord
  | seq p q | either p q => p.asksUnicodeWords || q.asksUnicodeWords
  | times p _ _ => p.asksUnicodeWords

/-- One pattern after another, without a leading empty one. -/
def andThen (p q : Pattern) : Pattern :=
  match p with
  | empty => q
  | p => seq p q

/-- What may still follow after a character was consumed at a place. A body that
accepts the empty text there may use up repetitions without consuming, so no
least number of them remains. -/
def remainders (place : Place) (c : Char) : Pattern → List Pattern
  | empty => []
  | one set => if set.contains c then [empty] else []
  | anchor _ => []
  | seq p q =>
    (p.remainders place c).map (fun r => r.andThen q) ++
      (if p.acceptsEmpty place then q.remainders place c else [])
  | either p q => p.remainders place c ++ q.remainders place c
  | times p least most =>
    if most = some 0 then []
    else
      let least := if p.acceptsEmpty place then 0 else least - 1
      (p.remainders place c).map fun r => r.andThen (times p least (most.map (· - 1)))

/-- Drops patterns that stand in a list before. -/
def distinct (patterns : List Pattern) : List Pattern :=
  (patterns.foldl (fun ((seen, kept) : Std.HashSet Pattern × List Pattern) p =>
    if seen.contains p then (seen, kept) else (seen.insert p, p :: kept)) ({}, [])).2.reverse

/-- Whether a match begins here or later, or one of the patterns that began
earlier completes. Where `cut` is set, no match goes across a character of several
bytes. -/
def matchFrom (cut : Bool) (start : Pattern) (pending : List Pattern) (before : Option Char) :
    List Char → Bool
  | [] => (start :: pending).any fun p => p.acceptsEmpty ⟨before, none⟩
  | c :: rest =>
    let place : Place := ⟨before, some c⟩
    let current := start :: pending
    let next :=
      if cut ∧ 0x80 ≤ c.toNat then []
      else distinct (current.flatMap fun p => p.remainders place c)
    current.any (fun p => p.acceptsEmpty place) || matchFrom cut start next (some c) rest

/-- The largest number of bytes of a text in which words of any letters are looked
up by trying every beginning on its own. -/
def trialLimit : Nat := 128

/-- Whether some part of a text matches. The search goes by the first place where a
match ends. If that is inside a character, no match is there, and the search begins
again behind it, so that no match goes across the character; only the trial of every
beginning does not stop there. -/
def matchesIn (pattern : Pattern) (text : String) : Bool :=
  let tried := pattern.asksUnicodeWords && text.utf8ByteSize ≤ trialLimit
  matchFrom (pattern.acceptsInside && !tried) pattern [] none text.toList

end Pattern

end FormRules
