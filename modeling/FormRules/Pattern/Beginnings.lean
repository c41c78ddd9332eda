import FormRules.Pattern.ByteTree
import FormRules.Pattern.Outline

/-!
The texts that the matches of a pattern begin with. When they are few, and each is a
whole match, a search for these texts does the work of the pattern, and no automaton
is built for it. Texts are kept as bytes, in order of preference, up to limits on
their number and length; a text that was cut short, or after which more follows, is
no whole match.
-/

namespace FormRules.Pattern

/-- A text that matches begin with, and whether it is a match as it stands. -/
structure Beginning where
  bytes : List Nat
  whole : Bool

/-- Keeps some first bytes. -/
def Beginning.cut (n : Nat) (b : Beginning) : Beginning :=
  if n < b.bytes.length then ⟨b.bytes.take n, false⟩ else b

/-- The beginnings of matches, first choice first; nothing when there are too many. -/
abbrev Beginnings := Option (List Beginning)

namespace Beginnings

/-- The limits: characters of a set, counted repetitions, bytes of a text, and texts. -/
def setLimit : Nat := 10
def countLimit : Nat := 10
def lengthLimit : Nat := 100
def numberLimit : Nat := 250

def emptyText : Beginnings := some [⟨[], true⟩]

/-- Joins neighbours with the same bytes. -/
def joinAlike (list : List Beginning) : List Beginning :=
  list.foldr (fun a rest =>
    match rest with
    | b :: others =>
      if a.bytes = b.bytes then ⟨a.bytes, a.whole && b.whole⟩ :: others else a :: rest
    | [] => [a]) []

def cutAll (n : Nat) (list : List Beginning) : List Beginning := list.map (Beginning.cut n)

/-- Says that more may follow. -/
def continued (list : Beginnings) : Beginnings :=
  list.map fun list => list.map fun b => { b with whole := false }

/-- Whether no beginning is a whole match, so that nothing can be appended. -/
def isOpen (list : Beginnings) : Bool :=
  list.all fun list => list.all fun b => !b.whole

/-- The beginnings of either of two patterns. If they are too many, they are cut to
four bytes first. -/
def union (a b : Beginnings) : Beginnings :=
  match a, b with
  | some a, some b =>
    if a.length + b.length ≤ numberLimit then some (joinAlike (a ++ b))
    else
      let a := joinAlike (cutAll 4 a)
      let b := joinAlike (cutAll 4 b)
      if a.length + b.length ≤ numberLimit then some (joinAlike (a ++ b)) else none
  | _, _ => none

/-- The beginnings of one pattern after another. -/
def append (a b : Beginnings) : Beginnings :=
  match a with
  | none => none
  | some first =>
    let second := b.bind fun second =>
      if first.length * second.length ≤ numberLimit then some second else none
    match second with
    | none => if first.any fun x => x.bytes.isEmpty then none else continued (some first)
    | some second =>
      some (cutAll lengthLimit (joinAlike (first.flatMap fun x =>
        if x.whole then second.map fun y => ⟨x.bytes ++ y.bytes, y.whole⟩ else [x])))

/-- Appends a part, unless nothing can be appended. -/
def extend (a b : Beginnings) : Beginnings := if isOpen a then a else append a b

/-- The beginnings of a number of repetitions. -/
def power (a : Beginnings) : Nat → Beginnings
  | 0 => emptyText
  | n + 1 => extend (power a n) a

/-- Drops the texts that begin with an earlier one, which is preferred to them. -/
def preferred (list : List Beginning) : List Beginning :=
  (list.foldl (fun kept b =>
    if kept.any fun (k : Beginning) => k.bytes.isPrefixOf b.bytes then kept else b :: kept)
    []).reverse

/-- What all texts begin with. -/
def common (list : List Beginning) : List Nat :=
  match list with
  | [] => []
  | first :: others => others.foldl (fun shared b =>
      ((shared.zip b.bytes).takeWhile fun (x, y) => x == y).map Prod.fst) first.bytes

/-- The first bytes of texts that are not worth a search on their own, since they are
frequent. -/
def frequentBytes : List Char :=
  "\n\r (),-./0129:_abcdefghilmnoprstuvxy|".toList

def isFrequent (byte : Nat) : Bool :=
  0x80 ≤ byte || frequentBytes.any fun c => c.toNat == byte

/-- Cuts many texts to fewer bytes, until they are few. -/
def shorten (list : List Beginning) : List (Nat × Nat) → List Beginning
  | [] => list
  | (keep, number) :: attempts =>
    if list.length ≤ number then list
    else shorten (preferred (cutAll keep list)) attempts

/-- Whether texts are searched for whole. A short common beginning that is rare is
searched for alone, a long one too, and many texts are cut if that helps. -/
def areSearchedWhole (list : List Beginning) : Bool :=
  let kept := preferred list
  let shared := common kept
  let allWhole (list : List Beginning) : Bool := list.all Beginning.whole
  let isRare := !isFrequent (shared.headD 0x80)
  if 1 < list.length ∧ shared.length ≤ 3 ∧ isRare then allWhole (cutAll 1 kept)
  else
    let isFast := allWhole kept && kept.length ≤ 16
    let kept :=
      if 4 < shared.length ∨ (1 < shared.length ∧ !isFast) then cutAll shared.length kept
      else kept
    let short := shorten kept [(5, 10), (4, 10), (3, 64), (2, 64), (1, 10)]
    allWhole kept &&
      (allWhole short || short.any (fun b => b.bytes.length ≤ 2) || 64 < short.length)

end Beginnings

namespace Outline

open Beginnings (emptyText)

mutual

/-- The beginnings of the matches of an outline. -/
def beginnings : Outline → Beginnings
  | .empty | .anchor _ => emptyText
  | .text chars =>
    some [Beginning.cut Beginnings.lengthLimit ⟨chars.flatMap fun c => utf8Bytes c.toNat, true⟩]
  | .one set =>
    if set.ranges.foldl (fun n (lo, hi) => n + (hi - lo + 1)) 0 ≤ Beginnings.setLimit then
      some (set.ranges.flatMap fun (lo, hi) =>
        (List.range (hi - lo + 1)).map fun i => ⟨utf8Bytes (lo + i), true⟩)
    else none
  | .times body greedy least most =>
    let one := body.beginnings
    if least = 0 then
      let taken := if most = some 1 then one else one.continued
      if greedy then taken.union emptyText else emptyText.union taken
    else
      let list := one.power (min least Beginnings.countLimit)
      if most = some least ∧ least ≤ Beginnings.countLimit then list else list.continued
  | .group body => body.beginnings
  | .seq parts => beginningsOfSeq emptyText parts
  | .either branches => beginningsOfEither (some []) branches

def beginningsOfSeq (list : Beginnings) : List Outline → Beginnings
  | [] => list
  | part :: rest => beginningsOfSeq (list.extend part.beginnings) rest

def beginningsOfEither (list : Beginnings) : List Outline → Beginnings
  | [] => list
  | branch :: rest => beginningsOfEither (list.union branch.beginnings) rest

end

mutual

/-- Whether an outline has neither groups nor anchors. -/
def isPlain : Outline → Bool
  | .empty | .text _ | .one _ => true
  | .anchor _ | .group _ => false
  | .times body _ _ _ => body.isPlain
  | .seq parts | .either parts => arePlain parts

def arePlain : List Outline → Bool
  | [] => true
  | part :: rest => part.isPlain && arePlain rest

end

/-- Whether a search for given texts does the work of an outline. -/
def isSearchForTexts (outline : Outline) : Bool :=
  outline.isPlain &&
    outline.beginnings.any fun list =>
      !list.isEmpty && list.all (fun b => !b.bytes.isEmpty) && Beginnings.areSearchedWhole list

end Outline

end FormRules.Pattern
