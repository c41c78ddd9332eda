import Std.Data.HashMap
import FormRules.Pattern.Beginnings

/-!
The size of a pattern's automaton over UTF-8 bytes. Patterns whose automaton, run
forward or backward, would be larger than a limit are refused, so that counted
repetitions cannot multiply without bound. A state counts 32 units, a transition
of a state with several of them 8, and a branch of a choice 4. States that read the
ends of characters are shared within a set, as far as a table of limited size
remembers them; so the size of a set depends on how many states stand before it.
-/

namespace FormRules.Pattern

/-- The measures of an automaton under construction: its states, and the units that
they take beyond those of every state. -/
structure Draft where
  states : Nat
  extra : Nat

namespace Draft

/-- The largest size that is accepted. -/
def limit : Nat := 10485760

def size (draft : Draft) : Nat := 32 * draft.states + draft.extra

/-- Adds states, as long as the limit allows it. -/
def grow? (draft : Draft) (states extra : Nat) : Option Draft :=
  let grown : Draft := ⟨draft.states + states, draft.extra + extra⟩
  if grown.size ≤ limit then some grown else none

end Draft

/-- A hash of numbers in 64 bits: each is mixed in by exclusive or and a product. -/
def hashOf (numbers : List Nat) : Nat :=
  (numbers.foldl (fun (h : UInt64) n => (h ^^^ n.toUInt64) * 1099511628211)
    14695981039346656037).toNat

/-- A draft with the states that are remembered for sharing: in each slot the latest
one, with the numbers that describe it. -/
structure Sharing where
  draft : Draft
  slots : Std.HashMap Nat (List Nat × Nat)

namespace Sharing

/-- The state with a description: a remembered one, or a new one. -/
def state? (sharing : Sharing) (capacity : Nat) (description : List Nat) (extra : Nat) :
    Option (Nat × Sharing) :=
  let slot := hashOf description % capacity
  let fresh : Option (Nat × Sharing) :=
    (sharing.draft.grow? 1 extra).map fun draft =>
      let state := sharing.draft.states
      (state, ⟨draft, sharing.slots.insert slot (description, state)⟩)
  match sharing.slots[slot]? with
  | some (known, state) => if known = description then some (state, sharing) else fresh
  | none => fresh

/-- The state that reads sequences of byte ranges and goes on to a target: first the
states that read their tails, then the state with the transitions to those. -/
def tree? (target : Nat) : Nat → List (List ByteRange) → Sharing → Option (Nat × Sharing)
  | 0, _, _ => none
  | depth + 1, sequences, sharing => do
    let (transitions, sharing) ← (groupByFirst sequences).foldlM
      (fun ((transitions, sharing) : List (List Nat) × Sharing) ((lo, hi), tails) =>
        if tails.all List.isEmpty then
          some ([lo, hi, target] :: transitions, sharing)
        else
          (tree? target depth tails sharing).map fun (next, sharing) =>
            ([lo, hi, next] :: transitions, sharing))
      ([], sharing)
    sharing.state? 10000 transitions.reverse.flatten (8 * transitions.length)

/-- The states that read one sequence backward: each byte range leads to the state
that reads the one before it. -/
def path? (sequence : List ByteRange) (target : Nat) (sharing : Sharing) : Option Sharing :=
  (sequence.foldlM (fun ((next, sharing) : Nat × Sharing) (lo, hi) =>
    sharing.state? 1000 [next, lo, hi] 0) (target, sharing)).map Prod.snd

end Sharing

/-- Adds the automaton of a set, reading forward. -/
def Draft.addSet? (draft : Draft) (sequences : List (List ByteRange)) : Option Draft := do
  let target := draft.states
  let draft ← draft.grow? 1 0
  let (_, sharing) ← Sharing.tree? target 4 sequences ⟨draft, {}⟩
  return sharing.draft

/-- Adds the automaton of a set, reading backward: a choice of all sequences. -/
def Draft.addSetBackward? (draft : Draft) (sequences : List (List ByteRange)) : Option Draft := do
  let target := draft.states + 1
  let draft ← draft.grow? 2 (4 * sequences.length)
  let sharing ← sequences.foldlM
    (fun (sharing : Sharing) sequence => sharing.path? sequence target) ⟨draft, {}⟩
  return sharing.draft

/-- What an automaton is built of, in the order in which its states are added. -/
inductive Plan where
  /-- Some states and their units. -/
  | fixed (count extra : Nat)
  /-- One character beyond ASCII. -/
  | character (sequences : List (List ByteRange))
  | seq (first second : Plan)
  | copies (count : Nat) (part : Plan)

namespace Plan

/-- Applies a step several times, as long as it succeeds. -/
def iterate? {α : Type} (step : α → Option α) : Nat → α → Option α
  | 0, a => some a
  | n + 1, a =>
    match step a with
    | none => none
    | some b => iterate? step n b

/-- Carries a plan out, within the limit. -/
def build? (backward : Bool) : Plan → Draft → Option Draft
  | .fixed count extra, draft => draft.grow? count extra
  | .character sequences, draft =>
    if backward then draft.addSetBackward? sequences else draft.addSet? sequences
  | .seq first second, draft => (first.build? backward draft).bind (second.build? backward)
  | .copies count part, draft => iterate? (part.build? backward) count draft

def all (plans : List Plan) : Plan :=
  match plans with
  | [] => .fixed 0 0
  | [plan] => plan
  | plan :: rest => .seq plan (all rest)

/-- A state that offers two ways on. -/
def fork : Plan := .fixed 1 8

/-- A state without an effect, where ways meet. -/
def joint : Plan := .fixed 1 0

def ofSet (set : Unicode.CharSet) : Plan :=
  if set.isAscii then .fixed 2 (8 * set.ranges.length) else .character (byteSequences set)

/-- Repetitions. A part that may be empty needs more states to repeat without end. -/
def times (body : Plan) (takesCharacters : Bool) (least : Nat) (most : Option Nat) : Plan :=
  match least, most with
  | 0, some 1 => all [fork, body, joint]
  | 0, none => if takesCharacters then .seq fork body else all [body, fork, fork, joint]
  | least, none => .seq (.copies least body) fork
  | least, some most =>
    if least = most then .copies least body
    else
      all [if least = 0 then joint else .copies least body, joint,
        .copies (most - least) (.seq fork body)]

/-- A choice: its state stands behind the first two branches. -/
def either (branches : List Plan) : Plan :=
  all (branches.take 2 ++ .fixed 2 (4 * branches.length) :: branches.drop 2)

/-- The states and units of a choice of texts, which share their beginnings: for each
place a state for the bytes that may follow, and one for the choice whether the text
ends there. -/
def sharedTexts : Nat → List (List Nat) → Nat × Nat
  | 0, _ => (0, 0)
  | depth + 1, texts =>
    if texts.all List.isEmpty then (0, 0)
    else
      let runs := (cutAtEnds texts).map tailsByByte
      let reading := runs.filter fun run => !run.isEmpty
      let below := runs.flatten.map (sharedTexts depth)
      let sparse := (reading.map fun run => if run.length = 1 then 0 else 8 * run.length).sum
      (reading.length + 1 + (below.map Prod.fst).sum,
        sparse + 4 * (reading.length + runs.length - 1) + (below.map Prod.snd).sum)

/-- A choice of texts. -/
def ofTexts (texts : List (List Nat)) : Plan :=
  let (states, extra) := sharedTexts ((texts.map List.length).foldl max 0 + 1) texts
  .fixed (states + 1) extra

end Plan

/-- The bytes of a text, in the order of reading. -/
def textBytes (backward : Bool) (chars : List Char) : List Nat :=
  let bytes := chars.flatMap fun c => utf8Bytes c.toNat
  if backward then bytes.reverse else bytes

namespace Outline

def text? : Outline → Option (List Char)
  | .text chars => some chars
  | _ => none

mutual

/-- The plan of an automaton. Backward it reads parts in reverse order, and records no
groups. -/
def plan (backward : Bool) : Outline → Plan
  | .empty | .anchor _ => .joint
  | .text chars => .fixed (textBytes backward chars).length 0
  | .one set => .ofSet set
  | .times body _ least most => (body.plan backward).times body.takesCharacters least most
  | .group body =>
    if backward then body.plan backward else .all [.joint, body.plan backward, .joint]
  | .seq parts =>
    let plans := plans backward parts
    .all (if backward then plans.reverse else plans)
  | .either branches =>
    match branches.mapM text? with
    | some texts => .ofTexts (texts.map (textBytes backward))
    | none => .either (plans backward branches)

def plans (backward : Bool) : List Outline → List Plan
  | [] => []
  | part :: rest => part.plan backward :: plans backward rest

end

/-- The plan of the whole automaton: unless an anchor fixes the beginning, a loop over
any bytes stands before it; forward it records the place of the match. -/
def wholePlan (backward : Bool) (outline : Outline) : Plan :=
  let edge := if backward then .textEnd else .textStart
  let start := if outline.demands edge backward then .joint else .fixed 3 16
  .all [start, (Outline.group outline).plan backward, .joint]

/-- Whether no automaton is needed, or those of both directions stay within the
limit. -/
def isAccepted (outline : Outline) : Bool :=
  outline.isSearchForTexts ||
    [false, true].all fun backward =>
      ((outline.wholePlan backward).build? backward ⟨0, 0⟩).isSome

end Outline

end FormRules.Pattern
