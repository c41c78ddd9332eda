import FormRules.Unicode.CharSet

/-!
Sets of characters as sequences of byte ranges in UTF-8, and the sharing among
texts that begin alike.
-/

namespace FormRules.Pattern

/-- An inclusive range of bytes. -/
abbrev ByteRange := Nat × Nat

/-- The bytes of a code point. -/
def utf8Bytes (n : Nat) : List Nat :=
  if n < 0x80 then [n]
  else if n < 0x800 then [0xC0 + n / 64, 0x80 + n % 64]
  else if n < 0x10000 then [0xE0 + n / 4096, 0x80 + n / 64 % 64, 0x80 + n % 64]
  else [0xF0 + n / 262144, 0x80 + n / 4096 % 64, 0x80 + n / 64 % 64, 0x80 + n % 64]

/-- Cuts a range into blocks in which every byte runs through one range: partial
blocks of 64, then of 64 times 64, at both ends. -/
def cutBlocks (block : Nat) : Nat → Nat → Nat → List (Nat × Nat)
  | 0, first, last => [(first, last)]
  | levels + 1, first, last =>
    if first / block = last / block then [(first, last)]
    else
      let left := if first % block = 0 then [] else [(first, first / block * block + block - 1)]
      let right := if last % block = block - 1 then [] else [(last / block * block, last)]
      let lo := if first % block = 0 then first else first / block * block + block
      let hi := if last % block = block - 1 then last else last / block * block - 1
      let middle := if lo ≤ hi then cutBlocks (block * 64) levels lo hi else []
      left ++ middle ++ right

/-- The ranges of code points with as many bytes each, without surrogates. -/
def utf8Lengths : List (Nat × Nat) :=
  [(0, 0x7F), (0x80, 0x7FF), (0x800, 0xD7FF), (0xE000, 0xFFFF), (0x10000, 0x10FFFF)]

/-- The sequences of byte ranges that make up a set, in ascending order. -/
def byteSequences (set : Unicode.CharSet) : List (List ByteRange) :=
  set.ranges.flatMap fun (first, last) =>
    utf8Lengths.flatMap fun (lo, hi) =>
      let a := max first lo
      let b := min last hi
      if a ≤ b then
        (cutBlocks 64 3 a b).map fun (x, y) => (utf8Bytes x).zip (utf8Bytes y)
      else []

/-- Groups neighbouring sequences by their first byte range: each range with the
tails that follow it. -/
def groupByFirst (sequences : List (List ByteRange)) : List (ByteRange × List (List ByteRange)) :=
  sequences.foldr (fun s groups =>
    match s, groups with
    | [], groups => groups
    | range :: tail, (range', tails) :: rest =>
      if range = range' then (range, tail :: tails) :: rest
      else (range, [tail]) :: (range', tails) :: rest
    | range :: tail, [] => [(range, [tail])]) []

/-- Cuts a list of texts at the empty ones, where a match may end. Empty texts before
any other count once. -/
def cutAtEnds (texts : List (List Nat)) : List (List (List Nat)) :=
  let leading := texts.takeWhile List.isEmpty
  let others := texts.dropWhile List.isEmpty
  let cut := others.splitOnP List.isEmpty
  if leading.isEmpty then cut else [] :: cut

/-- The tails of the texts that begin with each byte. -/
def tailsByByte (texts : List (List Nat)) : List (List (List Nat)) :=
  (texts.filterMap List.head?).eraseDups.map fun byte =>
    texts.filterMap fun text =>
      match text with
      | [] => none
      | first :: tail => if first = byte then some tail else none

end FormRules.Pattern
