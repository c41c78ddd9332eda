import FormRules.Numeral

/-!
Dotted paths. A path is a non-empty list of segments; joining two paths with a
dot appends their segments (`segments_append`). A segment that is a natural
number, with an optional plus sign, indexes a list.
-/

namespace FormRules.Path

/-- The parts of a text between its dots. -/
def segmentsOf : List Char → List (List Char)
  | [] => [[]]
  | c :: rest =>
    if c = '.' then [] :: segmentsOf rest
    else
      match segmentsOf rest with
      | [] => [[c]]
      | first :: others => (c :: first) :: others

/-- The segments of a path; the empty path has one empty segment. -/
def segments (path : String) : List String :=
  (segmentsOf path.toList).map String.ofList

/-- The text before the first dot and the text after it. -/
def splitFirst? (path : String) : Option (String × String) :=
  let chars := path.toList
  match chars.dropWhile (· ≠ '.') with
  | [] => none
  | _ :: rest => some (String.ofList (chars.takeWhile (· ≠ '.')), String.ofList rest)

/-- The position that a segment names in a list. -/
def index? (segment : String) : Option Nat :=
  Numeral.natural? segment.toList

theorem segmentsOf_ne_nil (chars : List Char) : segmentsOf chars ≠ [] := by
  cases chars with
  | nil => simp [segmentsOf]
  | cons c rest =>
    simp only [segmentsOf]
    split
    · simp
    · split <;> simp

theorem segmentsOf_append (xs ys : List Char) :
    segmentsOf (xs ++ '.' :: ys) = segmentsOf xs ++ segmentsOf ys := by
  induction xs with
  | nil => simp [segmentsOf]
  | cons c rest ih =>
    simp only [List.cons_append, segmentsOf, ih]
    split
    · rfl
    · cases h : segmentsOf rest with
      | nil => exact absurd h (segmentsOf_ne_nil rest)
      | cons first others => rfl

/-- A dot between two paths joins their segments. -/
theorem segments_append (p q : String) :
    segments (p ++ "." ++ q) = segments p ++ segments q := by
  simp [segments, segmentsOf_append]

end FormRules.Path
