import FormRules.Binary64.Rounding
import FormRules.Numeral

/-!
Doubles as decimal text. A number is written with the fewest digits that read
back as it, the nearest such digits where there is a choice, always in
positional notation. A decimal is read as the double nearest to it.
-/

namespace FormRules.Binary64

/-- The double nearest to `± digits * 10 ^ scale`. Beyond 310 integer digits every
decimal is infinite and below 330 leading zeros every decimal is zero, which
bounds the powers that are computed. -/
def ofDecimal (negative : Bool) (digits : Nat) (scale : Int) : Binary64 :=
  if digits = 0 then ofPlace negative 0
  else
    let length : Int := (Numeral.writeNat digits).length
    if 310 < length + scale then infinity negative
    else if length + scale < -330 then ofPlace negative 0
    else
      match scale with
      | .ofNat s => ofRatio negative (digits * Nat.pow 10 s) 1
      | .negSucc s => ofRatio negative digits (Nat.pow 10 (s + 1))

/-- The exponent after `e` or `E`: an optional sign and at least one digit. -/
def readExponent? (chars : List Char) : Option Int :=
  match chars with
  | [] => some 0
  | mark :: rest => if mark = 'e' ∨ mark = 'E' then Numeral.integer? rest else none

/-- An unsigned decimal: digits with an optional point, at least one digit in
all, and an optional exponent. -/
def readUnsigned? (negative : Bool) (chars : List Char) : Option Binary64 :=
  let whole := chars.takeWhile Char.isDigit
  let afterWhole := chars.dropWhile Char.isDigit
  let (fraction, rest) :=
    match afterWhole with
    | '.' :: tail => (tail.takeWhile Char.isDigit, tail.dropWhile Char.isDigit)
    | _ => ([], afterWhole)
  if whole.isEmpty && fraction.isEmpty then none
  else
    (readExponent? rest).map fun exponent =>
      ofDecimal negative (Nat.ofDigitChars 10 (whole ++ fraction) 0)
        (exponent - fraction.length)

/-- A number, or one of the names `inf`, `infinity` and `nan` in any case. -/
def readMagnitude? (negative : Bool) (chars : List Char) : Option Binary64 :=
  match readUnsigned? negative chars with
  | some x => some x
  | none =>
    let name := String.ofList (chars.map Char.toLower)
    if name = "inf" ∨ name = "infinity" then some (infinity negative)
    else if name = "nan" then some nan
    else none

/-- Reads a double with an optional sign. -/
def read? (chars : List Char) : Option Binary64 :=
  match chars with
  | '-' :: rest => readMagnitude? true rest
  | '+' :: rest => readMagnitude? false rest
  | _ => readMagnitude? false chars

/-- The power `e` with `10 ^ (e - 1) ≤ num / den < 10 ^ e`. -/
def decimalExponent (num den : Nat) : Int :=
  let guess : Int := ((Nat.log2 num : Int) - (Nat.log2 den : Int)) * 30103 / 100000
  let isBelow (e : Int) : Bool :=
    match e with
    | .ofNat k => num < den * Nat.pow 10 k
    | .negSucc k => num * Nat.pow 10 (k + 1) < den
  ([guess - 1, guess, guess + 1, guess + 2].find? isBelow).getD (guess + 3)

/-- The decimals of a grid `10 ^ power` next to `num / den` that lie within the
interval from `low / den` to `high / den`: the nearer of the lower and the upper
neighbour if both do. The ends count when `closed` holds. -/
def gridHit? (low num high den : Nat) (closed : Bool) (power : Int) : Option Nat :=
  let up := match power with | .ofNat k => Nat.pow 10 k | .negSucc _ => 1
  let down := match power with | .ofNat _ => 1 | .negSucc k => Nat.pow 10 (k + 1)
  let unit := den * up
  let below := num * down / unit
  let above := below + 1
  let lowerHit :=
    if closed then low * down ≤ below * unit else low * down < below * unit
  let upperHit :=
    if closed then above * unit ≤ high * down else above * unit < high * down
  let lowerGap := num * down - below * unit
  let upperGap := above * unit - num * down
  if lowerHit ∧ upperHit then
    if lowerGap < upperGap then some below
    else if upperGap < lowerGap then some above
    else some (below + below % 2)
  else if lowerHit then some below
  else if upperHit then some above
  else none

/-- The digits `d` and power `p` of the shortest decimal `d * 10 ^ p` that reads
back as the finite magnitude at a place. Quarters of a step of the row keep the
ends of the rounding interval integral; below a power of two the row is twice
as dense, so there the lower half-step is a quarter. -/
def shortest (place : Nat) : Nat × Int :=
  let m := significandAt place
  let (scale, den) : Nat × Nat :=
    match exponentAt place - 2 with
    | .ofNat e => (Nat.pow 2 e, 1)
    | .negSucc e => (1, Nat.pow 2 (e + 1))
  let num := 4 * m * scale
  let high := (4 * m + 2) * scale
  let low := (if m = octave ∧ 2 * octave ≤ place then 4 * m - 1 else 4 * m - 2) * scale
  let top := decimalExponent num den
  let grids := (List.range 17).map fun n : Nat => top - (n + 1)
  let hit := grids.findSome? fun power =>
    (gridHit? low num high den (m % 2 == 0) power).map fun d => (d, power)
  match hit with
  | some (d, power) => if d % 10 = 0 then (d / 10, power + 1) else (d, power)
  | none => (num / den, 0)

/-- Positional notation of `digits * 10 ^ power`. -/
def positional (digits : Nat) (power : Int) : List Char :=
  let chars := Numeral.writeNat digits
  match power with
  | .ofNat zeros => chars ++ List.replicate zeros '0'
  | .negSucc k =>
    let places := k + 1
    if places < chars.length then
      chars.take (chars.length - places) ++ '.' :: chars.drop (chars.length - places)
    else '0' :: '.' :: (List.replicate (places - chars.length) '0' ++ chars)

/-- The text of a double: the shortest digits that read back, in positional
notation, without a point for whole numbers. -/
def write : Binary64 → List Char
  | nan => ['N', 'a', 'N']
  | signed negative place _ =>
    let magnitude :=
      if place = 0 then ['0']
      else if place < infinityPlace then
        let (digits, power) := shortest place
        positional digits power
      else ['i', 'n', 'f']
    if negative then '-' :: magnitude else magnitude

def text (x : Binary64) : String := String.ofList x.write

end FormRules.Binary64
