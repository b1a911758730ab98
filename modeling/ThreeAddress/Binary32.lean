/-!
Single precision numbers: one sign bit, eight bits of exponent and twenty three of fraction.
Their text is the shortest decimal that reads back, positional from `10 ^ -4` up to below
`10 ^ 16` and with a power of ten outside.
-/

namespace ThreeAddress.Numeral

/-! ## The shortest decimal for a binary value

A binary format rounds every real of an interval to one value, and any decimal in that interval
reads back as the value. The shortest one is the point of the coarsest decimal grid that has a
point there; of two such points the nearer is taken, and the upper one where they are equally
near. -/

/-- The reals between `low` and `high` that round to `value`, in units of `2 ^ scale`. -/
structure Rounding where
  low : Nat
  value : Nat
  high : Nat
  scale : Int
  closed : Bool

/-- A decimal `coefficient * 10 ^ exponent`. -/
structure Decimal where
  coefficient : Nat
  exponent : Int

namespace Rounding

/-- The length of a step of the grid `10 ^ exponent` and of the unit, in a common measure. -/
def step (rounding : Rounding) (exponent : Int) : Nat :=
  Nat.pow 10 exponent.toNat * Nat.pow 2 (-rounding.scale).toNat

def unit (rounding : Rounding) (exponent : Int) : Nat :=
  Nat.pow 2 rounding.scale.toNat * Nat.pow 10 (-exponent).toNat

def contains (rounding : Rounding) (decimal : Decimal) : Bool :=
  let point := decimal.coefficient * rounding.step decimal.exponent
  let low := rounding.low * rounding.unit decimal.exponent
  let high := rounding.high * rounding.unit decimal.exponent
  if rounding.closed then low ≤ point && point ≤ high else low < point && point < high

/-- Only the two neighbours of the value need a test: the interval holds the value, so a grid
with a point in it has one of them in it. -/
def nearest? (rounding : Rounding) (exponent : Int) : Option Decimal :=
  let step := rounding.step exponent
  let exact := rounding.value * rounding.unit exponent
  let below : Decimal := ⟨exact / step, exponent⟩
  let above : Decimal := ⟨exact / step + 1, exponent⟩
  match rounding.contains below, rounding.contains above with
  | true, true => if 2 * (exact % step) < step then some below else some above
  | true, false => some below
  | false, true => some above
  | false, false => none

/-- Grids from the coarsest to the finest, starting at `10 ^ top`. -/
def shortest? (rounding : Rounding) (top : Int) (count : Nat) : Option Decimal :=
  (List.range count).findSome? fun (n : Nat) => rounding.nearest? (top - (n : Int))

end Rounding

end ThreeAddress.Numeral

/-! ## Values and texts -/

namespace ThreeAddress

structure Binary32 where
  bits : UInt32
  deriving DecidableEq, Repr

namespace Binary32

def zero : Binary32 := ⟨0⟩

def isNegative (x : Binary32) : Bool := 0x80000000 ≤ x.bits.toNat

def exponentField (x : Binary32) : Nat := x.bits.toNat / 0x800000 % 0x100

def fraction (x : Binary32) : Nat := x.bits.toNat % 0x800000

/-- The magnitude is `significand * 2 ^ scale`. -/
def significand (x : Binary32) : Nat :=
  if x.exponentField = 0 then x.fraction else 0x800000 + x.fraction

def scale (x : Binary32) : Int :=
  (max x.exponentField 1 : Nat) - 150

/-- Below a power of two the neighbour is only half as far away as above it. -/
def rounding (x : Binary32) : Numeral.Rounding where
  low := 4 * x.significand - (if x.fraction = 0 ∧ 1 < x.exponentField then 1 else 2)
  value := 4 * x.significand
  high := 4 * x.significand + 2
  scale := x.scale - 2
  closed := x.significand % 2 = 0

/-- The largest value is below `10 ^ 39` and the smallest above `10 ^ -46`. -/
def shortest (x : Binary32) : Numeral.Decimal :=
  (x.rounding.shortest? 39 86).getD ⟨0, 0⟩

end Binary32

namespace Numeral.Decimal

def dropZeros (digits : List Char) : List Char :=
  (digits.reverse.dropWhile (· == '0')).reverse

def positional (digits : List Char) (leading : Int) : List Char :=
  if leading < 0 then
    '0' :: '.' :: List.replicate (-leading - 1).toNat '0' ++ digits
  else
    let whole := digits.take (leading.toNat + 1)
    let rest := digits.drop (leading.toNat + 1)
    whole ++ List.replicate (leading.toNat + 1 - whole.length) '0' ++
      '.' :: (if rest.isEmpty then ['0'] else rest)

def scientific (digits : List Char) (leading : Int) : List Char :=
  let fraction := digits.drop 1
  digits.take 1 ++ (if fraction.isEmpty then [] else '.' :: fraction) ++
    'e' :: (toString leading).toList

/-- `leading` is the power of ten of the first digit. -/
def text (decimal : Decimal) : List Char :=
  let all := Nat.toDigits 10 decimal.coefficient
  let leading := decimal.exponent + (all.length : Int) - 1
  let digits := dropZeros all
  if -4 ≤ leading ∧ leading < 16 then positional digits leading else scientific digits leading

end Numeral.Decimal

namespace Binary32

def magnitudeText (x : Binary32) : List Char :=
  if x.exponentField = 255 then ['i', 'n', 'f']
  else if x.significand = 0 then ['0', '.', '0']
  else x.shortest.text

def text (x : Binary32) : String :=
  if x.exponentField = 255 ∧ x.fraction ≠ 0 then "NaN"
  else String.ofList ((if x.isNegative then ['-'] else []) ++ x.magnitudeText)

end Binary32

end ThreeAddress
