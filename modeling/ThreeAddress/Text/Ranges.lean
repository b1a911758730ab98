import ThreeAddress.Numeral
import ThreeAddress.Text.Pieces

/-!
Sets of characters as lists of code point ranges, both ends included. The operations on sets
give their result in order, with ranges that overlap or touch made one. Long tables are
written as text: code points in hexadecimal, a hyphen between the ends of a range, and a slash
before the distance where only every second or third code point of the range is meant.
-/

namespace ThreeAddress.Text

abbrev Ranges := List (Nat × Nat)

namespace Ranges

def has (ranges : Ranges) (c : Char) : Bool :=
  ranges.any fun range => range.1 ≤ c.toNat && c.toNat ≤ range.2

theorem has_iff (ranges : Ranges) (c : Char) :
    ranges.has c = true ↔ ∃ range ∈ ranges, range.1 ≤ c.toNat ∧ c.toNat ≤ range.2 := by
  simp [has]

def lastCodePoint : Nat := 0x10ffff

def everything : Ranges := [(0, lastCodePoint)]

def single (c : Char) : Ranges := [(c.toNat, c.toNat)]

def startsBefore (first second : Nat × Nat) : Bool :=
  first.1 ≤ second.1

/-- The ranges behind `range` begin where it does or later, each where the one before it does
or later. -/
def joinFrom (range : Nat × Nat) : Ranges → Ranges
  | [] => [range]
  | next :: later =>
      if next.1 ≤ range.2 + 1 then joinFrom (range.1, max range.2 next.2) later
      else range :: joinFrom next later

def normal (ranges : Ranges) : Ranges :=
  match ranges.mergeSort startsBefore with
  | [] => []
  | first :: later => joinFrom first later

def union (first second : Ranges) : Ranges :=
  normal (first ++ second)

/-- What ranges in order leave out from `start` on. -/
def gaps (start : Nat) : Ranges → Ranges
  | [] => if start ≤ lastCodePoint then [(start, lastCodePoint)] else []
  | (first, last) :: later =>
      if start < first then (start, first - 1) :: gaps (max start (last + 1)) later
      else gaps (max start (last + 1)) later

def complement (ranges : Ranges) : Ranges :=
  gaps 0 ranges.normal

def overlap? (first second : Nat × Nat) : Option (Nat × Nat) :=
  if max first.1 second.1 ≤ min first.2 second.2 then
    some (max first.1 second.1, min first.2 second.2)
  else none

def intersection (first second : Ranges) : Ranges :=
  normal (first.flatMap fun range => second.filterMap (overlap? range))

def difference (first second : Ranges) : Ranges :=
  first.intersection second.complement

/-- What is in one of the two and not in both. -/
def separate (first second : Ranges) : Ranges :=
  (first.union second).difference (first.intersection second)

def within (ranges : Ranges) (last : Nat) : Bool :=
  ranges.all fun range => range.2 ≤ last

def every (stride : Nat) (range : Nat × Nat) : Ranges :=
  (List.range ((range.2 - range.1) / stride + 1)).map fun n =>
    (range.1 + n * stride, range.1 + n * stride)

def ofEnds (text : List Char) : Nat × Nat :=
  match pieces (· == '-') text with
  | [first, last] => (Numeral.hexadecimal first, Numeral.hexadecimal last)
  | _ => (Numeral.hexadecimal text, Numeral.hexadecimal text)

def ofWord (text : List Char) : Ranges :=
  match pieces (· == '/') text with
  | [ends, stride] => every (Numeral.hexadecimal stride) (ofEnds ends)
  | _ => [ofEnds text]

def ofText (lines : List String) : Ranges :=
  lines.flatMap fun line => (pieces (· == ' ') line.toList).flatMap ofWord

end Ranges

/-- Sets of characters in writing, each after its names, which have blanks between them. -/
abbrev RangeTable := List (String × List String)

/-! ## Bytes

Ranges of characters as the bytes that encode them. A range is cut into sequences of byte ranges
such that every choice of one byte from each range of a sequence encodes a character of the range,
and every character of the range is one such choice. -/

abbrev ByteRange := Nat × Nat

abbrev ByteSequence := List ByteRange

/-- Each byte but the first of an encoding carries six bits, under this mark. -/
def continuationMark : Nat := 0x80

/-- The sequences from `first` to `last`, where `n` bytes follow the first one and `mark` is on
the first one. -/
def sequencesBehind (mark : Nat) : Nat → Nat → Nat → List ByteSequence
  | 0, first, last => [[(mark + first, mark + last)]]
  | n + 1, first, last =>
      let block := Nat.pow 64 (n + 1)
      let full := List.replicate (n + 1) (continuationMark, continuationMark + 63)
      let behind (byte first last : Nat) : List ByteSequence :=
        (sequencesBehind continuationMark n first last).map ((mark + byte, mark + byte) :: ·)
      let low := first / block
      let high := last / block
      if low = high then behind low (first % block) (last % block)
      else
        let cutLow := first % block ≠ 0
        let cutHigh := last % block ≠ block - 1
        let innerLow := if cutLow then low + 1 else low
        let innerHigh := if cutHigh then high - 1 else high
        (if cutLow then behind low (first % block) (block - 1) else []) ++
          (if innerLow ≤ innerHigh then [(mark + innerLow, mark + innerHigh) :: full] else []) ++
          if cutHigh then behind high 0 (last % block) else []

/-- Lengths of encodings: the characters of each, the bytes behind the first one and the mark
on the first one. Surrogates have no encoding. -/
def encodings : List (ByteRange × Nat × Nat) :=
  [((0, 0x7f), 0, 0), ((0x80, 0x7ff), 1, 0xc0), ((0x800, 0xd7ff), 2, 0xe0),
   ((0xe000, 0xffff), 2, 0xe0), ((0x10000, 0x10ffff), 3, 0xf0)]

def sequencesOf (range : Nat × Nat) : List ByteSequence :=
  encodings.flatMap fun (characters, behind, mark) =>
    match Ranges.overlap? range characters with
    | some (first, last) => sequencesBehind mark behind first last
    | none => []

def Ranges.byteSequences (ranges : Ranges) : List ByteSequence :=
  ranges.flatMap sequencesOf

end ThreeAddress.Text
