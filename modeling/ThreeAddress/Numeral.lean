/-!
Numbers as they are written. An integer is an optional sign and at least one of the ten ASCII
digits; a minus sign is refused where the number must not be negative, also before a zero. A
decimal number may have a point, with at least one digit on either side of it, and an exponent.
There is no limit on its size, and words such as `inf` and `nan` are not numbers. Letters of
hexadecimal digits count the same in either case.
-/

namespace ThreeAddress.Numeral

def isDigits (text : List Char) : Bool :=
  !text.isEmpty && text.all Char.isDigit

def natural (digits : List Char) : Nat :=
  digits.foldl (fun total c => 10 * total + (c.toNat - '0'.toNat)) 0

def digits? (text : List Char) : Option Nat :=
  if isDigits text then some (natural text) else none

def unsigned? : List Char → Option Nat
  | '+' :: rest => digits? rest
  | text => digits? text

def signed? : List Char → Option Int
  | '-' :: rest => (digits? rest).map fun n => -(n : Int)
  | text => (unsigned? text).map fun n => (n : Int)

def uint8? (text : List Char) : Option UInt8 :=
  (unsigned? text).bind fun n => if n < UInt8.size then some n.toUInt8 else none

def uint32? (text : List Char) : Option UInt32 :=
  (unsigned? text).bind fun n => if n < UInt32.size then some n.toUInt32 else none

def int32? (text : List Char) : Option Int32 :=
  (signed? text).bind fun n => if -0x80000000 ≤ n ∧ n < 0x80000000 then some n.toInt32 else none

theorem int32?_isSome_iff (text : List Char) :
    (int32? text).isSome = true ↔
      ∃ n, signed? text = some n ∧ -0x80000000 ≤ n ∧ n < 0x80000000 := by
  unfold int32?
  cases signed? text with
  | none => simp
  | some n => simp

def afterSign : List Char → List Char
  | '+' :: rest => rest
  | '-' :: rest => rest
  | text => text

def isExponent : List Char → Bool
  | [] => true
  | mark :: rest => (mark == 'e' || mark == 'E') && isDigits (afterSign rest)

def isMagnitude (text : List Char) : Bool :=
  let whole := text.takeWhile Char.isDigit
  match text.dropWhile Char.isDigit with
  | '.' :: rest =>
      !(whole ++ rest.takeWhile Char.isDigit).isEmpty && isExponent (rest.dropWhile Char.isDigit)
  | rest => !whole.isEmpty && isExponent rest

def isDecimal (text : List Char) : Bool :=
  isMagnitude (afterSign text)

def isHexDigit (c : Char) : Bool :=
  c.isDigit || ('a' ≤ c && c ≤ 'f') || ('A' ≤ c && c ≤ 'F')

/-- Characters that are no hexadecimal digit are not asked for. -/
def hexDigit (c : Char) : Nat :=
  if c.isDigit then c.toNat - '0'.toNat else c.toLower.toNat - 'a'.toNat + 10

def hexadecimal (digits : List Char) : Nat :=
  digits.foldl (fun total c => 16 * total + hexDigit c) 0

example : hexadecimal ['1', '0', 'F', 'f', 'f', 'f'] = 0x10ffff := by decide

end ThreeAddress.Numeral
