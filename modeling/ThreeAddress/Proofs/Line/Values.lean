import Mathlib.Data.List.Permutation
import ThreeAddress.Line.Rules
import ThreeAddress.Proofs.Numeral.Grammar

/-!
The right hand sides of assignments. A word is an increment, a quoted character, an integer of 32
bits, a decimal, a temporary or else the name of a variable, and the grammar says which. The first
characters of a word tell all of these apart but integers and decimals: every integer is a decimal
too, so integers have to be tried first, and nothing else about the order matters.
-/

namespace ThreeAddress.Line
open Numeral

inductive Shape where
  | increment | quoted | integer | decimal | temp
  deriving DecidableEq, Repr

namespace Shape

def fits : Shape → String → Bool
  | increment, word => word.toList.take 2 == ['+', '+']
  | quoted, word => isChar word
  | integer, word => (int32? word.toList).isSome
  | decimal, word => isFloat word
  | temp, word => isTemp word

def value : Shape → String → Value
  | increment, word => .increment (String.ofList (word.toList.drop 2))
  | quoted, word | integer, word => .intOrChar word
  | decimal, word => .float word
  | temp, word => .temp word

inductive Describes : Shape → List Char → Prop
  | increment (name : List Char) : Describes increment ('+' :: '+' :: name)
  | quoted (rest : List Char) : Describes quoted ('\'' :: rest)
  | integer {text : List Char} (number : Int32Text text) : Describes integer text
  | decimal {text : List Char} (number : DecimalText text) : Describes decimal text
  | temp {digits : List Char} (filled : digits ≠ [])
      (figures : ∀ c ∈ digits, Text.isDecimalDigit c = true) : Describes temp ('t' :: digits)

def broad : Shape → Shape
  -- Every integer is a decimal too.
  | integer => decimal
  | shape => shape

def hint : List Char → Shape
  | '+' :: '+' :: _ => increment
  | '\'' :: _ => quoted
  | 't' :: _ => temp
  | _ => decimal

end Shape

def priority : List Shape :=
  [.increment, .quoted, .integer, .decimal, .temp]

def valueBy (order : List Shape) (word : String) : Value :=
  match order.find? fun shape => shape.fits word with
  | some shape => shape.value word
  | none => .variable word

inductive Spells : String → Value → Prop
  | increment (name : String) : Spells ("++" ++ name) (.increment name)
  | quoted {word : String} (opened : Shape.quoted.Describes word.toList) :
      Spells word (.intOrChar word)
  | integer {word : String} (number : Int32Text word.toList) : Spells word (.intOrChar word)
  | float {word : String} (large : ¬ Int32Text word.toList) (number : DecimalText word.toList) :
      Spells word (.float word)
  | temp {word : String} (named : Shape.temp.Describes word.toList) : Spells word (.temp word)
  | other {word : String} (shapeless : ∀ shape : Shape, ¬ shape.Describes word.toList) :
      Spells word (.variable word)

variable {text : List Char} {word : String} {shape other : Shape} {order : List Shape}

/-! ## Shapes -/

theorem isIncrement_iff (word : String) :
    Shape.increment.fits word = true ↔ Shape.increment.Describes word.toList := by
  rw [Shape.fits, beq_iff_eq]
  constructor
  · intro begins
    rw [← List.take_append_drop 2 word.toList, begins]
    exact .increment _
  · intro described
    generalize word.toList = text at described ⊢
    cases described
    rfl

theorem isChar_iff (word : String) :
    isChar word = true ↔ Shape.quoted.Describes word.toList := by
  rw [isChar, beq_iff_eq]
  constructor
  · intro begins
    obtain ⟨rest, written⟩ := List.head?_eq_some_iff.mp begins
    rw [written]
    exact .quoted rest
  · intro described
    generalize word.toList = text at described ⊢
    cases described
    rfl

theorem isTemp_iff (word : String) :
    isTemp word = true ↔ Shape.temp.Describes word.toList := by
  unfold isTemp
  generalize word.toList = text
  constructor
  · intro named
    split at named
    · rw [Bool.and_eq_true, List.all_eq_true] at named
      exact .temp (by simpa using named.1) named.2
    · cases named
  · intro described
    cases described with
    | temp filled figures => simpa [filled] using figures

/-- The tests for the shapes accept what the grammar describes. -/
theorem fits_iff_describes (shape : Shape) (word : String) :
    shape.fits word = true ↔ shape.Describes word.toList := by
  cases shape with
  | increment => exact isIncrement_iff word
  | quoted => exact isChar_iff word
  | integer =>
      rw [Shape.fits, int32?_iff]
      exact ⟨.integer, fun | .integer number => number⟩
  | decimal =>
      rw [Shape.fits, isFloat, isDecimal_iff]
      exact ⟨.decimal, fun | .decimal number => number⟩
  | temp => exact isTemp_iff word

theorem int32_decimal (number : Int32Text text) : DecimalText text := by
  obtain ⟨n, integer, -⟩ := number
  exact integer.decimal

theorem decimal_hint (number : DecimalText text) : Shape.hint text = .decimal := by
  cases number with
  | number signed valued scaled =>
      obtain ⟨c, rest, rfl, figure⟩ := valued.begins
      have plain : c ≠ '+' ∧ c ≠ '\'' ∧ c ≠ 't' := by
        rcases figure with digit | rfl
        · refine ⟨?_, ?_, ?_⟩ <;> rintro rfl <;> cases digit
        · decide
      cases signed with
      | none => simp [Shape.hint, plain]
      | plus => simp [Shape.hint, plain]
      | minus => simp [Shape.hint]

theorem Shape.Describes.hint (described : shape.Describes text) :
    Shape.hint text = shape.broad := by
  cases described with
  | increment name => rfl
  | quoted rest => rfl
  | integer number => exact decimal_hint (int32_decimal number)
  | decimal number => exact decimal_hint number
  | temp filled figures => rfl

/-- A word has one shape, unless it is an integer and a decimal. -/
theorem Shape.Describes.broad_eq (described : shape.Describes text)
    (also : other.Describes text) : shape.broad = other.broad :=
  described.hint.symm.trans also.hint

theorem Shape.broad_of_ne (other : shape ≠ .integer) : shape.broad = shape := by
  cases shape with
  | integer => exact absurd rfl other
  | increment | quoted | decimal | temp => rfl

theorem Shape.broad_eq_decimal (numeric : shape.broad = .decimal) :
    shape = .integer ∨ shape = .decimal := by
  cases shape with
  | integer => exact .inl rfl
  | decimal => exact .inr rfl
  | increment | quoted | temp => cases numeric

/-- A word that is no integer has one shape at most. -/
theorem shape_unique (large : ¬ Int32Text word.toList) (fits : shape.fits word = true)
    (also : other.fits word = true) : other = shape := by
  have plain {shape : Shape} (fits : shape.fits word = true) : shape.broad = shape := by
    refine Shape.broad_of_ne ?_
    rintro rfl
    rw [Shape.fits, int32?_iff] at fits
    exact large fits
  have same := ((fits_iff_describes shape word).mp fits).broad_eq
    ((fits_iff_describes other word).mp also)
  rw [plain fits, plain also] at same
  exact same.symm

/-! ## Orders -/

theorem valueOf_eq (word : String) : valueOf word = valueBy priority word := by
  unfold valueOf
  split
  · rename_i name written
    have fits : Shape.increment.fits word = true := by simp [Shape.fits, written]
    simp [valueBy, priority, fits, Shape.value, written]
  · rename_i other
    have unfit : Shape.increment.fits word = false := by
      rw [Bool.eq_false_iff]
      intro fits
      have described := (isIncrement_iff word).mp fits
      generalize word.toList = text at described other
      cases described with
      | increment name => exact other name rfl
    -- With increments out of the way the tests stand in the order of the priorities.
    change (if (Shape.quoted.fits word || Shape.integer.fits word) = true then Value.intOrChar word
      else if Shape.decimal.fits word = true then .float word
      else if Shape.temp.fits word = true then .temp word
      else .variable word) = _
    simp only [valueBy, priority, List.find?_cons, List.find?_nil, unfit]
    cases Shape.quoted.fits word with
    | true => rfl
    | false =>
        cases Shape.integer.fits word with
        | true => rfl
        | false =>
            cases Shape.decimal.fits word with
            | true => rfl
            | false => cases Shape.temp.fits word <;> rfl

/-- A word of one shape only has the value of that shape in every order. -/
theorem valueBy_unique (member : shape ∈ order) (fits : shape.fits word = true)
    (only : ∀ other : Shape, other.fits word = true → other = shape) :
    valueBy order word = shape.value word := by
  cases hit : order.find? fun shape => shape.fits word with
  | none => exact absurd fits (List.find?_eq_none.mp hit shape member)
  | some found =>
      have alsoFits := List.find?_some hit
      rw [valueBy, hit, only found alsoFits]

theorem valueBy_none (unfit : ∀ shape : Shape, shape.fits word = false) :
    valueBy order word = .variable word := by
  have missed : (order.find? fun shape => shape.fits word) = none :=
    List.find?_eq_none.mpr fun shape _ => by simp [unfit shape]
  rw [valueBy, missed]

theorem mem_priority (shape : Shape) : shape ∈ priority := by
  cases shape <;> decide

theorem numbers_ordered (same : order.Perm priority) :
    (order.filter fun shape => shape.broad = .decimal) = [.integer, .decimal] ∨
      (order.filter fun shape => shape.broad = .decimal) = [.decimal, .integer] := by
  have either := List.mem_permutations'.mpr (same.filter fun shape => shape.broad = .decimal)
  have both : (priority.filter fun shape => shape.broad = .decimal).permutations' =
      [[.integer, .decimal], [.decimal, .integer]] := by decide
  simpa [both] using either

/-- An integer has the value of the first shape of a number in the order. -/
theorem valueBy_integer (number : Int32Text word.toList) (order : List Shape) :
    valueBy order word =
      match order.filter fun shape => shape.broad = .decimal with
      | shape :: _ => shape.value word
      | [] => .variable word := by
  have fits : (fun shape : Shape => shape.fits word) =
      fun shape => decide (shape.broad = .decimal) := by
    funext shape
    rw [Bool.eq_iff_iff, fits_iff_describes, decide_eq_true_iff]
    constructor
    · intro described
      exact described.broad_eq (.integer number)
    · intro numeric
      rcases Shape.broad_eq_decimal numeric with rfl | rfl
      · exact .integer number
      · exact .decimal (int32_decimal number)
  rw [valueBy, fits, ← List.head?_filter]
  cases order.filter fun shape => decide (shape.broad = .decimal) <;> rfl

/-- An integer is taken for a decimal if and only if decimals are tried first. -/
theorem integer_order (number : Int32Text word.toList) (same : order.Perm priority) :
    valueBy order word = valueBy priority word ↔ [.integer, .decimal].Sublist order := by
  have first : valueBy priority word = .intOrChar word := by
    rw [valueBy_integer number]
    rfl
  rw [first, valueBy_integer number]
  rcases numbers_ordered same with ahead | behind
  · rw [ahead]
    refine iff_of_true rfl ?_
    rw [← ahead]
    exact List.filter_sublist
  · rw [behind]
    refine iff_of_false (by simp [Shape.value]) fun ahead => ?_
    -- The shapes of numbers stand in one order only.
    have kept := ahead.filter fun shape => decide (shape.broad = .decimal)
    rw [behind] at kept
    exact absurd (kept.eq_of_length rfl) (by decide)

/-- For any other word the order does not matter. -/
theorem valueBy_perm (large : ¬ Int32Text word.toList) (same : order.Perm priority) :
    valueBy order word = valueBy priority word := by
  by_cases some : ∃ shape : Shape, shape.fits word = true
  · obtain ⟨shape, fits⟩ := some
    have only : ∀ other : Shape, other.fits word = true → other = shape := fun other also =>
      shape_unique large fits also
    rw [valueBy_unique (same.mem_iff.mpr (mem_priority shape)) fits only,
      valueBy_unique (mem_priority shape) fits only]
  · have unfit : ∀ shape : Shape, shape.fits word = false := by simpa using some
    rw [valueBy_none unfit, valueBy_none unfit]

theorem valueBy_order (same : order.Perm priority) (word : String) :
    valueBy order word = valueOf word ↔
      [.integer, .decimal].Sublist order ∨ ¬ Int32Text word.toList := by
  rw [valueOf_eq]
  by_cases number : Int32Text word.toList
  · rw [or_iff_left (not_not_intro number)]
    exact integer_order number same
  · exact iff_of_true (valueBy_perm number same) (.inr number)

/-! ## The grammar -/

/-- A word has the value of its shape. A decimal that is an integer has that of an integer. -/
theorem valueOf_described (described : shape.Describes word.toList)
    (precise : shape = .decimal → ¬ Int32Text word.toList) : valueOf word = shape.value word := by
  rw [valueOf_eq]
  have fits := (fits_iff_describes shape word).mpr described
  by_cases number : Int32Text word.toList
  · have numeric := described.broad_eq (.integer number)
    rcases Shape.broad_eq_decimal numeric with rfl | rfl
    · rw [valueBy_integer number]
      rfl
    · exact absurd number (precise rfl)
  · exact valueBy_unique (mem_priority shape) fits fun other also =>
      shape_unique number fits also

theorem valueOf_undescribed (undescribed : ∀ shape : Shape, ¬ shape.Describes word.toList) :
    valueOf word = .variable word := by
  rw [valueOf_eq]
  refine valueBy_none fun shape => ?_
  rw [Bool.eq_false_iff]
  exact fun fits => undescribed shape ((fits_iff_describes shape word).mp fits)

theorem Spells.valueOf_eq {value : Value} (spells : Spells word value) :
    valueOf word = value := by
  cases spells with
  | increment name =>
      have described : Shape.increment.Describes ("++" ++ name).toList := by
        rw [String.toList_append]
        exact .increment name.toList
      rw [valueOf_described described (by simp)]
      simp [Shape.value]
  | quoted opened => exact valueOf_described opened (by simp)
  | integer number => exact valueOf_described (.integer number) (by simp)
  | float large number => exact valueOf_described (.decimal number) fun _ => large
  | temp named => exact valueOf_described named (by simp)
  | other shapeless => exact valueOf_undescribed shapeless

theorem spells_described (described : shape.Describes word.toList)
    (precise : shape = .decimal → ¬ Int32Text word.toList) : Spells word (shape.value word) := by
  cases shape with
  | increment =>
      generalize written : word.toList = text at described
      cases described with
      | increment name =>
          have whole : word = "++" ++ String.ofList name := by
            rw [← String.toList_inj, written]
            simp
          rw [whole]
          simpa [Shape.value] using Spells.increment (String.ofList name)
  | quoted => exact .quoted described
  | integer =>
      cases described with
      | integer number => exact .integer number
  | decimal =>
      cases described with
      | decimal number => exact .float (precise rfl) number
  | temp => exact .temp described

theorem spells_valueOf (word : String) : Spells word (valueOf word) := by
  by_cases some : ∃ shape : Shape, shape.Describes word.toList
  · obtain ⟨shape, described, precise⟩ : ∃ shape : Shape, shape.Describes word.toList ∧
        (shape = .decimal → ¬ Int32Text word.toList) := by
      by_cases number : Int32Text word.toList
      · exact ⟨.integer, .integer number, by simp⟩
      · obtain ⟨shape, described⟩ := some
        exact ⟨shape, described, fun _ => number⟩
    rw [valueOf_described described precise]
    exact spells_described described precise
  · have undescribed : ∀ shape : Shape, ¬ shape.Describes word.toList := by simpa using some
    rw [valueOf_undescribed undescribed]
    exact .other undescribed

/-- No shape describes a word for an infinity or for what is no number. -/
theorem special_shapeless {sign special : List Char} (signed : Sign sign)
    (known : special.map Char.toLower ∈ specials) (shape : Shape) :
    ¬ shape.Describes (sign ++ special) := by
  intro described
  -- There is no digit in it, so only the first characters could make it a word of some shape.
  have undecimal : ¬ DecimalText (sign ++ special) := by
    intro number
    obtain ⟨c, member, digit⟩ := number.figure
    rw [special_figures signed known c member] at digit
    cases digit
  have hinted : Shape.hint (sign ++ special) = .decimal := by
    cases special with
    | nil => exact absurd known (by decide)
    | cons c rest =>
        have letter : c.toLower = 'i' ∨ c.toLower = 'n' := by
          simp only [List.map_cons, specials, List.mem_cons, List.cons.injEq] at known
          tauto
        have plain : c ≠ '+' ∧ c ≠ '\'' ∧ c ≠ 't' := by
          refine ⟨?_, ?_, ?_⟩ <;> rintro rfl <;> revert letter <;> decide
        cases signed with
        | none => simp [Shape.hint, plain]
        | plus => simp [Shape.hint, plain]
        | minus => simp [Shape.hint]
  have numeric := described.hint
  rw [hinted] at numeric
  rcases Shape.broad_eq_decimal numeric.symm with rfl | rfl
  · cases described with
    | integer number => exact undecimal (int32_decimal number)
  · cases described with
    | decimal number => exact undecimal number

/-- Right hand sides follow the grammar. The tests for the shapes accept what the grammar
describes; the test for decimals accepts what stands for a value of a binary format and has a
digit. No word has two shapes unless it is an integer, and every integer is a decimal, so the
shapes can be tried in any order with integers before decimals, and in no other. -/
theorem values_follow_grammar (word : String) :
    (∀ value, valueOf word = value ↔ Spells word value) ∧
    (∀ shape : Shape, shape.fits word = true ↔ shape.Describes word.toList) ∧
    (isFloat word = true ↔
      RealText word.toList ∧ ∃ c ∈ word.toList, c.isDigit = true) ∧
    (∀ sign special, Sign sign → special.map Char.toLower ∈ specials →
      word.toList = sign ++ special → valueOf word = .variable word) ∧
    (∀ shape other : Shape, shape.Describes word.toList → other.Describes word.toList →
      shape.broad = other.broad) ∧
    (Shape.integer.Describes word.toList → Shape.decimal.Describes word.toList) ∧
    ∀ order, order.Perm priority →
      (valueBy order word = valueOf word ↔
        [.integer, .decimal].Sublist order ∨ ¬ Shape.integer.Describes word.toList) := by
  have integer : Shape.integer.Describes word.toList ↔ Int32Text word.toList :=
    ⟨fun | .integer number => number, .integer⟩
  refine ⟨fun value => ⟨?_, Spells.valueOf_eq⟩, fun shape => fits_iff_describes shape word,
    isDecimal_iff_real word.toList, ?_, fun _ _ => Shape.Describes.broad_eq, ?_, ?_⟩
  · rintro rfl
    exact spells_valueOf word
  · intro sign special signed known written
    refine valueOf_undescribed fun shape => ?_
    rw [written]
    exact special_shapeless signed known shape
  · intro described
    exact .decimal (int32_decimal (integer.mp described))
  · intro order same
    rw [integer]
    exact valueBy_order same word

theorem integers_first :
    valueBy [.temp, .integer, .decimal, .quoted, .increment] "-12" = valueOf "-12" ∧
      valueBy [.decimal, .increment, .quoted, .integer, .temp] "-12" ≠ valueOf "-12" := by
  obtain ⟨-, tests, -, -, -, -, orders⟩ := values_follow_grammar "-12"
  have integer : Shape.integer.Describes "-12".toList := (tests .integer).mp (by decide)
  constructor
  · rw [orders _ (by decide)]
    exact .inl (by decide)
  · rw [Ne, orders _ (by decide), not_or]
    exact ⟨by decide, not_not_intro integer⟩

end ThreeAddress.Line
