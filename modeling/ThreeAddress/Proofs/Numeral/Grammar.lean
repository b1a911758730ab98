import Mathlib.Data.List.TakeWhile
import ThreeAddress.Numeral

/-!
The grammar of numbers. Integers and decimals are described by rules, one for each way to write a
part of a number, and the readers accept exactly what the rules describe. An integer is a decimal
too. Texts that stand for infinities or for no number are no decimals, since these have digits.
-/

namespace ThreeAddress.Numeral

inductive Sign : List Char → Prop
  | none : Sign []
  | plus : Sign ['+']
  | minus : Sign ['-']

def AllDigits (text : List Char) : Prop :=
  ∀ c ∈ text, c.isDigit = true

def Digits (text : List Char) : Prop :=
  text ≠ [] ∧ AllDigits text

/-- Digits with at most one point, and at least one digit beside it. -/
inductive Mantissa : List Char → Prop
  | whole {digits : List Char} (figures : Digits digits) : Mantissa digits
  | point {digits places : List Char} (figures : Digits digits) (more : AllDigits places) :
      Mantissa (digits ++ '.' :: places)
  | places {places : List Char} (figures : Digits places) : Mantissa ('.' :: places)

inductive Exponent : List Char → Prop
  | none : Exponent []
  | power {mark : Char} {sign digits : List Char} (letter : mark = 'e' ∨ mark = 'E')
      (signed : Sign sign) (figures : Digits digits) : Exponent (mark :: (sign ++ digits))

inductive DecimalText : List Char → Prop
  | number {sign mantissa exponent : List Char} (signed : Sign sign) (valued : Mantissa mantissa)
      (scaled : Exponent exponent) : DecimalText (sign ++ (mantissa ++ exponent))

inductive IntegerText : List Char → Int → Prop
  | plain {digits : List Char} (figures : Digits digits) :
      IntegerText digits (Nat.ofDigitChars 10 digits 0)
  | plus {digits : List Char} (figures : Digits digits) :
      IntegerText ('+' :: digits) (Nat.ofDigitChars 10 digits 0)
  | minus {digits : List Char} (figures : Digits digits) :
      IntegerText ('-' :: digits) (-(Nat.ofDigitChars 10 digits 0 : Nat))

def Int32Text (text : List Char) : Prop :=
  ∃ n, IntegerText text n ∧ -2147483648 ≤ n ∧ n ≤ 2147483647

def specials : List (List Char) :=
  [['i', 'n', 'f'], ['i', 'n', 'f', 'i', 'n', 'i', 't', 'y'], ['n', 'a', 'n']]

inductive RealText : List Char → Prop
  | decimal {text : List Char} (number : DecimalText text) : RealText text
  | special {sign word : List Char} (signed : Sign sign)
      (known : word.map Char.toLower ∈ specials) : RealText (sign ++ word)

variable {text digits rest : List Char}

/-! ## Parts of numbers -/

theorem isDigits_iff (text : List Char) : isDigits text = true ↔ Digits text := by
  simp [isDigits, Digits, AllDigits]

theorem natural_eq (digits : List Char) : natural digits = Nat.ofDigitChars 10 digits 0 :=
  Nat.ofDigitChars_eq_foldl.symm

theorem digits?_eq_some_iff (text : List Char) (n : Nat) :
    digits? text = some n ↔ Digits text ∧ n = Nat.ofDigitChars 10 text 0 := by
  rw [digits?, ← isDigits_iff, natural_eq]
  cases isDigits text <;> simp [eq_comm]

/-- Digits end where something else begins. -/
theorem digits_end (all : AllDigits digits) (rest : List Char)
    (other : ∀ c ∈ rest.head?, c.isDigit = false) :
    (digits ++ rest).takeWhile Char.isDigit = digits ∧
      (digits ++ rest).dropWhile Char.isDigit = rest := by
  rw [List.takeWhile_append_of_pos all, List.dropWhile_append_of_pos all]
  cases rest with
  | nil => simp
  | cons c later =>
      have stop : ¬ c.isDigit = true := by simp [other c rfl]
      rw [List.takeWhile_cons_of_neg stop, List.dropWhile_cons_of_neg stop, List.append_nil]
      exact ⟨rfl, rfl⟩

theorem afterSign_signed (text : List Char) :
    ∃ sign, Sign sign ∧ text = sign ++ afterSign text := by
  unfold afterSign
  split
  · exact ⟨['+'], .plus, rfl⟩
  · exact ⟨['-'], .minus, rfl⟩
  · exact ⟨[], .none, rfl⟩

theorem afterSign_append {sign : List Char} (signed : Sign sign)
    (begins : ∀ c ∈ text.head?, c ≠ '+' ∧ c ≠ '-') : afterSign (sign ++ text) = text := by
  cases signed with
  | plus => rfl
  | minus => rfl
  | none =>
      rw [List.nil_append]
      unfold afterSign
      split
      · exact absurd rfl (begins '+' rfl).1
      · exact absurd rfl (begins '-' rfl).2
      · rfl

theorem digit_unsigned {c : Char} (digit : c.isDigit = true) : c ≠ '+' ∧ c ≠ '-' ∧ c ≠ '.' := by
  refine ⟨?_, ?_, ?_⟩ <;> rintro rfl <;> cases digit

theorem Digits.begins (figures : Digits digits) (rest : List Char) :
    ∃ c more, digits ++ rest = c :: more ∧ c.isDigit = true := by
  obtain ⟨c, more, rfl⟩ := List.exists_cons_of_ne_nil figures.1
  exact ⟨c, more ++ rest, rfl, figures.2 c List.mem_cons_self⟩

theorem isExponent_iff (text : List Char) : isExponent text = true ↔ Exponent text := by
  constructor
  · intro accepted
    cases text with
    | nil => exact .none
    | cons mark rest =>
        simp only [isExponent, Bool.and_eq_true, Bool.or_eq_true, beq_iff_eq] at accepted
        obtain ⟨sign, signed, whole⟩ := afterSign_signed rest
        rw [whole]
        exact .power accepted.1 signed ((isDigits_iff _).mp accepted.2)
  · rintro (_ | ⟨letter, signed, figures⟩)
    · rfl
    · rename_i mark sign digits
      -- The digits bring no sign of their own.
      have behind : afterSign (sign ++ digits) = digits := by
        apply afterSign_append signed
        intro c first
        have digit := figures.2 c (List.mem_of_head? first)
        exact ⟨(digit_unsigned digit).1, (digit_unsigned digit).2.1⟩
      simp only [isExponent, behind, (isDigits_iff digits).mpr figures, Bool.and_true,
        Bool.or_eq_true, beq_iff_eq]
      exact letter

theorem Exponent.begins {exponent : List Char} (scaled : Exponent exponent) :
    ∀ c ∈ exponent.head?, c.isDigit = false ∧ c ≠ '.' := by
  intro c first
  cases scaled with
  | none => cases first
  | power letter signed figures =>
      cases first
      rcases letter with rfl | rfl
      · decide
      · decide

/-! ## Decimals -/

theorem digits_ahead (text : List Char) :
    ∃ digits rest, text = digits ++ rest ∧ AllDigits digits ∧
      ∀ c ∈ rest.head?, c.isDigit = false := by
  refine ⟨text.takeWhile Char.isDigit, text.dropWhile Char.isDigit,
    List.takeWhile_append_dropWhile.symm, fun c => List.mem_takeWhile_imp, fun c first => ?_⟩
  have stop := List.head?_dropWhile_not Char.isDigit text
  rw [Option.mem_def] at first
  simpa only [first] using stop

theorem isMagnitude_point {places exponent : List Char} (leading : AllDigits digits)
    (following : AllDigits places) (plain : ∀ c ∈ exponent.head?, c.isDigit = false) :
    isMagnitude (digits ++ '.' :: (places ++ exponent)) =
      (!(digits ++ places).isEmpty && isExponent exponent) := by
  obtain ⟨before, point⟩ :=
    digits_end leading ('.' :: (places ++ exponent)) (by rintro c ⟨⟩; rfl)
  obtain ⟨behind, left⟩ := digits_end following exponent plain
  unfold isMagnitude
  simp only [before, point, behind, left]

theorem isMagnitude_whole (leading : AllDigits digits)
    (plain : ∀ c ∈ rest.head?, c.isDigit = false ∧ c ≠ '.') :
    isMagnitude (digits ++ rest) = (!digits.isEmpty && isExponent rest) := by
  obtain ⟨before, left⟩ := digits_end leading rest fun c first => (plain c first).1
  unfold isMagnitude
  simp only [before, left]
  split
  · exact absurd rfl (plain '.' rfl).2
  · rfl

theorem isMagnitude_iff (text : List Char) :
    isMagnitude text = true ↔
      ∃ mantissa exponent, text = mantissa ++ exponent ∧ Mantissa mantissa ∧ Exponent exponent := by
  constructor
  · intro accepted
    obtain ⟨digits, rest, rfl, leading, plain⟩ := digits_ahead text
    -- Behind the first digits comes a point or the exponent.
    by_cases pointed : rest.head? = some '.'
    · obtain ⟨later, rfl⟩ := List.head?_eq_some_iff.mp pointed
      obtain ⟨places, exponent, rfl, following, bare⟩ := digits_ahead later
      rw [isMagnitude_point leading following bare, Bool.and_eq_true, isExponent_iff] at accepted
      obtain ⟨figures, scaled⟩ := accepted
      rcases digits with _ | ⟨c, more⟩
      · refine ⟨'.' :: places, exponent, rfl, .places ⟨?_, following⟩, scaled⟩
        simpa using figures
      · exact ⟨_ ++ '.' :: places, exponent, by simp, .point ⟨List.cons_ne_nil c more, leading⟩
          following, scaled⟩
    · have bare : ∀ c ∈ rest.head?, c.isDigit = false ∧ c ≠ '.' := fun c first =>
        ⟨plain c first, fun same => pointed (same ▸ first)⟩
      rw [isMagnitude_whole leading bare, Bool.and_eq_true, isExponent_iff] at accepted
      obtain ⟨figures, scaled⟩ := accepted
      exact ⟨digits, rest, rfl, .whole ⟨by simpa using figures, leading⟩, scaled⟩
  · rintro ⟨mantissa, exponent, rfl, valued, scaled⟩
    have bare := scaled.begins
    have plain : ∀ c ∈ exponent.head?, c.isDigit = false := fun c first => (bare c first).1
    cases valued with
    | whole figures =>
        rw [isMagnitude_whole figures.2 bare, (isExponent_iff exponent).mpr scaled]
        simp [figures.1]
    | point figures more =>
        rw [List.append_assoc, List.cons_append, isMagnitude_point figures.2 more plain,
          (isExponent_iff exponent).mpr scaled]
        simp [figures.1]
    | places figures =>
        have unled : AllDigits [] := fun c member => absurd member List.not_mem_nil
        have pointed := isMagnitude_point unled figures.2 plain
        rw [List.nil_append, List.nil_append, (isExponent_iff exponent).mpr scaled] at pointed
        rw [List.cons_append, pointed]
        simp [figures.1]

theorem Mantissa.begins {mantissa : List Char} (valued : Mantissa mantissa) :
    ∃ c rest, mantissa = c :: rest ∧ (c.isDigit = true ∨ c = '.') := by
  cases valued with
  | whole figures =>
      obtain ⟨c, rest, same, digit⟩ := figures.begins []
      exact ⟨c, rest, by rwa [List.append_nil] at same, .inl digit⟩
  | point figures more =>
      obtain ⟨c, rest, same, digit⟩ := figures.begins _
      exact ⟨c, rest, same, .inl digit⟩
  | places figures => exact ⟨'.', _, rfl, .inr rfl⟩

theorem isDecimal_iff (text : List Char) : isDecimal text = true ↔ DecimalText text := by
  rw [isDecimal, isMagnitude_iff]
  constructor
  · rintro ⟨mantissa, exponent, same, valued, scaled⟩
    obtain ⟨sign, signed, whole⟩ := afterSign_signed text
    rw [whole, same]
    exact .number signed valued scaled
  · rintro ⟨signed, valued, scaled⟩
    rename_i sign mantissa exponent
    refine ⟨mantissa, exponent, ?_, valued, scaled⟩
    obtain ⟨c, rest, rfl, figure⟩ := valued.begins
    apply afterSign_append signed
    rintro d ⟨⟩
    rcases figure with digit | rfl
    · exact ⟨(digit_unsigned digit).1, (digit_unsigned digit).2.1⟩
    · decide

/-! ## Integers -/

theorem unsigned?_digits (figures : Digits text) :
    unsigned? text = some (Nat.ofDigitChars 10 text 0) := by
  have found := (digits?_eq_some_iff text _).mpr ⟨figures, rfl⟩
  obtain ⟨c, rest, rfl⟩ := List.exists_cons_of_ne_nil figures.1
  simp [unsigned?, (digit_unsigned (figures.2 c List.mem_cons_self)).1, found]

theorem signed?_eq_some_iff (text : List Char) (n : Int) :
    signed? text = some n ↔ IntegerText text n := by
  constructor
  · intro read
    unfold signed? at read
    split at read
    · obtain ⟨_, known, rfl⟩ := Option.map_eq_some_iff.mp read
      obtain ⟨_, found, ⟨⟩⟩ := Option.bind_eq_some_iff.mp known
      obtain ⟨figures, rfl⟩ := (digits?_eq_some_iff _ _).mp found
      exact .minus figures
    · obtain ⟨_, known, rfl⟩ := Option.map_eq_some_iff.mp read
      obtain ⟨_, found, ⟨⟩⟩ := Option.bind_eq_some_iff.mp known
      unfold unsigned? at found
      split at found
      · obtain ⟨figures, rfl⟩ := (digits?_eq_some_iff _ _).mp found
        exact .plus figures
      · obtain ⟨figures, rfl⟩ := (digits?_eq_some_iff _ _).mp found
        exact .plain figures
  · intro written
    cases written with
    | plain figures =>
        have found := unsigned?_digits figures
        -- The first figure is no sign, so none is taken off.
        obtain ⟨c, rest, rfl⟩ := List.exists_cons_of_ne_nil figures.1
        simp [signed?, (digit_unsigned (figures.2 c List.mem_cons_self)).2.1, found]
    | plus figures => simp [signed?, unsigned?, (digits?_eq_some_iff _ _).mpr ⟨figures, rfl⟩]
    | minus figures => simp [signed?, (digits?_eq_some_iff _ _).mpr ⟨figures, rfl⟩]

theorem int32?_iff (text : List Char) : (int32? text).isSome = true ↔ Int32Text text := by
  rw [int32?_isSome_iff]
  refine exists_congr fun n => and_congr (signed?_eq_some_iff text n) ?_
  omega

theorem IntegerText.decimal {n : Int} (integer : IntegerText text n) : DecimalText text := by
  have whole {sign digits : List Char} (signed : Sign sign) (figures : Digits digits) :
      DecimalText (sign ++ digits) := by
    simpa only [List.append_nil] using DecimalText.number signed (.whole figures) .none
  cases integer with
  | plain figures => exact whole .none figures
  | plus figures => exact whole .plus figures
  | minus figures => exact whole .minus figures

/-! ## Numbers that are written -/

theorem digits_written (n : Nat) : Digits (Nat.toDigits 10 n) :=
  ⟨Nat.toDigits_ne_nil, fun _ member => Nat.isDigit_of_mem_toDigits (by decide) (by decide) member⟩

theorem natural_written (n : Nat) : natural (Nat.toDigits 10 n) = n := by
  rw [natural_eq, Nat.ofDigitChars_toDigits (by decide) (by decide)]

theorem uint32?_written (n : UInt32) : uint32? (Nat.toDigits 10 n.toNat) = some n := by
  have read := unsigned?_digits (digits_written n.toNat)
  rw [Nat.ofDigitChars_toDigits (by decide) (by decide)] at read
  simp [uint32?, read, n.toNat_lt]

theorem uint8?_written (n : UInt8) : uint8? (Nat.toDigits 10 n.toNat) = some n := by
  have read := unsigned?_digits (digits_written n.toNat)
  rw [Nat.ofDigitChars_toDigits (by decide) (by decide)] at read
  simp [uint8?, read, n.toNat_lt]

theorem signed?_written (n : Int) : signed? (Int.repr n).toList = some n := by
  have valued (m : Nat) : Nat.ofDigitChars 10 (Nat.toDigits 10 m) 0 = m :=
    Nat.ofDigitChars_toDigits (by decide) (by decide)
  rw [signed?_eq_some_iff]
  cases n with
  | ofNat m =>
      have written := IntegerText.plain (digits_written m)
      rwa [valued, ← Nat.toList_repr] at written
  | negSucc m =>
      have written := IntegerText.minus (digits_written (m + 1))
      rw [valued, ← Nat.toList_repr] at written
      have signed : (Int.repr (.negSucc m)).toList = '-' :: (Nat.repr (m + 1)).toList := by
        simp [Int.repr]
      rwa [signed]

/-- An integer is written with digits and at most a minus sign before them. -/
theorem signed_written (n : Int) : ∀ c ∈ (Int.repr n).toList, c.isDigit = true ∨ c = '-' := by
  intro c member
  cases n with
  | ofNat m => exact .inl ((digits_written m).2 c (Nat.toList_repr ▸ member))
  | negSucc m =>
      rcases List.mem_append.mp (String.toList_append ▸ member) with sign | digit
      · exact .inr (List.mem_singleton.mp sign)
      · exact .inl ((digits_written (m + 1)).2 c (Nat.toList_repr ▸ digit))

theorem int32?_written (n : Int32) : int32? (Int.repr n.toInt).toList = some n := by
  have low := n.le_toInt
  have high := n.toInt_lt
  rw [int32?, signed?_written, Option.bind_some, if_pos (by omega)]
  exact congrArg some (Int32.ofInt_toInt n)

/-! ## Values of a binary format -/

theorem DecimalText.figure (number : DecimalText text) : ∃ c ∈ text, c.isDigit = true := by
  have some {digits : List Char} (figures : Digits digits) : ∃ c ∈ digits, c.isDigit = true := by
    obtain ⟨c, rest, rfl⟩ := List.exists_cons_of_ne_nil figures.1
    exact ⟨c, List.mem_cons_self, figures.2 c List.mem_cons_self⟩
  cases number with
  | number signed valued scaled =>
      cases valued with
      | whole figures =>
          obtain ⟨c, member, digit⟩ := some figures
          exact ⟨c, by simp [member], digit⟩
      | point figures more =>
          obtain ⟨c, member, digit⟩ := some figures
          exact ⟨c, by simp [member], digit⟩
      | places figures =>
          obtain ⟨c, member, digit⟩ := some figures
          exact ⟨c, by simp [member], digit⟩

theorem toLower_digit {c : Char} (digit : c.isDigit = true) : c.toLower = c := by
  refine dif_neg fun capital => ?_
  simp only [Char.isDigit, Bool.and_eq_true, decide_eq_true_eq] at digit
  exact absurd (UInt32.le_trans capital.1 digit.2) (by decide)

/-- The words for infinities and for what is no number have no digits, with or without a sign. -/
theorem special_figures {sign word : List Char} (signed : Sign sign)
    (known : word.map Char.toLower ∈ specials) : ∀ c ∈ sign ++ word, c.isDigit = false := by
  have letters : ∀ special ∈ specials, special.all (fun c => !c.isDigit) = true := by decide
  have unsigned : ∀ c ∈ sign, c.isDigit = false := by
    cases signed with
    | none => simp
    | plus => exact List.forall_mem_singleton.mpr (by decide)
    | minus => exact List.forall_mem_singleton.mpr (by decide)
  intro c member
  rcases List.mem_append.mp member with before | among
  · exact unsigned c before
  · by_contra digit
    rw [Bool.not_eq_false] at digit
    have lower := List.all_eq_true.mp (letters _ known) c.toLower (List.mem_map_of_mem among)
    rw [toLower_digit digit, digit] at lower
    cases lower

/-- What stands for a value of a binary format is a decimal if there is a digit in it. -/
theorem isDecimal_iff_real (text : List Char) :
    isDecimal text = true ↔ RealText text ∧ ∃ c ∈ text, c.isDigit = true := by
  rw [isDecimal_iff]
  constructor
  · intro number
    exact ⟨.decimal number, number.figure⟩
  · rintro ⟨decimal | ⟨signed, known⟩, c, member, digit⟩
    · assumption
    · rw [special_figures signed known c member] at digit
      cases digit

end ThreeAddress.Numeral
