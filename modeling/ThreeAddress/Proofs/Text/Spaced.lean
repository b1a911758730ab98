import Mathlib.Data.List.TakeWhile
import ThreeAddress.Text.Lines

/-!
Blanks around and between words. Words do not see how wide the gaps between them are. Trimming does
not see the blanks at either end of a text, and keeps all that stands between its first and its
last word. Words that are joined by single blanks are read back, and so is what is cut off from such
a text, once the blanks at its ends are gone.
-/

namespace ThreeAddress.Text

variable {first gap second text : List Char}

def AllBlank (gap : List Char) : Prop :=
  ∀ c ∈ gap, isBlank c = true

def HasWord (text : List Char) : Prop :=
  ∃ c ∈ text, isBlank c = false

def trimStart (text : List Char) : List Char :=
  text.dropWhile isBlank

def trimEnd (text : List Char) : List Char :=
  (text.reverse.dropWhile isBlank).reverse

theorem trim_eq (text : List Char) : trim text = trimEnd (trimStart text) := rfl

theorem AllBlank.reverse (blank : AllBlank gap) : AllBlank gap.reverse :=
  fun c member => blank c (List.mem_reverse.mp member)

theorem HasWord.reverse (word : HasWord text) : HasWord text.reverse := by
  obtain ⟨c, member, solid⟩ := word
  exact ⟨c, List.mem_reverse.mpr member, solid⟩

theorem allBlank_of_no_word (none : ¬ HasWord text) : AllBlank text := by
  intro c member
  cases solid : isBlank c with
  | true => rfl
  | false => exact absurd ⟨c, member, solid⟩ none

/-! ## Words -/

theorem words_append_blank (first second : List Char) {c : Char} (blank : isBlank c = true) :
    words (first ++ c :: second) = words first ++ words second := by
  rw [words, pieces_append_cut isBlank first c second blank, List.filter_append]
  rfl

theorem words_indent (blank : AllBlank gap) (text : List Char) :
    words (gap ++ text) = words text := by
  induction gap with
  | nil => rfl
  | cons c rest ih =>
      have apart := words_append_blank [] (rest ++ text) (blank c List.mem_cons_self)
      rw [List.cons_append]
      exact apart.trans (ih fun d member => blank d (List.mem_cons_of_mem c member))

theorem words_gap (first second : List Char) (blank : AllBlank gap) (wide : gap ≠ []) :
    words (first ++ gap ++ second) = words first ++ words second := by
  cases gap with
  | nil => exact absurd rfl wide
  | cons c rest =>
      have behind : AllBlank rest := fun d member => blank d (List.mem_cons_of_mem c member)
      rw [List.append_assoc, List.cons_append,
        words_append_blank first _ (blank c List.mem_cons_self), words_indent behind]

theorem words_trail (text : List Char) (blank : AllBlank gap) :
    words (text ++ gap) = words text := by
  cases gap with
  | nil => rw [List.append_nil]
  | cons c rest =>
      have apart := words_gap text [] blank (List.cons_ne_nil c rest)
      rw [List.append_nil] at apart
      exact apart.trans (List.append_nil _)

theorem words_trim (text : List Char) : words (trim text) = words text := by
  -- What is dropped at either end is a gap.
  have start : words (trimStart text) = words text := by
    have blank : AllBlank (text.takeWhile isBlank) := fun c member =>
      List.mem_takeWhile_imp member
    rw [← words_indent blank, trimStart, List.takeWhile_append_dropWhile]
  have ends : ∀ rest, words (trimEnd rest) = words rest := by
    intro rest
    have blank : AllBlank (rest.reverse.takeWhile isBlank) := fun c member =>
      List.mem_takeWhile_imp member
    rw [← words_trail (trimEnd rest) blank.reverse, trimEnd, ← List.reverse_append,
      List.takeWhile_append_dropWhile, List.reverse_reverse]
  rw [trim_eq, ends, start]

/-! ## Trimming -/

theorem trim_indent (blank : AllBlank gap) (text : List Char) : trim (gap ++ text) = trim text := by
  rw [trim_eq, trimStart, List.dropWhile_append_of_pos blank]
  rfl

theorem trimEnd_trail (text : List Char) (blank : AllBlank gap) :
    trimEnd (text ++ gap) = trimEnd text := by
  rw [trimEnd, List.reverse_append, List.dropWhile_append_of_pos blank.reverse]
  rfl

theorem trimStart_append (word : HasWord first) (second : List Char) :
    trimStart (first ++ second) = trimStart first ++ second := by
  obtain ⟨c, member, solid⟩ := word
  induction first with
  | nil => cases member
  | cons d rest ih =>
      rw [List.cons_append, trimStart, trimStart, List.dropWhile_cons, List.dropWhile_cons]
      by_cases blank : isBlank d = true
      · rw [if_pos blank, if_pos blank]
        rcases List.mem_cons.mp member with rfl | later
        · exact absurd (blank.symm.trans solid) (by decide)
        · exact ih later
      · rw [if_neg blank, if_neg blank]
        rfl

theorem trimStart_ne_nil (word : HasWord text) : trimStart text ≠ [] := by
  obtain ⟨c, member, solid⟩ := word
  intro nothing
  have blank := List.dropWhile_eq_nil_iff.mp nothing c member
  exact absurd (blank.symm.trans solid) (by decide)

theorem trimEnd_append (first : List Char) (word : HasWord second) :
    trimEnd (first ++ second) = first ++ trimEnd second := by
  have mirrored := trimStart_append word.reverse first.reverse
  rw [trimStart, ← List.reverse_append] at mirrored
  rw [trimEnd, mirrored, List.reverse_append, List.reverse_reverse]
  rfl

/-- What a text begins with stays, unless it is a blank. -/
theorem trimEnd_begin {c : Char} (solid : isBlank c = false) (rest : List Char) :
    (trimEnd (c :: rest)).head? = some c := by
  by_cases word : HasWord rest
  · exact congrArg List.head? (trimEnd_append [c] word)
  · have alone : trimEnd [c] = [c] := by simp [trimEnd, solid]
    have kept := trimEnd_trail [c] (allBlank_of_no_word word)
    rw [alone] at kept
    exact congrArg List.head? kept

theorem trimEnd_ne_nil (word : HasWord text) : trimEnd text ≠ [] := by
  intro nothing
  exact trimStart_ne_nil word.reverse (List.reverse_eq_nil_iff.mp nothing)

theorem trim_trail (text : List Char) (blank : AllBlank gap) : trim (text ++ gap) = trim text := by
  by_cases word : HasWord text
  · rw [trim_eq, trimStart_append word, trimEnd_trail _ blank]
    rfl
  · -- Without a word there are blanks only, with the gap or without it.
    have empty := allBlank_of_no_word word
    have before := trim_indent empty gap
    have behind := trim_indent empty []
    have alone := trim_indent blank []
    rw [List.append_nil] at behind alone
    rw [before, behind, alone]

/-- What is between two words stays as it is. -/
theorem trim_between (before : HasWord first) (behind : HasWord second) (gap : List Char) :
    trim (first ++ gap ++ second) = trimStart first ++ gap ++ trimEnd second := by
  rw [trim_eq, List.append_assoc, trimStart_append before, ← List.append_assoc,
    trimEnd_append _ behind]

/-! ## Words with single blanks between them

A text begins and ends as its first and its last word do, unless there are blanks around it. -/

variable {word : List Char} {front back parts : List (List Char)}

def Solid (word : List Char) : Prop :=
  word ≠ [] ∧ ∀ c ∈ word, isBlank c = false

instance (word : List Char) : Decidable (Solid word) :=
  decidable_of_decidable_of_iff (p := word ≠ [] ∧ word.all (fun c => !isBlank c) = true)
    (by simp [Solid])

def joined (parts : List (List Char)) : List Char :=
  List.intercalate [' '] parts

def squeezed (text : List Char) : List Char :=
  joined (words text)

theorem Solid.hasWord (solid : Solid word) : HasWord word := by
  obtain ⟨c, rest, rfl⟩ := List.exists_cons_of_ne_nil solid.1
  exact ⟨c, List.mem_cons_self, solid.2 c List.mem_cons_self⟩

theorem digit_solid {c : Char} (digit : c.isDigit = true) : isBlank c = false := by
  have inside : 48 ≤ c.toNat ∧ c.toNat ≤ 57 := by
    simpa [Char.isDigit, UInt32.le_iff_toNat_le] using digit
  rw [isBlank, Bool.eq_false_iff]
  intro blank
  simp [blanks, Ranges.has] at blank
  omega

theorem toDigits_solid (number : Nat) : Solid (Nat.toDigits 10 number) :=
  ⟨Nat.toDigits_ne_nil, fun _ member =>
    digit_solid (Nat.isDigit_of_mem_toDigits (by decide) (by decide) member)⟩

theorem words_of_solid (solid : Solid word) : words word = [word] := by
  rw [words, pieces_whole isBlank word solid.2, List.filter_cons_of_pos]
  · rfl
  · simpa using solid.1

/-! ## The ends of a text -/

/-- A character that is no blank begins a word, or it lengthens the one behind it. -/
theorem words_cons_solid {c : Char} (solid : isBlank c = false) (rest : List Char) :
    ∃ piece later, words (c :: rest) = (c :: piece) :: later ∧
      words rest = if piece = [] then later else piece :: later := by
  cases found : pieces isBlank rest with
  | nil => exact absurd found (pieces_ne_nil isBlank rest)
  | cons piece later =>
      refine ⟨piece, later.filter fun word => !word.isEmpty, ?_, ?_⟩
      · rw [words, pieces_cons_keep isBlank c rest piece later solid found]
        rfl
      · rw [words, found]
        cases piece <;> rfl

theorem words_begin {c : Char} (begins : text.head? = some c) (solid : isBlank c = false) :
    ∃ word others, words text = (c :: word) :: others := by
  obtain ⟨rest, rfl⟩ := List.head?_eq_some_iff.mp begins
  obtain ⟨piece, later, found, -⟩ := words_cons_solid solid rest
  exact ⟨piece, later, found⟩

theorem words_end {c : Char} (ends : text.getLast? = some c) (solid : isBlank c = false) :
    ∃ others word, words text = others ++ [word ++ [c]] := by
  induction text with
  | nil => cases ends
  | cons d rest ih =>
      cases rest with
      | nil =>
          cases ends
          exact ⟨[], [], words_of_solid ⟨List.cons_ne_nil d [], by simpa using solid⟩⟩
      | cons e more =>
          obtain ⟨others, word, last⟩ := ih (by rwa [List.getLast?_cons_cons] at ends)
          cases blank : isBlank d with
          | true =>
              have apart := words_append_blank [] (e :: more) blank
              exact ⟨others, word, apart.trans last⟩
          | false =>
              obtain ⟨piece, later, found, behind⟩ := words_cons_solid blank (e :: more)
              rw [behind] at last
              split at last
              · exact ⟨(d :: piece) :: others, word, by rw [found, last, List.cons_append]⟩
              · -- The word behind may be the last one itself.
                rcases others with _ | ⟨other, others⟩
                · obtain ⟨rfl, rfl⟩ := List.cons.inj last
                  exact ⟨[], d :: word, found⟩
                · obtain ⟨-, rfl⟩ := List.cons.inj last
                  exact ⟨(d :: piece) :: others, word, found⟩

theorem trimStart_solid {c : Char} (solid : isBlank c = false) (rest : List Char) :
    trimStart (c :: rest) = c :: rest :=
  List.dropWhile_cons_of_neg (by simp [solid])

theorem trim_begin_of_word (word : HasWord text) :
    ∃ c, (trim text).head? = some c ∧ isBlank c = false := by
  obtain ⟨c, rest, starts⟩ := List.exists_cons_of_ne_nil (trimStart_ne_nil word)
  have first := List.head?_dropWhile_not isBlank text
  rw [← trimStart, starts] at first
  exact ⟨c, by rw [trim_eq, starts, trimEnd_begin first rest], first⟩

theorem trim_begin {c : Char} (begins : (trim text).head? = some c) : isBlank c = false := by
  by_cases word : HasWord text
  · obtain ⟨d, first, solid⟩ := trim_begin_of_word word
    rw [first] at begins
    cases begins
    exact solid
  · have nothing := trim_indent (allBlank_of_no_word word) []
    rw [List.append_nil] at nothing
    rw [nothing] at begins
    cases begins

theorem trim_end {c : Char} (ends : (trim text).getLast? = some c) : isBlank c = false := by
  have last := List.head?_dropWhile_not isBlank (trimStart text).reverse
  rw [trim_eq, trimEnd, List.getLast?_reverse] at ends
  simpa [ends] using last

/-- A trimmed text begins as its first word does. -/
theorem words_head (text : List Char) :
    (words (trim text)).head?.bind List.head? = (trim text).head? := by
  cases begins : (trim text).head? with
  | none =>
      rw [List.head?_eq_none_iff.mp begins]
      rfl
  | some c =>
      obtain ⟨word, others, found⟩ := words_begin begins (trim_begin begins)
      rw [found]
      rfl

/-- A trimmed text ends as its last word does. -/
theorem words_getLast (text : List Char) :
    (words (trim text)).getLast?.bind List.getLast? = (trim text).getLast? := by
  cases ends : (trim text).getLast? with
  | none =>
      rw [List.getLast?_eq_none_iff.mp ends]
      rfl
  | some c =>
      obtain ⟨others, word, found⟩ := words_end ends (trim_end ends)
      simp [found]

theorem words_ne_nil (word : HasWord text) : words text ≠ [] := by
  obtain ⟨c, begins, solid⟩ := trim_begin_of_word word
  obtain ⟨piece, others, found⟩ := words_begin begins solid
  rw [← words_trim, found]
  exact List.cons_ne_nil _ _

/-- A text that begins and ends with characters that are no blanks is trimmed. -/
theorem trim_of_ends {c d : Char} (begins : text.head? = some c) (solid : isBlank c = false)
    (ends : text.getLast? = some d) (alsoSolid : isBlank d = false) : trim text = text := by
  obtain ⟨rest, rfl⟩ := List.head?_eq_some_iff.mp begins
  obtain ⟨before, whole⟩ := List.getLast?_eq_some_iff.mp ends
  rw [trim_eq, trimStart_solid solid, whole, trimEnd]
  simp [alsoSolid]

theorem trim_trim (text : List Char) : trim (trim text) = trim text := by
  cases begins : (trim text).head? with
  | none =>
      rw [List.head?_eq_none_iff.mp begins]
      rfl
  | some c =>
      have filled : trim text ≠ [] := fun nothing => by simp [nothing] at begins
      have ends := List.getLast?_eq_some_getLast filled
      exact trim_of_ends begins (trim_begin begins) ends (trim_end ends)

theorem trim_of_solid (solid : Solid word) : trim word = word := by
  have ends : word.getLast? = some (word.getLast solid.1) := List.getLast?_eq_some_getLast solid.1
  have begins : word.head? = some (word.head solid.1) := List.head?_eq_some_head solid.1
  exact trim_of_ends begins (solid.2 _ (List.head_mem _)) ends (solid.2 _ (List.getLast_mem _))

/-! ## Single blanks -/

@[simp] theorem joined_singleton (part : List Char) : joined [part] = part :=
  List.intercalate_singleton

theorem joined_cons (part : List Char) (filled : back ≠ []) :
    joined (part :: back) = part ++ ' ' :: joined back := by
  rw [joined, List.intercalate_cons_of_ne_nil filled, List.append_assoc]
  rfl

theorem joined_append (filled : front ≠ []) (alsoFilled : back ≠ []) :
    joined (front ++ back) = joined front ++ ' ' :: joined back := by
  induction front with
  | nil => exact absurd rfl filled
  | cons part rest ih =>
      cases rest with
      | nil =>
          rw [List.singleton_append, joined_cons part alsoFilled, joined_singleton]
      | cons next others =>
          rw [List.cons_append, joined_cons part (by simp), ih (List.cons_ne_nil next others),
            joined_cons part (List.cons_ne_nil next others), List.append_assoc, List.cons_append]

theorem words_joined (solid : ∀ part ∈ parts, Solid part) : words (joined parts) = parts := by
  induction parts with
  | nil => rfl
  | cons part rest ih =>
      have here := words_of_solid (solid part List.mem_cons_self)
      have behind := ih fun other member => solid other (List.mem_cons_of_mem part member)
      cases rest with
      | nil => rwa [joined_singleton]
      | cons next others =>
          rw [joined_cons part (List.cons_ne_nil next others),
            words_append_blank part _ (by decide), here, behind]
          rfl

theorem squeezed_joined (solid : ∀ part ∈ parts, Solid part) :
    squeezed (joined parts) = joined parts :=
  congrArg joined (words_joined solid)

theorem squeezed_of_solid (solid : Solid word) : squeezed word = word := by
  rw [squeezed, words_of_solid solid, joined_singleton]

theorem squeezed_squeezed (text : List Char) : squeezed (squeezed text) = squeezed text :=
  squeezed_joined (words_solid text)

theorem squeezed_gap (before : HasWord first) (behind : HasWord second) :
    squeezed (first ++ ' ' :: second) = squeezed first ++ ' ' :: squeezed second := by
  rw [squeezed, words_append_blank first second (by decide)]
  exact joined_append (words_ne_nil before) (words_ne_nil behind)

/-- What is written at the end of the last word lengthens that word. -/
theorem squeezed_lengthened (text : List Char) (solid : Solid word) :
    squeezed (squeezed text ++ word) = squeezed text ++ word := by
  have parts := words_solid text
  rw [squeezed.eq_def text]
  rcases List.eq_nil_or_concat (words text) with none | ⟨before, last, some⟩
  · rw [none]
    exact squeezed_of_solid solid
  · rw [some, List.concat_eq_append] at parts ⊢
    -- The new characters go into the last of the parts.
    have longer : joined (before ++ [last]) ++ word = joined (before ++ [last ++ word]) := by
      rcases before with _ | ⟨part, rest⟩
      · simp
      · rw [joined_append (List.cons_ne_nil part rest) (List.cons_ne_nil last []),
          joined_append (List.cons_ne_nil part rest) (List.cons_ne_nil (last ++ word) [])]
        simp
    rw [longer]
    apply squeezed_joined
    intro part member
    rcases List.mem_append.mp member with earlier | final
    · exact parts part (List.mem_append_left _ earlier)
    · obtain rfl := List.mem_singleton.mp final
      have whole := parts last (by simp)
      refine ⟨by simp [solid.1], fun c among => ?_⟩
      rcases List.mem_append.mp among with old | new
      · exact whole.2 c old
      · exact solid.2 c new

/-! ## Cutting -/

theorem Solid.trimStart (solid : Solid word) : trimStart word = word := by
  obtain ⟨c, rest, rfl⟩ := List.exists_cons_of_ne_nil solid.1
  exact trimStart_solid (solid.2 c List.mem_cons_self) rest

theorem trimStart_joined (solid : ∀ part ∈ parts, Solid part) :
    trimStart (joined parts) = joined parts := by
  cases parts with
  | nil => rfl
  | cons part rest =>
      have whole := solid part List.mem_cons_self
      obtain ⟨c, more, rfl⟩ := List.exists_cons_of_ne_nil whole.1
      have first := whole.2 c List.mem_cons_self
      by_cases filled : rest = []
      · rw [filled, joined_singleton, trimStart_solid first]
      · rw [joined_cons _ filled, List.cons_append, trimStart_solid first]

section Cutting
variable (keep : Char → Bool)

/-- Cutting drops nothing at the start. -/
theorem trimStart_cut (start : trimStart text = text) :
    trimStart (text.takeWhile keep) = text.takeWhile keep := by
  cases cut : text.takeWhile keep with
  | nil => rfl
  | cons c rest =>
      obtain ⟨more, rfl⟩ : ∃ more, text = c :: more := by
        obtain ⟨more, whole⟩ := List.takeWhile_prefix (l := text) keep
        exact ⟨rest ++ more, by rw [← whole, cut, List.cons_append]⟩
      have first := List.head?_dropWhile_not isBlank (c :: more)
      rw [← trimStart, start] at first
      exact trimStart_solid first rest

theorem trim_cut_solid (solid : Solid word) :
    trim (word.takeWhile keep) = squeezed (word.takeWhile keep) := by
  cases cut : word.takeWhile keep with
  | nil => rfl
  | cons c rest =>
      have kept : Solid (c :: rest) := ⟨List.cons_ne_nil c rest, fun d member =>
        solid.2 d (List.takeWhile_subset keep (by rwa [cut]))⟩
      rw [squeezed_of_solid kept, trim_of_solid kept]

/-- What is cut off from words with single blanks between them has single blanks between its
words too. -/
theorem trim_cut (solid : ∀ part ∈ parts, Solid part) (keeps : keep ' ' = true) :
    trim ((joined parts).takeWhile keep) = squeezed ((joined parts).takeWhile keep) := by
  induction parts with
  | nil => rfl
  | cons part rest ih =>
      have whole := solid part List.mem_cons_self
      have others : ∀ other ∈ rest, Solid other := fun other member =>
        solid other (List.mem_cons_of_mem part member)
      by_cases filled : rest = []
      · rw [filled, joined_singleton]
        exact trim_cut_solid keep whole
      · rw [joined_cons part filled]
        by_cases kept : ∀ c ∈ part, keep c = true
        · -- The cut is behind this part. The blank stays if a word comes after it, and is trimmed
          -- if none does.
          rw [List.takeWhile_append_of_pos kept, List.takeWhile_cons_of_pos keeps]
          have start := trimStart_cut keep (trimStart_joined others)
          have onward := ih others
          generalize (joined rest).takeWhile keep = behind at start onward ⊢
          by_cases word : HasWord behind
          · have between := trim_between whole.hasWord word [' ']
            rw [trim_eq, start] at onward
            rw [List.append_assoc, List.append_assoc, whole.trimStart] at between
            rw [squeezed_gap whole.hasWord word, squeezed_of_solid whole, ← onward]
            exact between
          · have blank : AllBlank (' ' :: behind) :=
              List.forall_mem_cons.mpr ⟨by decide, allBlank_of_no_word word⟩
            rw [trim_trail part blank, trim_of_solid whole, squeezed, words_trail part blank,
              words_of_solid whole, joined_singleton]
        · -- The cut is in this part, so nothing behind it is left.
          have short : (part.takeWhile keep).length ≠ part.length := fun same =>
            kept fun c member => List.mem_takeWhile_imp
              (by rwa [(List.takeWhile_prefix keep).eq_of_length same])
          rw [List.takeWhile_append, if_neg short]
          exact trim_cut_solid keep whole

end Cutting

theorem trim_joined (solid : ∀ part ∈ parts, Solid part) : trim (joined parts) = joined parts := by
  have whole : (joined parts).takeWhile (fun _ => true) = joined parts := by simp
  have kept := trim_cut (fun _ => true) solid rfl
  rwa [whole, squeezed_joined solid] at kept

theorem trim_squeezed (text : List Char) : trim (squeezed text) = squeezed text :=
  trim_joined (words_solid text)

end ThreeAddress.Text
