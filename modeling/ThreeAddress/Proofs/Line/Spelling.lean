import ThreeAddress.Proofs.Line.Shapes
import ThreeAddress.Proofs.Text.Spaced

/-!
Spellings of one line. Blanks at its ends are not read, and how wide the gaps between its words
are is read only where the line is kept word for word. A line that begins or ends with another
sign than `#` or a colon does so in every spelling, so a respelled line is told apart from
comments and labels in the same way.
-/

namespace ThreeAddress

namespace Text

def IsGap (gap : List Char) : Prop :=
  ∀ c ∈ gap, isBlank c = true ∧ c ≠ '\n'

instance (gap : List Char) : Decidable (IsGap gap) :=
  List.decidableBAll (fun c => isBlank c = true ∧ c ≠ '\n') gap

variable {gap : List Char}

theorem IsGap.blank (gaps : IsGap gap) : AllBlank gap :=
  fun c member => (gaps c member).1

theorem IsGap.flat (gaps : IsGap gap) : '\n' ∉ gap :=
  fun member => (gaps '\n' member).2 rfl

theorem isGap_return : IsGap ['\r'] := by decide

end Text

namespace Line
open Text

def ofChars? (text : List Char) : Option Line :=
  ofText? (String.ofList text)

inductive Respelled : List Char → List Char → Prop
  /-- Ended by a carriage return and a line feed. -/
  | returned (line : List Char) : Respelled line (line ++ ['\r'])
  | indented (line : List Char) {gap : List Char} (gaps : IsGap gap) : Respelled line (gap ++ line)
  | trailed (line : List Char) {gap : List Char} (gaps : IsGap gap) : Respelled line (line ++ gap)
  /-- A gap between words of a line that is not kept word for word. -/
  | respaced {first gap other second : List Char} (before : HasWord first)
      (behind : HasWord second) (gaps : IsGap gap) (wide : gap ≠ []) (alsoGaps : IsGap other)
      (alsoWide : other ≠ [])
      (free : ∀ line, ofChars? (first ++ gap ++ second) = some line → line.isVerbatim = false) :
      Respelled (first ++ gap ++ second) (first ++ other ++ second)

theorem ofChars_eq (text : List Char) : ofChars? text = ofTrimmed? (trim text) := by
  rw [ofChars?, ofText?, String.toList_ofList]

/-- Texts that begin and end alike and have the same words are read alike, unless they are kept
word for word. -/
theorem ofTrimmed_congr {text other : List Char} (filled : text ≠ []) (alsoFilled : other ≠ [])
    (begins : other.head? = text.head?) (ends : other.getLast? = text.getLast?)
    (words : wordsOf other = wordsOf text)
    (free : ∀ line, ofTrimmed? text = some line → line.isVerbatim = false) :
    ofTrimmed? other = ofTrimmed? text := by
  unfold ofTrimmed? at free ⊢
  rw [begins, ends, words]
  simp only [List.isEmpty_eq_false_iff.mpr filled, List.isEmpty_eq_false_iff.mpr alsoFilled,
    Bool.false_or] at free ⊢
  -- The ends decide on comments and labels. After them only the words are read, and a text whose
  -- words fit no rule is kept.
  split
  · rfl
  · rename_i comment
    rw [if_neg comment] at free
    split
    · rename_i colon
      rw [if_pos colon] at free
      cases free _ rfl
    · rename_i colon
      rw [if_neg colon] at free
      cases found : ofWords? (wordsOf text) with
      | some line => rfl
      | none =>
          rw [found] at free
          cases free _ rfl

theorem respaced_read {first gap other second : List Char} (before : HasWord first)
    (behind : HasWord second) (gaps : IsGap gap) (wide : gap ≠ []) (alsoGaps : IsGap other)
    (alsoWide : other ≠ [])
    (free : ∀ line, ofChars? (first ++ gap ++ second) = some line → line.isVerbatim = false) :
    ofChars? (first ++ other ++ second) = ofChars? (first ++ gap ++ second) := by
  have starts := trimStart_ne_nil before
  have ends := trimEnd_ne_nil behind
  rw [ofChars_eq, ofChars_eq]
  simp only [ofChars_eq] at free
  -- The ends and the words stay; only the gap inside is another.
  refine ofTrimmed_congr ?_ ?_ ?_ ?_ ?_ free
  · rw [trim_between before behind]
    simp [starts]
  · rw [trim_between before behind]
    simp [starts]
  · rw [trim_between before behind, trim_between before behind]
    obtain ⟨sign, more, begins⟩ := List.exists_cons_of_ne_nil starts
    rw [begins]
    rfl
  · have last : ∀ front : List Char,
        (front ++ trimEnd second).getLast? = (trimEnd second).getLast? := fun front => by
      rw [List.getLast?_append, List.getLast?_eq_some_getLast ends, Option.some_or]
    rw [trim_between before behind, trim_between before behind, last, last]
  · unfold wordsOf
    rw [words_trim, words_trim, words_gap first second alsoGaps.blank alsoWide,
      words_gap first second gaps.blank wide]

variable {line other : List Char}

/-- All spellings of a line are read alike. -/
theorem Respelled.read (respelled : Respelled line other) : ofChars? other = ofChars? line := by
  cases respelled with
  | returned => rw [ofChars_eq, ofChars_eq, trim_trail line isGap_return.blank]
  | indented _ gaps => rw [ofChars_eq, ofChars_eq, trim_indent gaps.blank]
  | trailed _ gaps => rw [ofChars_eq, ofChars_eq, trim_trail line gaps.blank]
  | respaced before behind gaps wide alsoGaps alsoWide free =>
      exact respaced_read before behind gaps wide alsoGaps alsoWide free

/-- A line stays one line. -/
theorem Respelled.flat (respelled : Respelled line other) (flat : '\n' ∉ line) :
    '\n' ∉ other := by
  cases respelled with
  | returned => simpa using flat
  | indented _ gaps => simpa [flat] using gaps.flat
  | trailed _ gaps => simpa [flat] using gaps.flat
  | respaced before behind gaps wide alsoGaps alsoWide free =>
      simp only [List.mem_append, not_or] at flat ⊢
      exact ⟨⟨flat.1.1, alsoGaps.flat⟩, flat.2⟩

def SaysNothing (line : List Char) : Prop :=
  '\n' ∉ line ∧ (trimStart line = [] ∨ (trimStart line).head? = some '#')

theorem SaysNothing.read (silent : SaysNothing line) : ofChars? line = none := by
  rw [ofChars_eq, trim_eq]
  rcases silent.2 with blank | comment
  · rw [blank]
    rfl
  · obtain ⟨rest, starts⟩ := List.head?_eq_some_iff.mp comment
    rw [starts, ofTrimmed?, trimEnd_begin (by decide) rest]
    simp

end Line

end ThreeAddress

/-! ## Lines and their words

Whether a line is a comment or a label is seen at the first character of its first word and at the
last one of its last word, so words that are written with single blanks between them are read by the
rules for words if these two characters allow it. -/

namespace ThreeAddress.Line
open Text

variable {words : List String} {line : Line}

def spaced (words : List String) : String :=
  String.intercalate " " words

def opening? (words : List String) : Option Char :=
  words.head?.bind fun word => word.toList.head?

def closing? (words : List String) : Option Char :=
  words.getLast?.bind fun word => word.toList.getLast?

/-- Words of a line that is neither a comment nor a label. -/
structure Spoken (words : List String) : Prop where
  filled : words ≠ []
  solid : ∀ word ∈ words, Solid word.toList
  uncommented : opening? words ≠ some '#'
  unlabelled : closing? words ≠ some ':'

theorem opening_wordsOf (text : List Char) :
    opening? (wordsOf (trim text)) = (trim text).head? := by
  rw [← words_head, opening?, wordsOf, List.head?_map]
  cases (Text.words (trim text)).head? with
  | none => rfl
  | some word => simp

theorem closing_wordsOf (text : List Char) :
    closing? (wordsOf (trim text)) = (trim text).getLast? := by
  rw [← words_getLast, closing?, wordsOf, List.getLast?_map]
  cases (Text.words (trim text)).getLast? with
  | none => rfl
  | some word => simp

theorem opening_ahead {front : List String} (filled : front ≠ []) (words : List String) :
    opening? (front ++ words) = opening? front := by
  cases front with
  | nil => exact absurd rfl filled
  | cons first rest => rfl

theorem closing_behind (front : List String) (filled : words ≠ []) :
    closing? (front ++ words) = closing? words := by
  rw [closing?, List.getLast?_append, List.getLast?_eq_some_getLast filled, Option.some_or,
    closing?, List.getLast?_eq_some_getLast filled]

theorem wordsOf_solid (text : List Char) : ∀ word ∈ wordsOf text, Solid word.toList := by
  intro word member
  obtain ⟨solid, among, rfl⟩ := List.mem_map.mp member
  rw [String.toList_ofList]
  exact words_solid text solid among

/-! ## Words that are written -/

theorem toList_spaced (words : List String) :
    (spaced words).toList = joined (words.map String.toList) :=
  String.toList_intercalate

theorem spaced_append {front back : List String} (filled : front ≠ []) (alsoFilled : back ≠ []) :
    spaced (front ++ back) = spaced front ++ " " ++ spaced back :=
  String.intercalate_append_of_ne_nil filled alsoFilled

theorem spaced_wordsOf (text : List Char) :
    spaced (wordsOf text) = String.ofList (squeezed text) := by
  rw [← String.toList_inj, toList_spaced, wordsOf, List.map_map]
  simp [Function.comp_def, squeezed]

/-- Words that are joined already make up one part. -/
theorem spaced_together {middle : List String} (filled : middle ≠ []) (front back : List String) :
    spaced (front ++ spaced middle :: back) = spaced (front ++ (middle ++ back)) := by
  have behind : spaced (spaced middle :: back) = spaced (middle ++ back) := by
    cases back with
    | nil => rw [List.append_nil, spaced, String.intercalate_singleton]
    | cons word rest =>
        rw [← List.singleton_append, spaced_append (by simp) (by simp),
          spaced_append filled (by simp), spaced, String.intercalate_singleton]
  cases front with
  | nil => exact behind
  | cons word rest =>
      rw [spaced_append (by simp) (by simp), behind, ← spaced_append (by simp) (by simp [filled])]

section Written
variable (solid : ∀ word ∈ words, Solid word.toList)

include solid

theorem parts_solid : ∀ part ∈ words.map String.toList, Solid part := by
  simpa using solid

theorem wordsOf_spaced : wordsOf (spaced words).toList = words := by
  rw [wordsOf, toList_spaced, words_joined (parts_solid solid), List.map_map]
  simp [Function.comp_def]

theorem trim_spaced : trim (spaced words).toList = (spaced words).toList := by
  rw [toList_spaced, trim_joined (parts_solid solid)]

end Written

/-- Words of a line are read by the rules for words. -/
theorem Spoken.read (spoken : Spoken words) (read : ofWords? words = some line) :
    ofText? (spaced words) = some line := by
  have whole := trim_spaced spoken.solid
  have same := wordsOf_spaced spoken.solid
  have begins := opening_wordsOf (spaced words).toList
  have ends := closing_wordsOf (spaced words).toList
  rw [whole, same] at begins ends
  have written : (spaced words).toList ≠ [] := by
    intro nothing
    rw [nothing] at same
    exact spoken.filled same.symm
  rw [ofText?, whole, ofTrimmed?, ← begins, ← ends, same, read]
  simp [written, spoken.uncommented, spoken.unlabelled]

/-! ## Words that are read -/

/-- A line that is not kept word for word was read by the rules for words. -/
theorem spoken_of_read {raw : String} (read : ofText? raw = some line)
    (worded : line.isVerbatim = false) :
    Spoken (wordsOf (trim raw.toList)) ∧ ofWords? (wordsOf (trim raw.toList)) = some line := by
  have begins := opening_wordsOf raw.toList
  have ends := closing_wordsOf raw.toList
  unfold ofText? ofTrimmed? at read
  split at read
  · cases read
  · rename_i said
    -- The line says something, so its first character is neither missing nor a `#`.
    rw [Bool.or_eq_true, not_or] at said
    split at read
    · cases read
      cases worded
    · rename_i unmarked
      cases found : ofWords? (wordsOf (trim raw.toList)) with
      | none =>
          rw [found] at read
          cases read
          cases worded
      | some known =>
          rw [found] at read
          cases read
          refine ⟨⟨?_, wordsOf_solid _, ?_, ?_⟩, rfl⟩
          · intro none
            rw [none] at found
            cases found
          · rw [begins]
            simpa using said.2
          · rw [ends]
            simpa using unmarked

end ThreeAddress.Line
