import ThreeAddress.Text.Characters
import ThreeAddress.Text.Pieces

/-!
The lines of a text, and the words of a line. A line ends at a line feed, and one carriage return
just before that line feed belongs to the ending. A text that ends in a line feed has no empty last
line, and a last line without a line feed keeps its carriage return. Words are what stands between
blanks.
-/

namespace ThreeAddress.Text

def isLineFeed (c : Char) : Bool :=
  c == '\n'

def dropReturn (line : List Char) : List Char :=
  if line.getLast? = some '\r' then line.dropLast else line

/-- The last piece is not terminated: it is a line only if it holds something. -/
def closeLines : List (List Char) → List (List Char)
  | [] => []
  | [last] => if last.isEmpty then [] else [last]
  | line :: later => dropReturn line :: closeLines later

def lines (text : List Char) : List (List Char) :=
  closeLines (pieces isLineFeed text)

@[simp] theorem lines_nil : lines [] = [] := rfl

/-- A line starts after this text. -/
def LineStartsAfter (before : List Char) : Prop :=
  before = [] ∨ before.getLast? = some '\n'

theorem closeLines_append (first second : List (List Char)) (more : second ≠ []) :
    closeLines (first ++ second) = first.map dropReturn ++ closeLines second := by
  induction first with
  | nil => rfl
  | cons line rest ih =>
      cases later : rest ++ second with
      | nil => exact absurd (List.append_eq_nil_iff.mp later).2 more
      | cons next others =>
          rw [List.cons_append, later, closeLines, ← later, ih]
          · rfl
          · simp

/-- Texts that meet between two lines have their lines one after the other. -/
theorem lines_append {first : List Char} (starts : LineStartsAfter first) (second : List Char) :
    lines (first ++ second) = lines first ++ lines second := by
  rcases starts with rfl | ends
  · rfl
  · obtain ⟨front, rfl⟩ := List.getLast?_eq_some_iff.mp ends
    have cut : isLineFeed '\n' = true := rfl
    rw [List.append_assoc, lines, lines, List.singleton_append,
      pieces_append_cut isLineFeed front '\n' second cut,
      pieces_append_cut isLineFeed front '\n' [] cut,
      closeLines_append _ _ (pieces_ne_nil isLineFeed second),
      closeLines_append _ _ (pieces_ne_nil isLineFeed [])]
    simp [closeLines, lines]

def trim (text : List Char) : List Char :=
  ((text.dropWhile isBlank).reverse.dropWhile isBlank).reverse

def words (text : List Char) : List (List Char) :=
  (pieces isBlank text).filter fun word => !word.isEmpty

theorem words_solid (text : List Char) :
    ∀ word ∈ words text, word ≠ [] ∧ ∀ c ∈ word, isBlank c = false := by
  intro word member
  simp only [words, List.mem_filter, Bool.not_eq_true', List.isEmpty_eq_false_iff] at member
  exact ⟨member.2, pieces_uncut isBlank text word member.1⟩

end ThreeAddress.Text
