import ThreeAddress.Proofs.Line.Shapes
import ThreeAddress.Proofs.Text.Flat

/-!
Texts that lines take over from their source. A single word is one, and so is the whole of a line
that is kept word for word. None of them has a line feed that the source line has not, and what is
kept word for word does not begin like a comment.
-/

namespace ThreeAddress

def Value.text : Value → String
  | increment text | intOrChar text | float text | temp text | «variable» text => text

def Line.sourceTexts : Line → List String
  | .label text | .generic text => [text]
  | .declaration declared => [declared.name]
  | .control (.ifGoto _ target) | .control (.goto target) => [target]
  | .control .leave => []
  | .call (.param value) => [value]
  | .call (.call ..) | .operation .. => []
  | .assign _ value => [value.text]
  | .store dest _ => [dest]

namespace Line
open Text

variable {words : List String} {line : Line}

structure Clean (line : Line) : Prop where
  flat : ∀ text ∈ line.sourceTexts, Flat text
  unmarked : ∀ text, line = .label text ∨ line = .generic text → text.toList.head? ≠ some '#'

theorem valueOf_within (word : String) : (valueOf word).text.toList ⊆ word.toList := by
  unfold valueOf
  split
  · rename_i name written
    intro c member
    rw [Value.text, String.toList_ofList] at member
    rw [written]
    exact List.mem_cons_of_mem _ (List.mem_cons_of_mem _ member)
  · repeat' split
    all_goals exact List.Subset.refl _

theorem arrayOf_within {word : String} {declared : Declaration}
    (read : arrayOf? word = some declared) : declared.name.toList ⊆ word.toList := by
  obtain ⟨name, count, rfl, -, within⟩ := arrayOf_named read
  rwa [Declaration.name, String.toList_ofList]

theorem calleeOf_call (text : List Char) : ∃ callee count, calleeOf text = .call callee count := by
  unfold calleeOf
  split
  · exact ⟨_, _, rfl⟩
  · exact ⟨_, _, rfl⟩

/-! ## The texts of each rule -/

section Rules
variable (flats : ∀ word ∈ words, Flat word)

include flats

theorem declaration_flat (read : declaration? words = some line) :
    ∀ text ∈ line.sourceTexts, Flat text := by
  unfold declaration? at read
  split at read
  · obtain ⟨declared, array, rfl⟩ := Option.map_eq_some_iff.mp read
    simpa [sourceTexts] using (flats _ (by simp)).within (arrayOf_within array)
  all_goals
    cases read
  all_goals
    simpa [sourceTexts, Declaration.name] using flats _ (by simp)

theorem control_flat (read : control? words = some line) :
    ∀ text ∈ line.sourceTexts, Flat text := by
  unfold control? at read
  split at read
  · unfold conditional? at read
    split at read
    · rename_i rest _ target word before reversed
      cases read
      have last : target ∈ rest := by
        rw [← List.mem_reverse, reversed]
        exact List.mem_cons_self
      simpa [sourceTexts] using flats target (List.mem_cons_of_mem _ last)
    · cases read
  · cases read
    simpa [sourceTexts] using flats _ (by simp)
  · cases read
    simp [sourceTexts]
  · cases read

theorem call_flat (read : call? words = some line) : ∀ text ∈ line.sourceTexts, Flat text := by
  unfold call? at read
  split at read
  · cases read
    simpa [sourceTexts] using flats _ (by simp)
  · rename_i first rest
    cases read
    obtain ⟨callee, count, called⟩ := calleeOf_call (String.intercalate " " (first :: rest)).toList
    rw [called]
    simp [sourceTexts]
  · cases read

theorem temp_flat (read : temp? words = some line) : ∀ text ∈ line.sourceTexts, Flat text := by
  unfold temp? at read
  split at read
  · rename_i dest sign word
    split at read <;> cases read
    simpa [sourceTexts] using (flats word (by simp)).within (valueOf_within word)
  · split at read
    · obtain ⟨op, _, rfl⟩ := Option.map_eq_some_iff.mp read
      simp [sourceTexts]
    · cases read
  · cases read

theorem store_flat (read : store? words = some line) : ∀ text ∈ line.sourceTexts, Flat text := by
  unfold store? at read
  split at read
  · split at read <;> cases read
    simpa [sourceTexts] using flats _ (by simp)
  · cases read

theorem ofWords_flat (read : ofWords? words = some line) :
    ∀ text ∈ line.sourceTexts, Flat text := by
  obtain ⟨rule, member, fits⟩ := List.exists_of_findSome?_eq_some read
  simp only [rules, List.mem_cons, List.not_mem_nil, or_false] at member
  rcases member with rfl | rfl | rfl | rfl | rfl
  · exact declaration_flat flats fits
  · exact control_flat flats fits
  · exact call_flat flats fits
  · exact temp_flat flats fits
  · exact store_flat flats fits

end Rules

/-! ## The texts of every line that was read -/

theorem wordsOf_flat (text : List Char) : ∀ word ∈ wordsOf text, Flat word := by
  intro word member
  obtain ⟨solid, among, rfl⟩ := List.mem_map.mp member
  exact flat_ofList (words_flat text solid among)

theorem verbatim_clean {text : String} (flat : Flat text)
    (unmarked : text.toList.head? ≠ some '#') : Clean (.label text) ∧ Clean (.generic text) := by
  refine ⟨⟨by simpa [sourceTexts] using flat, ?_⟩, ⟨by simpa [sourceTexts] using flat, ?_⟩⟩
  · rintro other (same | same) <;> cases same
    exact unmarked
  · rintro other (same | same) <;> cases same
    exact unmarked

theorem ofWords_clean (flats : ∀ word ∈ words, Flat word) (read : ofWords? words = some line) :
    line.Clean where
  flat := ofWords_flat flats read
  unmarked := by
    have worded := ofWords_not_verbatim read
    rintro text (rfl | rfl) <;> cases worded

theorem ofText_clean {raw : String} (flat : Flat raw) (read : ofText? raw = some line) :
    line.Clean := by
  unfold ofText? ofTrimmed? at read
  split at read
  · cases read
  · rename_i marked
    rw [Bool.or_eq_true, not_or] at marked
    have unmarked : (trimmed raw).toList.head? ≠ some '#' := by
      simpa [trimmed] using marked.2
    -- Trimming brings in no character.
    have within : Flat (trimmed raw) := flat_ofList fun member => flat (trim_within _ member)
    split at read
    · cases read
      exact (verbatim_clean within unmarked).1
    · cases found : ofWords? (wordsOf (Text.trim raw.toList)) with
      | some known =>
          rw [found] at read
          cases read
          exact ofWords_clean (wordsOf_flat _) found
      | none =>
          rw [found] at read
          cases read
          exact (verbatim_clean within unmarked).2

end Line

end ThreeAddress
