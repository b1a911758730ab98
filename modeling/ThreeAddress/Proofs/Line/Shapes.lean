import ThreeAddress.Line.Rules

/-!
What each rule makes of the words of a line, and what reading so guarantees: only a temporary is
assigned or copied, and none is stored to. The rule for assignments comes before the one for
stores, so a temporary on the left never comes to be the name of a variable. No rule makes a label
or a generic line, so the text of either is the source line itself, without the blanks around it.
-/

namespace ThreeAddress.Line

variable {words : List String} {line : Line}

structure Proper (line : Line) : Prop where
  assigned : ∀ dest, line.dest? = some dest → isTemp dest = true
  copied : ∀ dest source, line = .assign dest (.temp source) → isTemp source = true
  stored : ∀ dest temp, line = .store dest temp → isTemp dest = false

/-! ## The lines of each rule -/

theorem arrayOf_named {word : String} {declared : Declaration}
    (read : arrayOf? word = some declared) :
    ∃ name count, declared = .array (String.ofList name) count ∧ isName name = true ∧
      name ⊆ word.toList := by
  unfold arrayOf? at read
  simp only at read
  split at read
  · cases read
  · split at read
    · rename_i fits
      obtain ⟨count, _, rfl⟩ := Option.map_eq_some_iff.mp read
      simp only [Bool.and_eq_true] at fits
      exact ⟨_, count, rfl, fits.1.1, List.takeWhile_subset _⟩
    · cases read

theorem declaration_kind (read : declaration? words = some line) :
    ∃ declared, line = .declaration declared := by
  unfold declaration? at read
  split at read
  · obtain ⟨declared, _, rfl⟩ := Option.map_eq_some_iff.mp read
    exact ⟨declared, rfl⟩
  · exact ⟨_, (Option.some.inj read).symm⟩
  · exact ⟨_, (Option.some.inj read).symm⟩
  · exact ⟨_, (Option.some.inj read).symm⟩
  · cases read

theorem control_kind (read : control? words = some line) : ∃ flow, line = .control flow := by
  unfold control? at read
  split at read
  · unfold conditional? at read
    split at read <;> cases read
    exact ⟨_, rfl⟩
  · exact ⟨_, (Option.some.inj read).symm⟩
  · exact ⟨_, (Option.some.inj read).symm⟩
  · cases read

theorem call_kind (read : call? words = some line) : ∃ made, line = .call made := by
  unfold call? at read
  split at read <;> cases read <;> exact ⟨_, rfl⟩

theorem temp_kind (read : temp? words = some line) :
    ∃ dest, isTemp dest = true ∧
      ((∃ word, line = .assign dest (valueOf word)) ∨
        ∃ left op right, line = .operation dest left op right) := by
  unfold temp? at read
  split at read
  · rename_i dest sign word
    split at read <;> cases read
    rename_i assigns
    rw [Bool.and_eq_true] at assigns
    exact ⟨dest, assigns.1, .inl ⟨word, rfl⟩⟩
  · rename_i dest sign left symbol right
    split at read
    · rename_i assigns
      rw [Bool.and_eq_true] at assigns
      obtain ⟨op, _, rfl⟩ := Option.map_eq_some_iff.mp read
      exact ⟨dest, assigns.1, .inr ⟨left, op, right, rfl⟩⟩
    · cases read
  · cases read

/-- A store is read where no assignment was. -/
theorem store_kind (unassigned : temp? words = none) (read : store? words = some line) :
    ∃ dest temp, isTemp dest = false ∧ line = .store dest temp := by
  unfold store? at read
  split at read
  · rename_i dest sign temp
    split at read <;> cases read
    rename_i stores
    rw [Bool.and_eq_true] at stores
    exact ⟨dest, temp, by simpa [temp?, stores.1] using unassigned, rfl⟩
  · cases read

/-- The first rule that fits decides. -/
theorem ofWords_kind (read : ofWords? words = some line) :
    (∃ declared, line = .declaration declared) ∨ (∃ flow, line = .control flow) ∨
      (∃ made, line = .call made) ∨
      (∃ dest, isTemp dest = true ∧
        ((∃ word, line = .assign dest (valueOf word)) ∨
          ∃ left op right, line = .operation dest left op right)) ∨
      ∃ dest temp, isTemp dest = false ∧ line = .store dest temp := by
  have tried : ofWords? words = (declaration? words).or ((control? words).or
      ((call? words).or ((temp? words).or (store? words)))) := by
    simp only [ofWords?, rules, List.findSome?_cons, List.findSome?_nil]
    cases declaration? words <;> cases control? words <;> cases call? words <;>
      cases temp? words <;> cases store? words <;> rfl
  simp only [tried, Option.or_eq_some_iff] at read
  rcases read with found | ⟨_, found | ⟨_, found | ⟨_, found | ⟨unassigned, found⟩⟩⟩⟩
  · exact .inl (declaration_kind found)
  · exact .inr (.inl (control_kind found))
  · exact .inr (.inr (.inl (call_kind found)))
  · exact .inr (.inr (.inr (.inl (temp_kind found))))
  · exact .inr (.inr (.inr (.inr (store_kind unassigned found))))

/-! ## Every line that was read -/

theorem valueOf_temp {word source : String} (read : valueOf word = .temp source) :
    isTemp source = true := by
  unfold valueOf at read
  split at read
  · cases read
  · split at read
    · cases read
    · split at read
      · cases read
      · split at read <;> cases read
        assumption

theorem ofWords_proper (read : ofWords? words = some line) : line.Proper := by
  rcases ofWords_kind read with ⟨declared, rfl⟩ | ⟨flow, rfl⟩ | ⟨made, rfl⟩ |
    ⟨dest, temp, ⟨word, rfl⟩ | ⟨left, op, right, rfl⟩⟩ | ⟨dest, temp, plain, rfl⟩
  · exact ⟨by simp [dest?], by simp, by simp⟩
  · exact ⟨by simp [dest?], by simp, by simp⟩
  · exact ⟨by simp [dest?], by simp, by simp⟩
  · refine ⟨?_, ?_, by simp⟩
    · rintro _ ⟨⟩
      exact temp
    · intro _ source same
      exact valueOf_temp (Line.assign.inj same).2
  · refine ⟨?_, by simp, by simp⟩
    rintro _ ⟨⟩
    exact temp
  · refine ⟨by simp [dest?], by simp, ?_⟩
    rintro _ _ ⟨⟩
    exact plain

theorem ofText_proper {raw : String} (read : ofText? raw = some line) : line.Proper := by
  unfold ofText? ofTrimmed? at read
  split at read
  · cases read
  · split at read
    · cases read
      exact ⟨by simp [dest?], by simp, by simp⟩
    · cases found : ofWords? (wordsOf (Text.trim raw.toList)) with
      | some known =>
          rw [found] at read
          cases read
          exact ofWords_proper found
      | none =>
          rw [found] at read
          cases read
          exact ⟨by simp [dest?], by simp, by simp⟩

/-! ## Lines that are kept word for word -/

def isVerbatim : Line → Bool
  | .label _ | .generic _ => true
  | _ => false

def trimmed (raw : String) : String :=
  String.ofList (Text.trim raw.toList)

theorem ofWords_not_verbatim (read : ofWords? words = some line) :
    line.isVerbatim = false := by
  rcases ofWords_kind read with ⟨declared, rfl⟩ | ⟨flow, rfl⟩ | ⟨made, rfl⟩ |
    ⟨dest, temp, ⟨word, rfl⟩ | ⟨left, op, right, rfl⟩⟩ | ⟨dest, temp, plain, rfl⟩ <;> rfl

/-- A text that is read as a label or a generic line is that text. -/
theorem ofTrimmed_verbatim {text : List Char} (read : ofTrimmed? text = some line)
    (verbatim : line.isVerbatim = true) :
    line = .label (String.ofList text) ∨ line = .generic (String.ofList text) := by
  unfold ofTrimmed? at read
  split at read
  · cases read
  · split at read
    · cases read
      exact .inl rfl
    · cases found : ofWords? (wordsOf text) with
      | some known =>
          rw [found] at read
          cases read
          exact absurd ((ofWords_not_verbatim found).symm.trans verbatim) Bool.false_ne_true
      | none =>
          rw [found] at read
          cases read
          exact .inr rfl

theorem ofText_label {raw text : String} (read : ofText? raw = some (.label text)) :
    text = trimmed raw := by
  rcases ofTrimmed_verbatim read rfl with same | other
  · exact Line.label.inj same
  · cases other

theorem ofText_generic {raw text : String} (read : ofText? raw = some (.generic text)) :
    text = trimmed raw := by
  rcases ofTrimmed_verbatim read rfl with other | same
  · cases other
  · exact Line.generic.inj same

end ThreeAddress.Line
