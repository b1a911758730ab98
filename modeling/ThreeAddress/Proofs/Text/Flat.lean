import ThreeAddress.Text.Lines

/-!
Texts within one line. Words are, and so are the lines of a text; joining such texts, or writing
numbers, breaks no line.
-/

namespace ThreeAddress.Text

def Flat (text : String) : Prop :=
  '\n' ∉ text.toList

instance (text : String) : Decidable (Flat text) :=
  inferInstanceAs (Decidable (¬ '\n' ∈ text.toList))

variable {first second : String}

theorem flat_ofList {text : List Char} (flat : '\n' ∉ text) : Flat (String.ofList text) := by
  rwa [Flat, String.toList_ofList]

/-- A text without characters that a flat text does not have. -/
theorem Flat.within (flat : Flat first) (within : second.toList ⊆ first.toList) : Flat second :=
  fun member => flat (within member)

theorem Flat.append (flat : Flat first) (alsoFlat : Flat second) : Flat (first ++ second) := by
  rw [Flat, String.toList_append, List.mem_append, not_or]
  exact ⟨flat, alsoFlat⟩

theorem flat_intercalate {gap : String} (flat : Flat gap) {words : List String}
    (flats : ∀ word ∈ words, Flat word) : Flat (String.intercalate gap words) := by
  induction words with
  | nil => exact (by decide : Flat "")
  | cons word rest ih =>
      have first := flats word List.mem_cons_self
      cases rest with
      | nil => rwa [String.intercalate_singleton]
      | cons next others =>
          rw [String.intercalate_cons_cons]
          exact (first.append flat).append (ih fun other member =>
            flats other (List.mem_cons_of_mem word member))

theorem flat_nat (number : Nat) : Flat (Nat.repr number) := by
  intro member
  rw [Nat.toList_repr] at member
  exact absurd (Nat.isDigit_of_mem_toDigits (by decide) (by decide) member) (by decide)

theorem flat_int (number : Int) : Flat (Int.repr number) := by
  cases number with
  | ofNat magnitude => exact flat_nat magnitude
  | negSucc magnitude => exact (by decide : Flat "-").append (flat_nat (magnitude + 1))

/-- A text begins as its first part does. -/
theorem opens_append (second : String) {sign : Char} (opens : first.toList.head? = some sign) :
    (first ++ second).toList.head? = some sign := by
  rw [String.toList_append, List.head?_append, opens]
  rfl

/-! ## Parts of a text -/

theorem words_flat (text : List Char) : ∀ word ∈ words text, '\n' ∉ word := by
  intro word member feed
  exact absurd ((words_solid text word member).2 '\n' feed) (by decide)

theorem trim_within (text : List Char) : trim text ⊆ text := by
  intro c member
  have front := (List.dropWhile_sublist _).subset (List.mem_reverse.mp member)
  exact (List.dropWhile_sublist _).subset (List.mem_reverse.mp front)

theorem pieces_flat {line : List Char} (flat : '\n' ∉ line) : pieces isLineFeed line = [line] := by
  apply pieces_whole
  intro c member
  have other : c ≠ '\n' := fun same => flat (same ▸ member)
  simpa [isLineFeed] using other

end ThreeAddress.Text
