/-!
Cutting a text at every character of a class. The cut characters are dropped and each cut
separates two pieces, so a text with `n` cuts has `n + 1` pieces, empty ones included.
-/

namespace ThreeAddress.Text

def extend (cut : Char → Bool) (c : Char) : List (List Char) → List (List Char)
  | [] => [[c]]
  | piece :: later => if cut c then [] :: piece :: later else (c :: piece) :: later

def pieces (cut : Char → Bool) (text : List Char) : List (List Char) :=
  text.foldr (extend cut) [[]]

@[simp] theorem pieces_nil (cut : Char → Bool) : pieces cut [] = [[]] := rfl

theorem pieces_ne_nil (cut : Char → Bool) (text : List Char) : pieces cut text ≠ [] := by
  cases text with
  | nil => simp
  | cons c rest =>
      change extend cut c (pieces cut rest) ≠ []
      unfold extend
      split
      · simp
      · split <;> simp

theorem pieces_cons_cut (cut : Char → Bool) (c : Char) (rest : List Char)
    (here : cut c = true) : pieces cut (c :: rest) = [] :: pieces cut rest := by
  change extend cut c (pieces cut rest) = _
  cases found : pieces cut rest with
  | nil => exact absurd found (pieces_ne_nil cut rest)
  | cons piece later => simp [extend, here]

theorem pieces_cons_keep (cut : Char → Bool) (c : Char) (rest piece : List Char)
    (later : List (List Char)) (here : cut c = false)
    (found : pieces cut rest = piece :: later) :
    pieces cut (c :: rest) = (c :: piece) :: later := by
  change extend cut c (pieces cut rest) = _
  simp [found, extend, here]

/-- A text is cut on both sides of a character that is cut. -/
theorem pieces_append_cut (cut : Char → Bool) (first : List Char) (c : Char) (second : List Char)
    (here : cut c = true) :
    pieces cut (first ++ c :: second) = pieces cut first ++ pieces cut second := by
  induction first with
  | nil => exact pieces_cons_cut cut c second here
  | cons d rest ih =>
      rw [List.cons_append]
      by_cases also : cut d = true
      · rw [pieces_cons_cut cut d _ also, pieces_cons_cut cut d _ also, ih, List.cons_append]
      · cases found : pieces cut rest with
        | nil => exact absurd found (pieces_ne_nil cut rest)
        | cons piece later =>
            have kept : cut d = false := by simpa using also
            rw [found, List.cons_append] at ih
            rw [pieces_cons_keep cut d rest piece later kept found,
              pieces_cons_keep cut d _ piece _ kept ih, List.cons_append]

/-- A text without a cut is one piece. -/
theorem pieces_whole (cut : Char → Bool) (text : List Char)
    (uncut : ∀ c ∈ text, cut c = false) : pieces cut text = [text] := by
  induction text with
  | nil => rfl
  | cons c rest ih =>
      exact pieces_cons_keep cut c rest rest [] (uncut c List.mem_cons_self)
        (ih fun d member => uncut d (List.mem_cons_of_mem c member))

theorem pieces_uncut (cut : Char → Bool) (text : List Char) :
    ∀ piece ∈ pieces cut text, ∀ c ∈ piece, cut c = false := by
  induction text with
  | nil => simp
  | cons c rest ih =>
      by_cases here : cut c = true
      · rw [pieces_cons_cut cut c rest here]
        simpa using ih
      · cases found : pieces cut rest with
        | nil => exact absurd found (pieces_ne_nil cut rest)
        | cons piece later =>
            rw [pieces_cons_keep cut c rest piece later (by simpa using here) found]
            rw [found] at ih
            simp only [List.mem_cons, forall_eq_or_imp] at ih ⊢
            exact ⟨⟨by simpa using here, ih.1⟩, ih.2⟩

end ThreeAddress.Text
