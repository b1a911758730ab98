import ThreeAddress.Proofs.Line.RuleOrder
import ThreeAddress.Proofs.Numeral.Grammar
import ThreeAddress.Proofs.Text.Flat

/-!
The canonical text of a line: its parts with single blanks between them, `=` for either sign, and
numbers in plain digits. Whatever a text is read as, the canonical text of that is read as the same.
-/

namespace ThreeAddress
open Line

def Value.canonical : Value → String
  | increment name => "++" ++ name
  | intOrChar literal | float literal => literal
  | temp name | «variable» name => name

def Declaration.canonical : Declaration → String
  | array name count => spaced ["dataArray", name ++ "[" ++ count.toNat.repr ++ "]"]
  | char name => spaced ["dataChar", name]
  | int name => spaced ["dataInt", name]
  | float name => spaced ["dataFloat", name]

def Transfer.canonical : Transfer → String
  | ifGoto condition target => spaced ["if", condition, "goto", target]
  | goto target => spaced ["goto", target]
  | leave => "return"

/-- The comma after the callee is written even where no number follows. -/
def Call.canonical : Call → String
  | param value => spaced ["param", value]
  | call callee (some count) => spaced ["call", callee ++ ",", count.toNat.repr]
  | call callee none => spaced ["call", callee ++ ","]

def Line.canonical : Line → String
  | .label text | .generic text => text
  | .declaration declared => declared.canonical
  | .control flow => flow.canonical
  | .call made => made.canonical
  | .operation dest left op right => spaced [dest, "=", left, op.symbol, right]
  | .assign dest value => spaced [dest, "=", value.canonical]
  | .store dest temp => spaced [dest, "=", temp]

namespace Line
open Text Numeral

variable {words : List String} {line : Line}

/-- Words that are read as the line and make up its canonical text. -/
structure Restated (line : Line) (words : List String) : Prop where
  spoken : Spoken words
  read : ofWords? words = some line
  text : spaced words = line.canonical

theorem Restated.reread (restated : line.Restated words) : ofText? line.canonical = some line := by
  rw [← restated.text]
  exact restated.spoken.read restated.read

/-- Words between the first and the last one can be replaced. -/
theorem Spoken.between {first last : String} (middle : List String) {other : List String}
    (spoken : Spoken (first :: (middle ++ [last]))) (solid : ∀ word ∈ other, Solid word.toList) :
    Spoken (first :: (other ++ [last])) := by
  refine ⟨List.cons_ne_nil _ _, ?_, spoken.uncommented, ?_⟩
  · have firstSolid := spoken.solid first (by simp)
    have lastSolid := spoken.solid last (by simp)
    simp only [List.forall_mem_cons, List.forall_mem_append]
    exact ⟨firstSolid, solid, lastSolid, by simp⟩
  · have last := List.cons_ne_nil last []
    rw [← List.cons_append, closing_behind _ last, ← closing_behind (first :: middle) last]
    exact spoken.unlabelled

/-! ## Declarations -/

theorem isName_unbracketed {name : List Char} (named : isName name = true) :
    ∀ c ∈ name, (c != '[') = true := by
  cases name with
  | nil => cases named
  | cons first rest =>
      rw [isName, Bool.and_eq_true, List.all_eq_true] at named
      intro c member
      rw [bne_iff_ne]
      rintro rfl
      rcases List.mem_cons.mp member with rfl | later
      · exact absurd named.1 (by decide)
      · exact absurd (named.2 '[' later) (by decide +kernel)

def declarator (name : List Char) (count : UInt32) : String :=
  String.ofList name ++ "[" ++ count.toNat.repr ++ "]"

theorem toList_declarator (name : List Char) (count : UInt32) :
    (declarator name count).toList = name ++ '[' :: (Nat.toDigits 10 count.toNat ++ [']']) := by
  simp [declarator]

theorem arrayOf_declarator {name : List Char} (named : isName name = true) (count : UInt32) :
    arrayOf? (declarator name count) = some (.array (String.ofList name) count) := by
  have clear := isName_unbracketed named
  have figures := (isDigits_iff _).mpr (digits_written count.toNat)
  unfold arrayOf?
  simp only [toList_declarator, List.takeWhile_append_of_pos clear,
    List.dropWhile_append_of_pos clear]
  simp [named, figures, uint32?_written]

theorem declarator_solid {name : List Char} (solid : ∀ c ∈ name, isBlank c = false)
    (count : UInt32) : Solid (declarator name count).toList := by
  have bare := (toDigits_solid count.toNat).2
  rw [toList_declarator]
  simp only [Solid, List.forall_mem_append, List.forall_mem_cons]
  exact ⟨by simp, solid, by decide, bare, by decide, by simp⟩

/-- The words of the canonical text of an array. -/
theorem array_written {name : List Char} (named : isName name = true)
    (solid : ∀ c ∈ name, isBlank c = false) (count : UInt32) :
    Restated (.declaration (.array (String.ofList name) count))
      ["dataArray", declarator name count] where
  spoken.filled := List.cons_ne_nil _ _
  spoken.solid := by
    simp only [List.forall_mem_cons]
    exact ⟨by decide, declarator_solid solid count, by simp⟩
  spoken.uncommented := by simp [opening?]
  spoken.unlabelled := by simp [closing?, toList_declarator, List.getLast?_cons]
  read := by
    apply ofWords_of_family .declaration
    simp [Family.rule, declaration?, arrayOf_declarator named count]
  text := rfl

theorem declaration_restated (spoken : Spoken words) (read : declaration? words = some line) :
    ∃ words, line.Restated words := by
  have reread := ofWords_of_family .declaration read
  unfold declaration? at read
  split at read
  · rename_i written
    obtain ⟨declared, known, rfl⟩ := Option.map_eq_some_iff.mp read
    obtain ⟨name, count, rfl, named, within⟩ := arrayOf_named known
    have solid := spoken.solid written (by simp)
    exact ⟨_, array_written named (fun c member => solid.2 c (within member)) count⟩
  · obtain rfl := Option.some.inj read
    exact ⟨_, spoken, reread, rfl⟩
  · obtain rfl := Option.some.inj read
    exact ⟨_, spoken, reread, rfl⟩
  · obtain rfl := Option.some.inj read
    exact ⟨_, spoken, reread, rfl⟩
  · cases read

/-! ## Transfers -/

theorem leave_written : Restated (.control .leave) ["return"] where
  spoken := ⟨by decide, by decide, by decide, by decide⟩
  read := ofWords_of_family .control rfl
  text := rfl

theorem control_restated (spoken : Spoken words) (read : control? words = some line) :
    ∃ words, line.Restated words := by
  have reread := ofWords_of_family .control read
  unfold control? at read
  split at read
  · rename_i rest
    unfold conditional? at read
    split at read
    · rename_i target word before backwards
      obtain rfl := Option.some.inj read
      refine ⟨_, spoken, reread, ?_⟩
      -- The rule reads the condition from its end.
      have forwards : rest = (word :: before).reverse ++ ["goto", target] := by
        rw [← List.reverse_reverse rest, backwards]
        simp
      rw [forwards]
      exact (spaced_together (by simp) ["if"] ["goto", target]).symm
    · cases read
  · obtain rfl := Option.some.inj read
    exact ⟨_, spoken, reread, rfl⟩
  · obtain rfl := Option.some.inj read
    exact ⟨_, leave_written⟩
  · cases read

/-! ## Calls -/

structure IsCallee (callee : List Char) : Prop where
  bare : ',' ∉ callee
  tidy : squeezed callee = callee

theorem calleeOf_joined {parts : List (List Char)} (solid : ∀ part ∈ parts, Solid part) :
    ∃ callee count, IsCallee callee ∧
      calleeOf (joined parts) = .call (String.ofList callee) count := by
  -- The blanks around what is cut off are those that are squeezed out.
  have cut := trim_cut (· != ',') solid rfl
  have found : IsCallee (squeezed ((joined parts).takeWhile (· != ','))) := by
    constructor
    · rw [← cut]
      intro member
      have kept := List.mem_takeWhile_imp (trim_within _ member)
      exact absurd kept (by decide)
    · exact squeezed_squeezed _
  unfold calleeOf
  rw [cut]
  split
  · exact ⟨_, none, found, rfl⟩
  · exact ⟨_, _, found, rfl⟩

def countWords : Option UInt32 → List String
  | some count => [count.toNat.repr]
  | none => []

theorem countWords_solid (count : Option UInt32) :
    ∀ word ∈ countWords count, Solid word.toList := by
  cases count with
  | none => simp [countWords]
  | some n => simp [countWords, toDigits_solid]

section Callees
variable {callee : List Char} (known : IsCallee callee)

theorem wordsOf_comma (callee : List Char) : wordsOf (callee ++ [',']) ≠ [] := by
  have filled : words (callee ++ [',']) ≠ [] := words_ne_nil ⟨',', by simp, by decide⟩
  simpa [wordsOf] using filled

include known

theorem calleeOf_comma (count : List Char) :
    calleeOf (callee ++ ',' :: count) =
      .call (String.ofList callee) (Numeral.uint32? (trim count)) := by
  have kept : ∀ c ∈ callee, (c != ',') = true := by
    intro c member
    rw [bne_iff_ne]
    rintro rfl
    exact known.bare member
  have trimmed := trim_squeezed callee
  rw [known.tidy] at trimmed
  unfold calleeOf
  rw [List.takeWhile_append_of_pos kept, List.dropWhile_append_of_pos kept]
  simp [trimmed]

/-- The comma lengthens the last word of the callee, or it is a word if the callee has none. -/
theorem squeezed_comma : squeezed (callee ++ [',']) = callee ++ [','] := by
  have lengthened := squeezed_lengthened callee (by decide : Solid [','])
  rwa [known.tidy] at lengthened

theorem spaced_comma : spaced (wordsOf (callee ++ [','])) = String.ofList callee ++ "," := by
  rw [spaced_wordsOf, squeezed_comma known, String.ofList_append]

theorem calleeOf_written (count : Option UInt32) :
    calleeOf (spaced (wordsOf (callee ++ [',']) ++ countWords count)).toList =
      .call (String.ofList callee) count := by
  cases count with
  | none =>
      have written : (spaced (wordsOf (callee ++ [',']) ++ countWords none)).toList =
          callee ++ ',' :: [] := by
        rw [countWords, List.append_nil, spaced_comma known]
        simp
      rw [written, calleeOf_comma known]
      rfl
  | some n =>
      have written : (spaced (wordsOf (callee ++ [',']) ++ countWords (some n))).toList =
          callee ++ ',' :: ' ' :: Nat.toDigits 10 n.toNat := by
        rw [countWords, spaced_append (wordsOf_comma callee) (by simp), spaced_comma known]
        simp [spaced]
      have blank : AllBlank [' '] := List.forall_mem_singleton.mpr (by decide)
      have trimmed : trim (' ' :: Nat.toDigits 10 n.toNat) = Nat.toDigits 10 n.toNat :=
        (trim_indent blank _).trans (trim_of_solid (toDigits_solid n.toNat))
      rw [written, calleeOf_comma known, trimmed, uint32?_written]

theorem closing_written (count : Option UInt32) :
    closing? ("call" :: (wordsOf (callee ++ [',']) ++ countWords count)) ≠ some ':' := by
  cases count with
  | none =>
      have trimmed := trim_squeezed (callee ++ [','])
      rw [squeezed_comma known] at trimmed
      have ends := closing_wordsOf (callee ++ [','])
      rw [trimmed] at ends
      rw [countWords, List.append_nil, ← List.singleton_append,
        closing_behind _ (wordsOf_comma callee), ends]
      simp
  | some n =>
      rw [countWords, ← List.cons_append, closing_behind _ (List.cons_ne_nil _ [])]
      intro colon
      have member : ':' ∈ Nat.toDigits 10 n.toNat := by
        simpa using List.mem_of_getLast? colon
      exact absurd ((digits_written n.toNat).2 ':' member) (by decide)

/-- The words of the canonical text of a call. -/
theorem call_written (count : Option UInt32) :
    Restated (.call (.call (String.ofList callee) count))
      ("call" :: (wordsOf (callee ++ [',']) ++ countWords count)) where
  spoken.filled := List.cons_ne_nil _ _
  spoken.solid := by
    simp only [List.forall_mem_cons, List.forall_mem_append]
    exact ⟨by decide, wordsOf_solid _, countWords_solid count⟩
  spoken.uncommented := by simp [opening?]
  spoken.unlabelled := closing_written known count
  read := by
    apply ofWords_of_family .call
    have written := calleeOf_written known count
    obtain ⟨first, rest, same⟩ := List.exists_cons_of_ne_nil (wordsOf_comma callee)
    rw [same] at written ⊢
    exact congrArg (some ∘ Line.call) written
  text := by
    have whole := spaced_together (wordsOf_comma callee) ["call"] (countWords count)
    rw [spaced_comma known] at whole
    cases count with
    | none => exact whole.symm
    | some n => exact whole.symm

end Callees

theorem call_restated (spoken : Spoken words) (read : call? words = some line) :
    ∃ words, line.Restated words := by
  have reread := ofWords_of_family .call read
  unfold call? at read
  split at read
  · obtain rfl := Option.some.inj read
    exact ⟨_, spoken, reread, rfl⟩
  · rename_i first rest
    obtain rfl := Option.some.inj read
    have solid : ∀ word ∈ first :: rest, Solid word.toList := fun word member =>
      spoken.solid word (List.mem_cons_of_mem _ member)
    obtain ⟨callee, count, known, parted⟩ := calleeOf_joined (parts_solid solid)
    rw [← toList_spaced] at parted
    change ∃ words, Restated (.call (calleeOf (spaced (first :: rest)).toList)) words
    rw [parted]
    exact ⟨_, call_written known count⟩
  · cases read

/-! ## Assignments -/

theorem valueOf_canonical (word : String) : (valueOf word).canonical = word := by
  unfold valueOf
  split
  · rename_i name written
    rw [Value.canonical, ← String.toList_inj, written]
    simp
  · repeat' split
    all_goals rfl

theorem symbol_solid (op : Operator) : Solid op.symbol.toList := by
  cases op <;> decide

theorem temp_restated (spoken : Spoken words) (read : temp? words = some line) :
    ∃ words, line.Restated words := by
  unfold temp? at read
  split at read
  · rename_i dest sign word
    split at read
    · rename_i assigns
      obtain rfl := Option.some.inj read
      have opens := (Bool.and_eq_true_iff.mp assigns).1
      -- A sign other than `=` is replaced by it, which parts no words.
      have restated : Spoken (dest :: (["="] ++ [word])) :=
        Spoken.between [sign] spoken (by decide)
      refine ⟨_, restated, ofWords_of_family .temp ?_, ?_⟩
      · simp [Family.rule, temp?, opens, isAssign]
      · rw [Line.canonical, valueOf_canonical]
        rfl
    · cases read
  · rename_i dest sign left symbol right
    split at read
    · rename_i assigns
      obtain ⟨op, known, rfl⟩ := Option.map_eq_some_iff.mp read
      have opens := (Bool.and_eq_true_iff.mp assigns).1
      have restated : Spoken (dest :: (["=", left, op.symbol] ++ [right])) := by
        refine Spoken.between [sign, left, symbol] spoken ?_
        simp only [List.forall_mem_cons]
        exact ⟨by decide, spoken.solid left (by simp), symbol_solid op, by simp⟩
      refine ⟨_, restated, ofWords_of_family .temp ?_, rfl⟩
      simp [Family.rule, temp?, opens, isAssign, Operator.ofSymbol?_symbol]
    · cases read
  · cases read

/-! ## Stores -/

theorem store_restated (spoken : Spoken words) (untaken : ∀ rule ∈ leading, rule words = none)
    (read : store? words = some line) : ∃ words, line.Restated words := by
  obtain ⟨dest, sign, temp, rfl, assigns, copies, rfl⟩ := store_shape read
  have restated : Spoken (dest :: (["="] ++ [temp])) :=
    Spoken.between [sign] spoken (by decide)
  have other : ∀ rule ∈ leading, rule [dest, "=", temp] = none := by
    -- Whether an earlier rule fits is not up to the sign.
    intro rule member
    by_contra fits
    have opens := (leading_fits_three dest temp rfl).mp ⟨rule, member, fits⟩
    obtain ⟨taken, among, alsoFits⟩ := (leading_fits_three dest temp assigns).mpr opens
    exact alsoFits (untaken taken among)
  refine ⟨_, restated, ofWords_eq_some_iff.mpr (.inr ⟨other, ?_⟩), rfl⟩
  simp [store?, isAssign, copies]

/-! ## Every line -/

theorem ofWords_restated (spoken : Spoken words) (read : ofWords? words = some line) :
    ∃ words, line.Restated words := by
  rcases ofWords_eq_some_iff.mp read with ⟨family, fits⟩ | ⟨untaken, stores⟩
  · cases family with
    | declaration => exact declaration_restated spoken fits
    | control => exact control_restated spoken fits
    | call => exact call_restated spoken fits
    | temp => exact temp_restated spoken fits
  · exact store_restated spoken untaken stores

/-- The canonical text of a line that was read is read as that line. -/
theorem canonical_reread {raw : String} (read : ofText? raw = some line) :
    ofText? line.canonical = some line := by
  cases verbatim : line.isVerbatim with
  | true =>
      have same : line.canonical = trimmed raw := by
        rcases ofTrimmed_verbatim read verbatim with rfl | rfl <;> rfl
      rw [same, trimmed, ofText?, String.toList_ofList, trim_trim]
      exact read
  | false =>
      obtain ⟨spoken, worded⟩ := spoken_of_read read verbatim
      obtain ⟨words, restated⟩ := ofWords_restated spoken worded
      exact restated.reread

theorem spaced_call_reread :
    ofText? "call  a \t b ,  +007" = some (.call (.call "a b" (some 7))) ∧
      ofText? "call a b, 7" = some (.call (.call "a b" (some 7))) := by
  have read : ofText? "call  a \t b ,  +007" = some (.call (.call "a b" (some 7))) := by
    decide +kernel
  have text : Line.canonical (.call (.call "a b" (some 7))) = "call a b, 7" := by decide +kernel
  have again := canonical_reread read
  rw [text] at again
  exact ⟨read, again⟩

end Line

end ThreeAddress
