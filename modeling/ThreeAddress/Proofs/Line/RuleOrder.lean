import ThreeAddress.Proofs.Line.Shapes
import ThreeAddress.Proofs.Line.Spelling

/-!
The order of the rules. Every rule but the one for stores knows its lines by their first word, and
no word opens the lines of two of them, so these rules can be tried in any order. The rule for
stores looks at the other words only: it has to come last for the sake of three kinds of lines.
-/

namespace ThreeAddress.Line
open Text

abbrev Rule := List String → Option Line

inductive Family where
  | declaration | control | call | temp
  deriving DecidableEq, Repr

namespace Family

def all : List Family := [declaration, control, call, temp]

def rule : Family → Rule
  | declaration => declaration?
  | control => control?
  | call => call?
  | temp => temp?

def opened? (word : String) : Option Family :=
  if word ∈ ["dataArray", "dataChar", "dataInt", "dataFloat"] then some declaration
  else if word ∈ ["if", "goto", "return"] then some control
  else if word ∈ ["param", "call"] then some call
  else if isTemp word then some temp
  else none

end Family

def leading : List Rule :=
  Family.all.map Family.rule

def firstFit (order : List Rule) (words : List String) : Option Line :=
  order.findSome? fun rule => rule words

def ofTextBy (order : List Rule) (raw : String) : Option Line :=
  let text := trim raw.toList
  if text.isEmpty || text.head? == some '#' then none
  else if text.getLast? == some ':' then some (.label (String.ofList text))
  else some ((firstFit order (wordsOf text)).getD (.generic (String.ofList text)))

/-- A temporary is copied to what looks like a store, but the line opens with `return`, `call` or
another temporary. -/
def Contested (words : List String) : Prop :=
  ∃ first sign temp, words = [first, sign, temp] ∧ isAssign sign = true ∧ isTemp temp = true ∧
    (first = "return" ∨ first = "call" ∨ isTemp first = true)

theorem ofTextBy_rules (raw : String) : ofTextBy (leading ++ [store?]) raw = ofText? raw := rfl

variable {words : List String} {line : Line} {order : List Rule} {first sign word : String}

/-! ## First words -/

theorem opened_temp (temp : isTemp word = true) : Family.opened? word = some .temp := by
  have other : ∀ keyword ∈ ["dataArray", "dataChar", "dataInt", "dataFloat", "if", "goto",
      "return", "param", "call"], word ≠ keyword := by
    rintro keyword member rfl
    have none : ∀ keyword ∈ ["dataArray", "dataChar", "dataInt", "dataFloat", "if", "goto",
      "return", "param", "call"], isTemp keyword = false := by decide
    cases temp.symm.trans (none word member)
  simp only [List.forall_mem_cons] at other
  simp [Family.opened?, other, temp]

theorem temp_opens (fits : temp? words = some line) :
    ∃ dest rest, words = dest :: rest ∧ isTemp dest = true := by
  unfold temp? at fits
  split at fits
  · split at fits
    · rename_i assigns
      exact ⟨_, _, rfl, (Bool.and_eq_true_iff.mp assigns).1⟩
    · cases fits
  · split at fits
    · rename_i assigns
      exact ⟨_, _, rfl, (Bool.and_eq_true_iff.mp assigns).1⟩
    · cases fits
  · cases fits

/-- A rule fits no line that opens as those of another family do. -/
theorem rule_opened {family : Family} (fits : family.rule words = some line) :
    words.head?.bind Family.opened? = some family := by
  cases family with
  | declaration =>
      -- Each pattern of a rule begins with a keyword of its family.
      change declaration? words = some line at fits
      unfold declaration? at fits
      split at fits
      · rfl
      · rfl
      · rfl
      · rfl
      · cases fits
  | control =>
      change control? words = some line at fits
      unfold control? at fits
      split at fits
      · rfl
      · rfl
      · rfl
      · cases fits
  | call =>
      change call? words = some line at fits
      unfold call? at fits
      split at fits
      · rfl
      · rfl
      · cases fits
  | temp =>
      obtain ⟨dest, rest, rfl, temp⟩ := temp_opens fits
      exact opened_temp temp

theorem rules_apart (words : List String) :
    leading.Pairwise fun rule other => rule words = none ∨ other words = none := by
  have distinct : Family.all.Pairwise (· ≠ ·) := by decide
  refine List.pairwise_map.mpr (distinct.imp fun {family other} differ => ?_)
  rw [or_iff_not_imp_left]
  intro fits
  obtain ⟨line, known⟩ := Option.ne_none_iff_exists'.mp fits
  rw [Option.eq_none_iff_forall_ne_some]
  intro also alsoFits
  exact differ (Option.some.inj ((rule_opened known).symm.trans (rule_opened alsoFits)))

/-! ## Orders -/

theorem firstFit_append (first second : List Rule) (words : List String) :
    firstFit (first ++ second) words = (firstFit first words).or (firstFit second words) :=
  List.findSome?_append

theorem firstFit_eq_some_iff
    (apart : order.Pairwise fun rule other => rule words = none ∨ other words = none) :
    firstFit order words = some line ↔ ∃ rule ∈ order, rule words = some line := by
  constructor
  · exact List.exists_of_findSome?_eq_some
  · rintro ⟨rule, member, fits⟩
    obtain ⟨before, behind, rfl⟩ := List.append_of_mem member
    have early : ∀ other ∈ before, other words = none := fun other among =>
      ((List.pairwise_append.mp apart).2.2 other among rule List.mem_cons_self).resolve_right
        (by simp [fits])
    rw [firstFit_append, firstFit, List.findSome?_eq_none_iff.mpr early, Option.none_or, firstFit,
      List.findSome?_cons, fits]

/-- Rules that never fit the same words can be tried in any order. -/
theorem firstFit_perm {other : List Rule} (same : order.Perm other)
    (apart : other.Pairwise fun rule other => rule words = none ∨ other words = none) :
    firstFit order words = firstFit other words := by
  have alsoApart := (same.pairwise_iff fun clash => Or.symm clash).mpr apart
  ext line
  rw [firstFit_eq_some_iff apart, firstFit_eq_some_iff alsoApart]
  simp only [same.mem_iff]

/-- A line is read by a rule that knows it by its first word, or else as a store. -/
theorem ofWords_eq_some_iff :
    ofWords? words = some line ↔
      (∃ family : Family, family.rule words = some line) ∨
        (∀ rule ∈ leading, rule words = none) ∧ store? words = some line := by
  have tried : ofWords? words = (firstFit leading words).or (firstFit [store?] words) :=
    firstFit_append leading [store?] words
  have last : firstFit [store?] words = store? words := by
    rw [firstFit, List.findSome?_cons]
    cases store? words <;> rfl
  have families : (∃ rule ∈ leading, rule words = some line) ↔
      ∃ family : Family, family.rule words = some line := by
    constructor
    · rintro ⟨rule, member, fits⟩
      obtain ⟨family, -, rfl⟩ := List.mem_map.mp member
      exact ⟨family, fits⟩
    · rintro ⟨family, fits⟩
      have member : family ∈ Family.all := by cases family <;> decide
      exact ⟨family.rule, List.mem_map_of_mem member, fits⟩
  rw [tried, last, Option.or_eq_some_iff, firstFit_eq_some_iff (rules_apart words), families,
    firstFit, List.findSome?_eq_none_iff]

theorem ofWords_of_family (family : Family) (fits : family.rule words = some line) :
    ofWords? words = some line :=
  ofWords_eq_some_iff.mpr (.inl ⟨family, fits⟩)

/-! ## Lines that look like stores -/

theorem store_shape (fits : store? words = some line) :
    ∃ first sign temp, words = [first, sign, temp] ∧ isAssign sign = true ∧
      isTemp temp = true ∧ line = .store first temp := by
  unfold store? at fits
  split at fits
  · rename_i first sign temp
    split at fits
    · rename_i stores
      obtain ⟨assigns, copies⟩ := Bool.and_eq_true_iff.mp stores
      exact ⟨first, sign, temp, rfl, assigns, copies, (Option.some.inj fits).symm⟩
    · cases fits
  · cases fits

theorem declaration_three (first sign word : String) :
    declaration? [first, sign, word] = none := by
  simp [declaration?]

theorem control_three (first sign word : String) :
    control? [first, sign, word] = if first = "return" then some (.control .leave) else none := by
  unfold control?
  split
  · rename_i opened
    cases opened
    simp [conditional?]
  · rename_i opened
    cases opened
  · rename_i opened
    cases opened
    rfl
  · rename_i other
    rw [if_neg]
    rintro rfl
    exact other _ rfl

theorem call_three (first sign word : String) :
    call? [first, sign, word] =
      if first = "call" then some (.call (calleeOf (String.intercalate " " [sign, word]).toList))
      else none := by
  unfold call?
  split
  · rename_i opened
    cases opened
  · rename_i opened
    cases opened
    rfl
  · rename_i other
    rw [if_neg]
    rintro rfl
    exact other _ _ rfl

theorem temp_three (first word : String) (assigns : isAssign sign = true) :
    temp? [first, sign, word] =
      if isTemp first then some (.assign first (valueOf word)) else none := by
  simp [temp?, assigns]

theorem leading_fits_three (first word : String) (assigns : isAssign sign = true) :
    (∃ rule ∈ leading, rule [first, sign, word] ≠ none) ↔
      first = "return" ∨ first = "call" ∨ isTemp first = true := by
  simp [leading, Family.all, Family.rule, declaration_three, control_three, call_three,
    temp_three first word assigns]

/-- A store is read where another rule fits too if and only if the line is contested. -/
theorem store_contested (words : List String) :
    (store? words ≠ none ∧ ∃ rule ∈ leading, rule words ≠ none) ↔ Contested words := by
  constructor
  · rintro ⟨stores, fits⟩
    obtain ⟨line, known⟩ := Option.ne_none_iff_exists'.mp stores
    obtain ⟨first, sign, temp, rfl, assigns, copies, -⟩ := store_shape known
    exact ⟨first, sign, temp, rfl, assigns, copies, (leading_fits_three first temp assigns).mp fits⟩
  · rintro ⟨first, sign, temp, rfl, assigns, copies, opens⟩
    exact ⟨by simp [store?, assigns, copies], (leading_fits_three first temp assigns).mpr opens⟩

theorem leading_no_store (fits : firstFit leading words = some line) (dest temp : String) :
    line ≠ .store dest temp := by
  obtain ⟨rule, member, known⟩ := (firstFit_eq_some_iff (rules_apart words)).mp fits
  obtain ⟨family, -, rfl⟩ := List.mem_map.mp member
  rintro rfl
  cases family with
  | declaration =>
      obtain ⟨declared, same⟩ := declaration_kind known
      cases same
  | control =>
      obtain ⟨flow, same⟩ := control_kind known
      cases same
  | call =>
      obtain ⟨made, same⟩ := call_kind known
      cases same
  | temp =>
      obtain ⟨_, _, ⟨_, same⟩ | ⟨_, _, _, same⟩⟩ := temp_kind known
      · cases same
      · cases same

/-- Where the line is not contested, the rule for stores can come first. -/
theorem store_first (uncontested : ¬ Contested words) :
    firstFit (store? :: leading) words = firstFit (leading ++ [store?]) words := by
  have apart : (leading ++ [store?]).Pairwise fun rule other =>
      rule words = none ∨ other words = none := by
    refine List.pairwise_append.mpr ⟨rules_apart words, List.pairwise_singleton _ _, ?_⟩
    intro rule member other only
    obtain rfl := List.mem_singleton.mp only
    by_contra clash
    rw [not_or] at clash
    exact uncontested ((store_contested words).mp ⟨clash.2, rule, member, clash.1⟩)
  exact firstFit_perm (List.perm_append_singleton store? leading).symm apart

/-- A contested line is read as a store if the rule for stores comes first, and only then. -/
theorem contested_differs (contested : Contested words) (rest : Line) :
    (firstFit (store? :: leading) words).getD rest ≠
      (firstFit (leading ++ [store?]) words).getD rest := by
  obtain ⟨stores, rule, member, fits⟩ := (store_contested words).mpr contested
  obtain ⟨line, known⟩ := Option.ne_none_iff_exists'.mp stores
  obtain ⟨first, sign, temp, rfl, -, -, rfl⟩ := store_shape known
  obtain ⟨other, also⟩ := Option.ne_none_iff_exists'.mp fits
  have leads := (firstFit_eq_some_iff (rules_apart _)).mpr ⟨rule, member, also⟩
  have early : firstFit (store? :: leading) [first, sign, temp] = some (.store first temp) := by
    rw [firstFit, List.findSome?_cons, known]
  rw [early, firstFit_append, leads]
  exact (leading_no_store leads first temp).symm

/-! ## Every line -/

theorem isTemp_characters (temp : isTemp word = true) :
    ∀ c ∈ word.toList, c = 't' ∨ isDecimalDigit c = true := by
  unfold isTemp at temp
  split at temp
  · rename_i digits written
    intro c member
    rw [written] at member
    rcases List.mem_cons.mp member with first | later
    · exact .inl first
    · exact .inr (List.all_eq_true.mp (Bool.and_eq_true_iff.mp temp).2 c later)
  · cases temp

theorem isTemp_opens (temp : isTemp word = true) : word.toList.head? = some 't' := by
  unfold isTemp at temp
  split at temp
  · rename_i digits written
    rw [written]
    rfl
  · cases temp

theorem Contested.opens (contested : Contested words) : opening? words ≠ some '#' := by
  obtain ⟨first, sign, temp, rfl, -, -, rfl | rfl | opens⟩ := contested
  · exact (by decide : "return".toList.head? ≠ some '#')
  · exact (by decide : "call".toList.head? ≠ some '#')
  · simp [opening?, isTemp_opens opens]

theorem Contested.closes (contested : Contested words) : closing? words ≠ some ':' := by
  obtain ⟨first, sign, temp, rfl, -, copies, -⟩ := contested
  intro colon
  have among : ':' ∈ temp.toList := List.mem_of_getLast? colon
  have digit : isDecimalDigit ':' = false := by decide
  simpa [digit] using isTemp_characters copies ':' among

/-- The words of a line that is neither blank nor a comment nor a label are tried in the order. -/
theorem ofTextBy_words {raw : String} (filled : wordsOf (trim raw.toList) ≠ [])
    (uncommented : opening? (wordsOf (trim raw.toList)) ≠ some '#')
    (unlabelled : closing? (wordsOf (trim raw.toList)) ≠ some ':') (order : List Rule) :
    ofTextBy order raw = some ((firstFit order (wordsOf (trim raw.toList))).getD
      (.generic (String.ofList (trim raw.toList)))) := by
  rw [opening_wordsOf] at uncommented
  rw [closing_wordsOf] at unlabelled
  have written : trim raw.toList ≠ [] := by
    intro nothing
    exact filled (by rw [nothing]; rfl)
  simp [ofTextBy, written, uncommented, unlabelled]

theorem ofText_words {raw : String} (cut : wordsOf (trim raw.toList) = words)
    (filled : words ≠ []) (uncommented : opening? words ≠ some '#')
    (unlabelled : closing? words ≠ some ':') :
    ofText? raw = some ((ofWords? words).getD (.generic (trimmed raw))) := by
  subst cut
  exact ofTextBy_words filled uncommented unlabelled (leading ++ [store?])

/-- Orders that agree on the words of a line agree on the line. -/
theorem ofTextBy_congr {raw : String} {other : List Rule}
    (same : firstFit order (wordsOf (trim raw.toList)) =
      firstFit other (wordsOf (trim raw.toList))) :
    ofTextBy order raw = ofTextBy other raw := by
  simp only [ofTextBy, same]

/-- Where the order of the rules matters. No words fit two of the rules that come before the one
for stores, so these can be tried in any order. The rule for stores fits along with one of them
if and only if the line is contested, and just those lines would be read otherwise if it came
first. -/
theorem rule_order_matters :
    (∀ words, leading.Pairwise fun rule other => rule words = none ∨ other words = none) ∧
    (∀ words, (store? words ≠ none ∧ ∃ rule ∈ leading, rule words ≠ none) ↔ Contested words) ∧
    ∀ order, order.Perm leading → ∀ raw,
      ofTextBy (order ++ [store?]) raw = ofText? raw ∧
      (ofTextBy (store? :: order) raw ≠ ofText? raw ↔ Contested (wordsOf (trim raw.toList))) := by
  refine ⟨rules_apart, store_contested, fun order same raw => ⟨?_, ?_⟩⟩
  · rw [← ofTextBy_rules]
    apply ofTextBy_congr
    rw [firstFit_append, firstFit_append, firstFit_perm same (rules_apart _)]
  · have early : ofTextBy (store? :: order) raw = ofTextBy (store? :: leading) raw := by
      apply ofTextBy_congr
      change firstFit ([store?] ++ order) _ = firstFit ([store?] ++ leading) _
      rw [firstFit_append, firstFit_append, firstFit_perm same (rules_apart _)]
    rw [early, ← ofTextBy_rules]
    constructor
    · -- Orders that read a line in different ways disagree on its words.
      intro differ
      by_contra uncontested
      exact differ (ofTextBy_congr (store_first uncontested))
    · intro contested
      have filled : wordsOf (trim raw.toList) ≠ [] := by
        obtain ⟨first, sign, temp, written, -⟩ := contested
        simp [written]
      rw [ofTextBy_words filled contested.opens contested.closes,
        ofTextBy_words filled contested.opens contested.closes]
      intro same
      exact contested_differs contested _ (Option.some.inj same)

theorem return_contested :
    ofTextBy (leading.reverse ++ [store?]) "return = t1" = ofText? "return = t1" ∧
      ofTextBy (store? :: leading.reverse) "return = t1" ≠ ofText? "return = t1" := by
  have backwards : leading.reverse.Perm leading := List.reverse_perm leading
  have words : wordsOf (trim "return = t1".toList) = ["return", "=", "t1"] := by decide +kernel
  have contested : Contested (wordsOf (trim "return = t1".toList)) :=
    ⟨"return", "=", "t1", words, rfl, by decide, .inl rfl⟩
  obtain ⟨last, first⟩ :=
    rule_order_matters.2.2 leading.reverse backwards "return = t1"
  exact ⟨last, first.mpr contested⟩

end ThreeAddress.Line
