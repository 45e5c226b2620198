import ChartQuery.Proofs.Text.TitleCase
import Mathlib.Data.List.SplitBy

/-!
# Word boundaries

Title case makes blanks of the separators, puts a blank at every step from a small letter or a
digit to a capital letter, and takes what stands between white space. Here a text is cut
directly: at the separators, which belong to no word, and at the steps, where nothing is lost.
Both ways lead to the same words.

A blank at every step joins what lies between the steps (`spaceCamelSteps_eq`), and a
separator divides the words on its two sides, whichever way they are found
(`titleWords_append`, `piecesAtBoundaries_append`). So the induction is on the separators of
the text, and a text without them is settled by the steps alone.

Main statement: `titleCase_cuts_at_boundaries`.
-/

namespace ChartQuery.Text

def isSeparator (c : Char) : Bool := c == '_' || c == '-' || isSpace c

/-- The pieces of a text, cut at every step in it. -/
def piecesAtSteps (s : List Char) : List (List Char) :=
  s.splitBy fun a b => !isCamelStep a b

/-- The pieces of a text between separators, each of them cut at every step in it. -/
def piecesAtBoundaries (s : List Char) : List (List Char) :=
  (pieces isSeparator s).flatMap piecesAtSteps

/-- A blank at the steps that are found from left to right, where the search goes on behind
each one. -/
def spaceStepsFound : List Char → List Char
  | a :: b :: rest =>
    if isCamelStep a b then a :: ' ' :: b :: spaceStepsFound rest
    else a :: spaceStepsFound (b :: rest)
  | s => s

section Pieces

theorem flatten_pieces (p : Char → Bool) (s : List Char) :
    (pieces p s).flatten = s.filter fun c => !p c := by
  have all : (s.splitOnP p).flatten = s.filter fun c => !p c := by
    induction s with
    | nil => rfl
    | cons c s ih =>
      rw [List.splitOnP_cons_eq_if_modifyHead]
      split
      · rename_i here
        simpa [here] using ih
      · rename_i here
        obtain ⟨first, rest, found⟩ := List.exists_cons_of_ne_nil (List.splitOnP_ne_nil p s)
        rw [found] at ih ⊢
        simpa [here] using ih
  rw [pieces, ← all]
  exact List.flatten_filter_not_isEmpty

theorem free_or_cut (p : Char → Bool) (s : List Char) :
    (∀ c ∈ s, p c = false) ∨ ∃ front c rest, s = front ++ c :: rest ∧ p c := by
  by_cases free : ∀ c ∈ s, p c = false
  · exact .inl free
  · push Not at free
    obtain ⟨c, mem, here⟩ := free
    obtain ⟨front, rest, same⟩ := List.append_of_mem mem
    exact .inr ⟨front, c, rest, same, by simpa using here⟩

end Pieces

section Steps

theorem short_cases {s : List Char} (short : ∀ a b rest, s = a :: b :: rest → False) :
    s = [] ∨ ∃ c, s = [c] := by
  match s with
  | [] => exact .inl rfl
  | [c] => exact .inr ⟨c, rfl⟩
  | a :: b :: rest => exact (short a b rest rfl).elim

theorem toNat_of_isUpper {c : Char} (h : c.isUpper) : 0x41 ≤ c.toNat ∧ c.toNat ≤ 0x5A := by
  have bounds : 0x41 ≤ c.val ∧ c.val ≤ 0x5A := of_decide_eq_true h
  exact bounds

theorem isSpace_of_letter {c : Char} (h : 0x41 ≤ c.toNat ∧ c.toNat ≤ 0x7A) :
    isSpace c = false := by
  simp only [isSpace, Bool.or_eq_false_iff, Bool.and_eq_false_iff, decide_eq_false_iff_not,
    beq_eq_false_iff_ne]
  omega

/-- The characters of a step belong to words. -/
theorem isSpace_of_isCamelStep {a b : Char} (step : isCamelStep a b) :
    isSpace a = false ∧ isSpace b = false := by
  simp only [isCamelStep, Bool.and_eq_true, Bool.or_eq_true] at step
  obtain ⟨small | digit, capital⟩ := step
  · have here := toNat_of_isLower small
    have next := toNat_of_isUpper capital
    exact ⟨isSpace_of_letter ⟨by omega, here.2⟩, isSpace_of_letter ⟨next.1, by omega⟩⟩
  · have next := toNat_of_isUpper capital
    exact ⟨isSpace_of_isDigit digit, isSpace_of_letter ⟨next.1, by omega⟩⟩

theorem isCamelStep_of_isSpace {a b : Char} (space : isSpace a ∨ isSpace b) :
    isCamelStep a b = false := by
  refine Bool.eq_false_iff.2 fun step => ?_
  obtain ⟨first, second⟩ := isSpace_of_isCamelStep step
  simp [first, second] at space

/-- No step begins with the capital letter at which another one ends. -/
theorem isCamelStep_behind {a b : Char} (step : isCamelStep a b) (c : Char) :
    isCamelStep b c = false := by
  simp only [isCamelStep, Bool.and_eq_true] at step
  have bounds := toNat_of_isUpper step.2
  have small : b.isLower = false := by
    refine Bool.eq_false_iff.2 fun small => ?_
    have := toNat_of_isLower small
    omega
  have digit : b.isDigit = false := by
    refine Bool.eq_false_iff.2 fun digit => ?_
    have := toNat_of_isDigit digit
    omega
  simp [isCamelStep, small, digit]

theorem spaceCamelSteps_flat {c : Char} (flat : ∀ d, isCamelStep c d = false) (s : List Char) :
    spaceCamelSteps (c :: s) = c :: spaceCamelSteps s := by
  cases s with
  | nil => rfl
  | cons d s => rw [spaceCamelSteps, flat]; rfl

/-- No step is passed over if the search goes on behind the one that was found. -/
theorem spaceStepsFound_eq (s : List Char) : spaceStepsFound s = spaceCamelSteps s := by
  fun_induction spaceStepsFound s with
  | case1 a b rest step ih =>
    rw [spaceCamelSteps, if_pos step, spaceCamelSteps_flat (isCamelStep_behind step), ih]
  | case2 a b rest step ih => rw [spaceCamelSteps, if_neg step, ih]
  | case3 s short =>
    obtain rfl | ⟨c, rfl⟩ := short_cases short <;> rfl

theorem spaceCamelSteps_append {c : Char} (space : isSpace c) (s t : List Char) :
    spaceCamelSteps (s ++ c :: t) = spaceCamelSteps s ++ c :: spaceCamelSteps t := by
  have begins (d : Char) : isCamelStep c d = false := isCamelStep_of_isSpace (.inl space)
  have ends (d : Char) : isCamelStep d c = false := isCamelStep_of_isSpace (.inr space)
  fun_induction spaceCamelSteps s with
  | case1 a b rest step ih =>
    rw [List.cons_append, List.cons_append, spaceCamelSteps, if_pos step, ← List.cons_append, ih]
    rfl
  | case2 a b rest step ih =>
    rw [List.cons_append, List.cons_append, spaceCamelSteps, if_neg step, ← List.cons_append, ih]
    rfl
  | case3 s short =>
    obtain rfl | ⟨d, rfl⟩ := short_cases short
    · exact spaceCamelSteps_flat begins t
    · change spaceCamelSteps (d :: c :: t) = d :: c :: spaceCamelSteps t
      rw [spaceCamelSteps, ends, spaceCamelSteps_flat begins]
      rfl

/-- A character that goes with the next one stands in front of the piece of that one. -/
theorem splitBy_cons {r : Char → Char → Bool} {a b : Char} (inner : r a b) (s : List Char) :
    ∃ first rest, (b :: s).splitBy r = first :: rest ∧
      (a :: b :: s).splitBy r = (a :: first) :: rest := by
  obtain ⟨first, rest, found⟩ :=
    List.exists_cons_of_ne_nil (List.splitBy_ne_nil.2 (List.cons_ne_nil b s) : _ ≠ [])
  refine ⟨first, rest, found, ?_⟩
  obtain ⟨whole, some, chains, apart⟩ := List.splitBy_eq_iff.1 found
  match first with
  | [] => simp at some
  | c :: first =>
    obtain ⟨rfl, -⟩ : b = c ∧ s = first ++ rest.flatten := by simpa using whole
    refine List.splitBy_eq_iff.2 ⟨by simp [whole], by simpa using some, ?_, ?_⟩
    · intro piece mem
      rcases List.mem_cons.1 mem with rfl | mem
      · exact .cons_cons inner (chains _ (by simp))
      · exact chains piece (by simp [mem])
    · cases rest with
      | nil => exact .singleton _
      | cons second rest =>
        obtain ⟨⟨here, next, ends⟩, later⟩ := List.isChain_cons_cons.1 apart
        exact .cons_cons ⟨by simp, next, by simpa using ends⟩ later

theorem flatten_piecesAtSteps (s : List Char) : (piecesAtSteps s).flatten = s :=
  List.flatten_splitBy _ s

/-- The blanks stand between the pieces that lie between the steps. -/
theorem spaceCamelSteps_eq (s : List Char) :
    spaceCamelSteps s = [' '].intercalate (piecesAtSteps s) := by
  fun_induction spaceCamelSteps s with
  | case1 a b rest step ih =>
    have cut : piecesAtSteps ([a] ++ b :: rest) = [a] :: piecesAtSteps (b :: rest) :=
      List.splitBy_append_cons rest (by simpa using step)
    obtain ⟨first, more, found⟩ : ∃ first more, piecesAtSteps (b :: rest) = first :: more :=
      List.exists_cons_of_ne_nil (List.splitBy_ne_nil.2 (List.cons_ne_nil b rest))
    rw [← List.singleton_append (l := b :: rest), cut, ih, found, List.intercalate_cons_cons]
    rfl
  | case2 a b rest step ih =>
    obtain ⟨first, more, found, joined⟩ : ∃ first more, piecesAtSteps (b :: rest) = first :: more ∧
        piecesAtSteps (a :: b :: rest) = (a :: first) :: more :=
      splitBy_cons (by simpa using step) rest
    rw [joined, ih, found]
    cases more <;> simp [List.intercalate_cons_cons]
  | case3 s short =>
    obtain rfl | ⟨c, rfl⟩ := short_cases short <;> rfl

end Steps

section Boundaries

theorem isSpace_separatorToBlank (c : Char) : isSpace (separatorToBlank c) = isSeparator c := by
  unfold separatorToBlank isSeparator
  split
  · rename_i h
    rcases h with rfl | rfl <;> decide
  · rename_i h
    rw [not_or] at h
    simp [h.1, h.2]

theorem separatorToBlank_of_free {c : Char} (h : isSeparator c = false) :
    separatorToBlank c = c := by
  simp only [isSeparator, Bool.or_eq_false_iff, beq_eq_false_iff_ne] at h
  exact if_neg (not_or.2 h.1)

theorem titleWords_append {c : Char} (here : isSeparator c) (s t : List Char) :
    titleWords (s ++ c :: t) = titleWords s ++ titleWords t := by
  have space : isSpace (separatorToBlank c) := by rwa [isSpace_separatorToBlank]
  rw [titleWords, List.map_append, List.map_cons, spaceCamelSteps_append space, words,
    pieces_append space]
  rfl

theorem piecesAtBoundaries_append {c : Char} (here : isSeparator c) (s t : List Char) :
    piecesAtBoundaries (s ++ c :: t) = piecesAtBoundaries s ++ piecesAtBoundaries t := by
  rw [piecesAtBoundaries, pieces_append here, List.flatMap_append]
  rfl

theorem titleWords_of_free {s : List Char} (free : ∀ c ∈ s, isSeparator c = false) :
    titleWords s = piecesAtSteps s := by
  have same : s.map separatorToBlank = s :=
    (List.map_congr_left fun c mem => separatorToBlank_of_free (free c mem)).trans (List.map_id s)
  rw [titleWords, same, spaceCamelSteps_eq]
  refine words_intercalate (fun word mem => List.ne_nil_of_mem_splitBy mem) ?_
  intro word mem c here
  have inside : c ∈ s := by
    rw [← flatten_piecesAtSteps s]
    exact List.mem_flatten.2 ⟨word, mem, here⟩
  have := free c inside
  simp only [isSeparator, Bool.or_eq_false_iff] at this
  exact this.2

theorem piecesAtBoundaries_of_free {s : List Char} (free : ∀ c ∈ s, isSeparator c = false) :
    piecesAtBoundaries s = piecesAtSteps s := by
  by_cases some : s = []
  · subst some
    rfl
  · rw [piecesAtBoundaries, pieces_of_free some free, List.flatMap_singleton]

/-- Title case takes the pieces of a text for its words. -/
theorem titleWords_eq (s : List Char) : titleWords s = piecesAtBoundaries s := by
  induction h : s.length using Nat.strong_induction_on generalizing s with
  | _ n ih =>
    obtain free | ⟨front, c, rest, rfl, here⟩ := free_or_cut isSeparator s
    · rw [titleWords_of_free free, piecesAtBoundaries_of_free free]
    · rw [List.length_append, List.length_cons] at h
      rw [titleWords_append here, piecesAtBoundaries_append here, ih _ (by omega) front rfl,
        ih _ (by omega) rest rfl]

/-- The pieces hold the text but its separators. -/
theorem flatten_piecesAtBoundaries (s : List Char) :
    (piecesAtBoundaries s).flatten = s.filter fun c => !isSeparator c := by
  have whole : List.flatten ∘ piecesAtSteps = id := funext flatten_piecesAtSteps
  rw [piecesAtBoundaries, List.flatMap_def, List.flatten_flatten, List.map_map, whole,
    List.map_id, flatten_pieces]

end Boundaries

theorem capitalize_eq (word : List Char) :
    capitalize word = (word.take 1).flatMap upperCase ++ word.drop 1 := by
  cases word <;> simp [capitalize]

/-- A text in title case consists of the pieces of the text, cut at its separators and at its
steps, each with its first character in upper case and with one blank between them. Nothing
else of the text is changed, and nothing but the separators is lost. The steps are found even
if the search for the next one goes on behind the one before. -/
theorem titleCase_cuts_at_boundaries (s : String) :
    titleCase s = String.ofList ([' '].intercalate ((piecesAtBoundaries s.toList).map
        fun piece => (piece.take 1).flatMap upperCase ++ piece.drop 1)) ∧
      (piecesAtBoundaries s.toList).flatten = s.toList.filter (fun c => !isSeparator c) ∧
      spaceStepsFound (s.toList.map separatorToBlank) =
        spaceCamelSteps (s.toList.map separatorToBlank) := by
  refine ⟨?_, flatten_piecesAtBoundaries s.toList, spaceStepsFound_eq _⟩
  rw [titleCase, titleWords_eq]
  congr 2
  exact List.map_congr_left fun piece _ => capitalize_eq piece

example : piecesAtBoundaries "aBcDe-_x9Y z".toList =
    [['a'], ['B', 'c'], ['D', 'e'], ['x', '9'], ['Y'], ['z']] := by decide

end ChartQuery.Text
