import ChartQuery.Proofs.Text.Capitals
import Mathlib.Data.List.Chain

/-!
# Title case

A text in title case consists of words with one blank between them. A word has no blank, no
separator and no step from a small letter or a digit to a capital one, and putting its first
character in upper case changes nothing of that, since what comes in its place are capitals.
So a text in title case is cut into the words that it was made from, and they begin with
capitals already.

Main statement: `titleCase_idempotent`.
-/

namespace ChartQuery.Text

/-- There is no step from a small letter or a digit to a capital letter. -/
def Level (s : List Char) : Prop := s.IsChain fun a b => isCamelStep a b = false

/-- A text that title case takes for one word. -/
structure IsWord (word : List Char) : Prop where
  some : word ≠ []
  solid : ∀ c ∈ word, isSpace c = false
  plain : ∀ c ∈ word, separatorToBlank c = c
  level : Level word

section Pieces

variable {p : Char → Bool} {s piece : List Char}

/-- The first piece stands in front. -/
theorem isPrefix_of_splitOnP {more : List (List Char)} (split : s.splitOnP p = piece :: more) :
    piece <+: s := by
  induction s generalizing piece more with
  | nil =>
    rw [List.splitOnP_nil] at split
    cases split
    exact List.nil_prefix
  | cons c s ih =>
    rw [List.splitOnP_cons_eq_if_modifyHead] at split
    split at split
    · cases split
      exact List.nil_prefix
    · obtain ⟨first, rest, found⟩ := List.exists_cons_of_ne_nil (List.splitOnP_ne_nil p s)
      rw [found, List.modifyHead_cons] at split
      cases split
      exact List.cons_prefix_cons.2 ⟨rfl, ih found⟩

theorem isInfix_of_mem_splitOnP (mem : piece ∈ s.splitOnP p) :
    piece <:+: s ∧ ∀ c ∈ piece, p c = false := by
  induction s generalizing piece with
  | nil =>
    rw [List.splitOnP_nil, List.mem_singleton] at mem
    simp [mem]
  | cons c s ih =>
    have later {piece : List Char} (mem : piece ∈ s.splitOnP p) :
        piece <:+: c :: s ∧ ∀ c ∈ piece, p c = false :=
      ⟨(ih mem).1.trans (List.suffix_cons c s).isInfix, (ih mem).2⟩
    rw [List.splitOnP_cons_eq_if_modifyHead] at mem
    split at mem
    · rcases List.mem_cons.1 mem with rfl | mem
      · simp
      · exact later mem
    · rename_i inner
      obtain ⟨first, rest, found⟩ := List.exists_cons_of_ne_nil (List.splitOnP_ne_nil p s)
      rw [found, List.modifyHead_cons] at mem
      rcases List.mem_cons.1 mem with rfl | mem
      · have here : first <:+: s ∧ ∀ c ∈ first, p c = false := ih (by simp [found])
        have front := isPrefix_of_splitOnP found
        refine ⟨(List.cons_prefix_cons.2 ⟨rfl, front⟩).isInfix, fun d mem => ?_⟩
        rcases List.mem_cons.1 mem with rfl | mem
        · simpa using inner
        · exact here.2 d mem
      · exact later (by simp [found, mem])

theorem pieces_append {c : Char} (here : p c) (s t : List Char) :
    pieces p (s ++ c :: t) = pieces p s ++ pieces p t := by
  rw [pieces, List.splitOnP_append_cons _ _ here, List.filter_append]
  rfl

theorem pieces_of_free (some : s ≠ []) (free : ∀ c ∈ s, p c = false) : pieces p s = [s] := by
  rw [pieces, List.splitOnP_eq_singleton free]
  simp [some]

theorem mem_words (mem : piece ∈ words s) :
    piece ≠ [] ∧ piece <:+: s ∧ ∀ c ∈ piece, isSpace c = false := by
  obtain ⟨mem, some⟩ := List.mem_filter.1 mem
  exact ⟨by simpa using some, isInfix_of_mem_splitOnP mem⟩

/-- Words with a blank between them are read back. -/
theorem words_intercalate {list : List (List Char)} (some : ∀ word ∈ list, word ≠ [])
    (solid : ∀ word ∈ list, ∀ c ∈ word, isSpace c = false) :
    words ([' '].intercalate list) = list := by
  induction list with
  | nil => rfl
  | cons word list ih =>
    have first : words word = [word] :=
      pieces_of_free (some word (by simp)) (solid word (by simp))
    cases list with
    | nil => simpa using first
    | cons next list =>
      have rest := ih (fun word mem => some word (by simp [mem]))
        fun word mem => solid word (by simp [mem])
      rw [List.intercalate_cons_cons, List.append_assoc, List.singleton_append, words,
        pieces_append (by decide), ← words, ← words, first, rest, List.singleton_append]

end Pieces

section Steps

variable {s : List Char}

theorem spaceCamelSteps_cons (c : Char) (s : List Char) :
    ∃ rest, spaceCamelSteps (c :: s) = c :: rest := by
  cases s with
  | nil => exact ⟨[], rfl⟩
  | cons d s =>
    rw [spaceCamelSteps]
    split <;> exact ⟨_, rfl⟩

theorem isCamelStep_blank (c : Char) :
    isCamelStep c ' ' = false ∧ isCamelStep ' ' c = false := by
  simp [isCamelStep]

/-- A blank at every step leaves no step. -/
theorem level_spaceCamelSteps (s : List Char) : Level (spaceCamelSteps s) := by
  fun_induction spaceCamelSteps s with
  | case1 a b rest step ih =>
    obtain ⟨more, begins⟩ := spaceCamelSteps_cons b rest
    rw [begins] at ih ⊢
    exact .cons_cons (isCamelStep_blank a).1 (.cons_cons (isCamelStep_blank b).2 ih)
  | case2 a b rest step ih =>
    obtain ⟨more, begins⟩ := spaceCamelSteps_cons b rest
    rw [begins] at ih ⊢
    exact .cons_cons (by simpa using step) ih
  | case3 s short =>
    match s with
    | [] => exact .nil
    | [c] => exact .singleton c
    | a :: b :: rest => exact absurd rfl (short a b rest)

theorem spaceCamelSteps_of_level (level : Level s) : spaceCamelSteps s = s := by
  fun_induction spaceCamelSteps s with
  | case1 a b rest step ih =>
    have none := (List.isChain_cons_cons.1 level).1
    rw [step] at none
    cases none
  | case2 a b rest step ih => rw [ih (List.isChain_cons_cons.1 level).2]
  | case3 => rfl

theorem mem_spaceCamelSteps {c : Char} (mem : c ∈ spaceCamelSteps s) : c = ' ' ∨ c ∈ s := by
  fun_induction spaceCamelSteps s with
  | case1 a b rest step ih =>
    simp only [List.mem_cons] at mem ⊢
    rcases mem with rfl | rfl | mem
    · exact .inr (.inl rfl)
    · exact .inl rfl
    · exact (ih mem).imp_right fun mem => .inr (by simpa using mem)
  | case2 a b rest step ih =>
    simp only [List.mem_cons] at mem ⊢
    rcases mem with rfl | mem
    · exact .inr (.inl rfl)
    · exact (ih mem).imp_right fun mem => .inr (by simpa using mem)
  | case3 => exact .inr mem

/-- A character from which no step begins may stand in front. -/
theorem Level.cons {c : Char} (level : Level s) (flat : ∀ b, isCamelStep c b = false) :
    Level (c :: s) :=
  List.IsChain.cons level fun b _ => flat b

theorem Level.blank {t : List Char} (hs : Level s) (ht : Level t) : Level (s ++ ' ' :: t) := by
  refine List.isChain_append.2 ⟨hs, ht.cons fun b => (isCamelStep_blank b).2, ?_⟩
  intro a _ b first
  obtain rfl : ' ' = b := by simpa using first
  exact (isCamelStep_blank a).1

theorem Level.of_inside {word : List Char} (level : Level s) (inside : word <:+: s) :
    Level word := by
  obtain ⟨before, behind, rfl⟩ := inside
  exact level.left_of_append.right_of_append

theorem IsCapital.flat {c : Char} (h : IsCapital c) (b : Char) : isCamelStep c b = false := by
  simp [isCamelStep, h.level]

/-- No step begins in capitals, whatever stands behind them. -/
theorem Level.behind_capitals {front : List Char} (level : Level s)
    (capital : ∀ c ∈ front, IsCapital c) : Level (front ++ s) := by
  induction front with
  | nil => exact level
  | cons c front ih =>
    have front := ih fun d mem => capital d (by simp [mem])
    exact front.cons (capital c (by simp)).flat

end Steps

theorem separatorToBlank_idem (c : Char) :
    separatorToBlank (separatorToBlank c) = separatorToBlank c := by
  unfold separatorToBlank
  split <;> rfl

/-- What title case cuts a text into are words. -/
theorem isWord_of_mem_titleWords {s word : List Char} (mem : word ∈ titleWords s) :
    IsWord word := by
  obtain ⟨some, inside, solid⟩ := mem_words mem
  refine ⟨some, solid, fun c mem => ?_, (level_spaceCamelSteps _).of_inside inside⟩
  rcases mem_spaceCamelSteps (inside.subset mem) with rfl | mem
  · rfl
  · obtain ⟨d, -, rfl⟩ := List.mem_map.1 mem
    exact separatorToBlank_idem d

/-- A word stays one if its first character is put in upper case. -/
theorem IsWord.capitalize {word : List Char} (h : IsWord word) : IsWord (capitalize word) := by
  cases word with
  | nil => exact absurd rfl h.some
  | cons c rest =>
    obtain same | ⟨some, capital⟩ := upperCase_cases c
    · rwa [Text.capitalize, same]
    rw [Text.capitalize]
    have tail : Level rest := List.IsChain.tail h.level
    refine ⟨by simp [some], fun d mem => ?_, fun d mem => ?_, tail.behind_capitals capital⟩
    · rcases List.mem_append.1 mem with mem | mem
      · exact (capital d mem).solid
      · exact h.solid d (by simp [mem])
    · rcases List.mem_append.1 mem with mem | mem
      · exact (capital d mem).plain
      · exact h.plain d (by simp [mem])

theorem capitalize_idem (word : List Char) : capitalize (capitalize word) = capitalize word := by
  cases word with
  | nil => rfl
  | cons c rest =>
    obtain same | ⟨some, capital⟩ := upperCase_cases c
    · simp [capitalize, same]
    · obtain ⟨d, more, made⟩ := List.exists_cons_of_ne_nil some
      have fixed : upperCase d = [d] := (capital d (by simp [made])).fixed
      simp [capitalize, made, fixed]

section Joined

variable {list : List (List Char)}

theorem mem_intercalate {c : Char} (mem : c ∈ [' '].intercalate list) :
    c = ' ' ∨ ∃ word ∈ list, c ∈ word := by
  induction list with
  | nil => cases mem
  | cons word list ih =>
    cases list with
    | nil => exact .inr ⟨word, by simp, by simpa using mem⟩
    | cons next list =>
      rw [List.intercalate_cons_cons, List.append_assoc, List.mem_append, List.mem_append,
        List.mem_singleton] at mem
      rcases mem with mem | rfl | mem
      · exact .inr ⟨word, by simp, mem⟩
      · exact .inl rfl
      · exact (ih mem).imp_right fun ⟨other, here, mem⟩ => ⟨other, by simp [here], mem⟩

theorem level_intercalate (level : ∀ word ∈ list, Level word) :
    Level ([' '].intercalate list) := by
  induction list with
  | nil => exact .nil
  | cons word list ih =>
    cases list with
    | nil => simpa using level word (by simp)
    | cons next list =>
      rw [List.intercalate_cons_cons, List.append_assoc, List.singleton_append]
      exact (level word (by simp)).blank (ih fun other mem => level other (by simp [mem]))

theorem titleWords_intercalate (h : ∀ word ∈ list, IsWord word) :
    titleWords ([' '].intercalate list) = list := by
  have plain : ∀ c ∈ [' '].intercalate list, separatorToBlank c = c := by
    intro c mem
    rcases mem_intercalate mem with rfl | ⟨word, here, mem⟩
    · rfl
    · exact (h word here).plain c mem
  have same : ([' '].intercalate list).map separatorToBlank = [' '].intercalate list :=
    (List.map_congr_left plain).trans (List.map_id _)
  have level := level_intercalate fun word mem => (h word mem).level
  rw [titleWords, same, spaceCamelSteps_of_level level]
  exact words_intercalate (fun word mem => (h word mem).some) fun word mem => (h word mem).solid

end Joined

/-- Title case leaves a text alone that is in title case. -/
theorem titleCase_idempotent (s : String) : titleCase (titleCase s) = titleCase s := by
  have words : ∀ word ∈ (titleWords s.toList).map capitalize, IsWord word := by
    intro word mem
    obtain ⟨own, cut, rfl⟩ := List.mem_map.1 mem
    exact (isWord_of_mem_titleWords cut).capitalize
  have again : titleWords (titleCase s).toList = (titleWords s.toList).map capitalize := by
    rw [titleCase, String.toList_ofList, titleWords_intercalate words]
  rw [titleCase, again, List.map_map, titleCase]
  have same : capitalize ∘ capitalize = capitalize := funext capitalize_idem
  rw [same]

end ChartQuery.Text
