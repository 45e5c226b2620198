import ChartQuery.Proofs.Sql.Lexemes

/-!
# Boolean expressions

A boolean expression of SQL is read as alternatives, of which one has to hold, and each of
them as factors, which all have to hold: `AND` binds tighter than `OR`. A factor is what
stands between two such words, outside brackets. It may be a predicate, its negation, or
an expression in brackets, and it is true or false as a whole.

The words count only outside quotes and comments. `CASE` and `BETWEEN` open something as
brackets do, which `END` and `AND` close.

What is read of two texts with `AND` between them are the alternatives of the one and of
the other, except that the last of the first goes on into the first of the second
(`frontFormula?_and`).
-/

namespace ChartQuery

open Lexer

/-- What a lexeme does to the expression in which it stands. -/
inductive Part where
  | and
  | or
  /-- It opens something that another lexeme closes. -/
  | opens (closer : Lexeme)
  | closes
  /-- It stands behind the expression, at the start of another clause. -/
  | ends
  | inner
  deriving DecidableEq, Repr

namespace Lexeme

def clauseWords : List String :=
  ["GROUP", "HAVING", "WINDOW", "QUALIFY", "ORDER", "LIMIT", "OFFSET", "FETCH", "UNION",
    "INTERSECT", "EXCEPT", "USING", "FOR"]

def wordParts : List (String × Part) :=
  [("AND", .and), ("OR", .or), ("CASE", .opens (keyword "END")),
    ("BETWEEN", .opens (keyword "AND")), ("END", .closes)] ++
    clauseWords.map fun word => (word, .ends)

def signParts : List (Char × Part) :=
  [('(', .opens (.sign ')')), ('[', .opens (.sign ']')), ('{', .opens (.sign '}')),
    (')', .closes), (']', .closes), ('}', .closes), (';', .ends)]

def capital : Lexeme → Lexeme
  | word letters => word (letters.map Char.toUpper)
  | lexeme => lexeme

def part : Lexeme → Part
  | word letters => (wordParts.lookup (String.ofList (letters.map Char.toUpper))).getD .inner
  | sign c => (signParts.lookup c).getD .inner
  | quoted .. => .inner

end Lexeme

abbrev Factor := List Lexeme

abbrev Formula := List (List Factor)

namespace Formula

def holds (v : Factor → Bool) (formula : Formula) : Bool :=
  formula.any fun alternative => alternative.all v

theorem holds_flatMap {α : Type} (v : Factor → Bool) (own : α → List Factor) (list : List α) :
    holds v [list.flatMap own] = list.all fun a => (own a).all v := by
  simp [holds, List.all_flatMap]

/-- Two formulas with `AND` between them, without brackets: it binds the last alternative
of the one to the first of the other. -/
def glue : Formula → Formula → Formula
  | [], formula => formula
  | [last], [] => [last]
  | [last], first :: others => (last ++ first) :: others
  | alternative :: next :: more, formula => alternative :: glue (next :: more) formula

@[simp] theorem glue_nil (formula : Formula) : glue formula [] = formula := by
  induction formula with
  | nil => rfl
  | cons alternative more ih =>
    cases more with
    | nil => rfl
    | cons next more => rw [glue, ih]

@[simp] theorem glue_single (first last : List Factor) : glue [first] [last] = [first ++ last] :=
  rfl

theorem glue_cons {formula : Formula} (some : formula ≠ []) (alternative : List Factor)
    (other : Formula) :
    glue (alternative :: formula) other = alternative :: glue formula other := by
  cases formula with
  | nil => exact absurd rfl some
  | cons next more => simp [glue]

theorem glue_factor (factor : Factor) (formula other : Formula) :
    glue (glue [[factor]] formula) other = glue [[factor]] (glue formula other) := by
  cases formula with
  | nil => simp [glue]
  | cons first more =>
    cases more with
    | nil => cases other <;> simp [glue]
    | cons next more => simp [glue]

/-- What is awaited after a lexeme: the lexemes that close what is open, the next of them
first. What is not open cannot be closed. -/
def advance (awaited : List Lexeme) (lexeme : Lexeme) : Option (List Lexeme) :=
  if awaited.head? = some lexeme.capital then some awaited.tail
  else
    match lexeme.part with
    | .opens closer => some (closer :: awaited)
    | .closes => none
    | _ => some awaited

/-- Read an expression up to its end or to the next clause, which is left. The factor is
what has been read of it. While something is open, all belongs to the factor. -/
def cut : List Lexeme → Factor → List Lexeme → Option (Formula × List Lexeme)
  | awaited, factor, [] => if awaited = [] ∧ factor ≠ [] then some ([[factor]], []) else none
  | awaited, factor, lexeme :: rest =>
    match if awaited = [] then lexeme.part else .inner with
    | .and =>
      if factor = [] then none
      else (cut [] [] rest).map fun (formula, left) => (glue [[factor]] formula, left)
    | .or =>
      if factor = [] then none
      else (cut [] [] rest).map fun (formula, left) => ([factor] :: formula, left)
    | .ends => if factor = [] then none else some ([[factor]], lexeme :: rest)
    | _ => (advance awaited lexeme).bind fun awaited => cut awaited (factor ++ [lexeme]) rest

section Cut

variable {awaited : List Lexeme} {factor : Factor} {x y left : List Lexeme}
  {formula other : Formula}

theorem ne_nil_of_cut (h : cut awaited factor x = some (formula, left)) : formula ≠ [] := by
  fun_induction cut awaited factor x generalizing formula with
  | case1 | case8 =>
    cases h
    simp
  | case2 | case3 | case5 | case7 => cases h
  | case4 awaited factor lexeme rest joins spelled ih =>
    obtain ⟨⟨formula, left⟩, -, same⟩ := Option.map_eq_some_iff.1 h
    cases same
    cases formula <;> simp [glue]
  | case6 awaited factor lexeme rest joins spelled ih =>
    obtain ⟨⟨formula, left⟩, -, same⟩ := Option.map_eq_some_iff.1 h
    cases same
    simp
  | case9 awaited factor lexeme rest noAnd noOr goesOn ih =>
    obtain ⟨awaited', -, read⟩ := Option.bind_eq_some_iff.1 h
    exact ih awaited' read

/-- What is read of a text goes on into what is read of the text behind it. -/
theorem cut_append (first : cut awaited factor x = some (formula, []))
    (second : ∀ factor, factor ≠ [] → cut [] factor y = some (glue [[factor]] other, left)) :
    cut awaited factor (x ++ y) = some (glue formula other, left) := by
  fun_induction cut awaited factor x generalizing formula with
  | case1 awaited factor ended =>
    cases first
    rw [ended.1]
    exact second factor ended.2
  | case2 => cases first
  | case3 => cases first
  | case4 awaited factor lexeme rest joins spelled ih =>
    obtain ⟨⟨formula, left⟩, read, same⟩ := Option.map_eq_some_iff.1 first
    cases same
    rw [List.cons_append, cut, joins]
    simp only [if_neg spelled]
    rw [ih read]
    simp [glue_factor]
  | case5 => cases first
  | case6 awaited factor lexeme rest joins spelled ih =>
    obtain ⟨⟨formula, left⟩, read, same⟩ := Option.map_eq_some_iff.1 first
    cases same
    rw [List.cons_append, cut, joins]
    simp only [if_neg spelled]
    rw [ih read]
    simp [glue_cons (ne_nil_of_cut read)]
  | case7 => cases first
  | case8 => cases first
  | case9 awaited factor lexeme rest noAnd noOr goesOn ih =>
    obtain ⟨awaited', moves, read⟩ := Option.bind_eq_some_iff.1 first
    rw [List.cons_append, cut]
    split
    · exact (noAnd ‹_›).elim
    · exact (noOr ‹_›).elim
    · exact (goesOn ‹_›).elim
    rw [moves, Option.bind_some, ih awaited' read]

theorem cut_and {lexeme : Lexeme} (h : lexeme.part = .and) (some : factor ≠ []) :
    cut [] factor (lexeme :: x) =
      (cut [] [] x).map fun (formula, left) => (glue [[factor]] formula, left) := by
  simp [cut, h, some]

theorem cut_ends {lexeme : Lexeme} (h : lexeme.part = .ends) (spelled : factor ≠ []) :
    cut [] factor (lexeme :: x) = some ([[factor]], lexeme :: x) := by
  simp [cut, h, spelled]

/-- Lexemes that are nothing special make one factor. -/
theorem cut_inner (inner : ∀ lexeme ∈ x, lexeme.part = .inner) (some : factor ++ x ≠ []) :
    cut [] factor x = .some ([[factor ++ x]], []) := by
  induction x generalizing factor with
  | nil => simpa [cut] using some
  | cons lexeme x ih =>
    have here := inner lexeme (by simp)
    have rest := @ih (factor ++ [lexeme]) (fun other mem => inner other (by simp [mem]))
      (by simp)
    simpa [cut, here, advance] using rest

end Cut

end Formula

open Formula

/-- The formula of a text that is an expression and nothing else. -/
def formula? (s : String) : Option Formula :=
  if IsWhole s then (cut [] [] (lexemes s)).bind fun (formula, left) =>
    if left = [] then some formula else none
  else none

/-- The formula of the expression at the front of a text. -/
def frontFormula? (s : String) : Option Formula := (cut [] [] (lexemes s)).map Prod.fst

def truth? (v : Factor → Bool) (s : String) : Option Bool := (formula? s).map (holds v)

def frontTruth? (v : Factor → Bool) (s : String) : Option Bool := (frontFormula? s).map (holds v)

section Texts

variable {s t : String} {formula other : Formula}

theorem formula?_eq_some : formula? s = some formula ↔
    IsWhole s ∧ cut [] [] (lexemes s) = some (formula, []) := by
  unfold formula?
  split
  · rename_i whole
    simp only [whole, true_and]
    cases cut [] [] (lexemes s) with
    | none => simp
    | some read =>
      obtain ⟨formula', left⟩ := read
      by_cases all : left = [] <;> simp [all]
  · rename_i open_
    simp [open_]

theorem frontFormula?_self (h : formula? s = some formula) : frontFormula? s = some formula := by
  obtain ⟨-, read⟩ := formula?_eq_some.1 h
  simp [frontFormula?, read]

/-- The lexemes of a text behind an expression go on what is read of it. -/
theorem frontFormula?_append (left : List Lexeme) (first : formula? s = some formula)
    (closed : ¬EndsInComment s)
    (second : ∀ factor, factor ≠ [] →
      cut [] factor (lexemes t) = some (glue [[factor]] other, left)) :
    frontFormula? (s ++ " " ++ t) = some (glue formula other) := by
  obtain ⟨whole, read⟩ := formula?_eq_some.1 first
  rw [frontFormula?, lexemes_append whole closed, cut_append read second]
  rfl

/-- `AND` joins an expression to the expression behind it. -/
theorem frontFormula?_and (first : formula? s = some formula) (closed : ¬EndsInComment s)
    (second : frontFormula? t = some other) :
    frontFormula? (s ++ " AND " ++ t) = some (glue formula other) := by
  obtain ⟨⟨_, left⟩, read, rfl⟩ := Option.map_eq_some_iff.1 second
  have spaced : " AND " = " " ++ ("AND" ++ " ") := by decide
  have text : s ++ " AND " ++ t = s ++ " " ++ ("AND" ++ " " ++ t) := by
    simp only [spaced, String.append_assoc]
  rw [text]
  refine frontFormula?_append left first closed fun factor spelled => ?_
  rw [lexemes_word (rfl : Reads .between ("AND".toList ++ [' ']) [.keyword "AND"] .between),
    cut_and (by decide) spelled, read]
  rfl

/-- Another clause behind an expression is not read. -/
theorem frontFormula?_clause {word : String} (first : formula? s = some formula)
    (closed : ¬EndsInComment s) (clause : (Lexeme.keyword word).part = .ends)
    (reads : Reads .between (word.toList ++ [' ']) [.keyword word] .between) (t : String) :
    frontFormula? (s ++ " " ++ (word ++ " " ++ t)) = some formula := by
  rw [← glue_nil formula]
  refine frontFormula?_append (.keyword word :: lexemes t) first closed fun factor spelled => ?_
  rw [lexemes_word reads, glue_nil]
  exact cut_ends clause spelled

end Texts

end ChartQuery
