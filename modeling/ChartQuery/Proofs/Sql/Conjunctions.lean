import ChartQuery.Proofs.Sql.Formulas
import ChartQuery.Proofs.Sql.LexicalSafety

/-!
# Conditions hold together

The conditions of a query are written one after another with `AND` between them and no
brackets. A comparison is one factor, whatever its column and its value hold. A given
piece of SQL is written as it stands, so an `OR` in it binds weaker than the `AND` beside
it, and a comment that it leaves open goes on into what follows. If neither happens, the
conditions hold exactly if each of them holds.

Main statement: `where_is_conjunction`.
-/

namespace ChartQuery

open Lexer Formula

/-- A text that is read to its end and has nothing in it that joins, opens or ends. -/
structure IsSimple (s : String) : Prop where
  whole : IsWhole s
  closed : ¬EndsInComment s
  inner : ∀ lexeme ∈ lexemes s, lexeme.part = .inner

namespace IsSimple

variable {s t : String}

theorem append (hs : IsSimple s) (ht : IsSimple t) : IsSimple (s ++ " " ++ t) where
  whole := (isWhole_append hs.whole hs.closed t).2 ht.whole
  closed := fun comment => ht.closed ((endsInComment_append hs.whole hs.closed t).1 comment)
  inner := by
    rw [lexemes_append hs.whole hs.closed]
    intro lexeme mem
    exact (List.mem_append.1 mem).elim (hs.inner lexeme) (ht.inner lexeme)

/-- A simple text is one factor. -/
theorem formula?_eq (h : IsSimple s) (some : lexemes s ≠ []) :
    formula? s = .some [[lexemes s]] :=
  formula?_eq_some.2 ⟨h.whole, cut_inner h.inner some⟩

end IsSimple

section Quotes

variable {s : String} {quote : Quote} {content : List Char}

theorem run_quoted (written : s.toList = Quoted.write quote.char content) :
    run .between (s.toList ++ ['\n']) = ([.quoted quote content], .between) := by
  have ends : step (.closing quote content) '\n' = ([.quoted quote content], .between) := by
    cases quote <;> rfl
  have read := (reads_write quote content).append (reads_char _ '\n')
  rwa [← written, ends] at read

theorem isSimple_quoted (written : s.toList = Quoted.write quote.char content) : IsSimple s where
  whole := by rw [IsWhole, run_quoted written]
  closed := by
    have read : run .between s.toList = _ := written ▸ reads_write quote content
    rw [EndsInComment, read]
    simp
  inner := by
    rw [lexemes, run_quoted written]
    simp [Lexeme.part]

theorem written_quoteName (name : String) :
    (quoteName name).toList = Quoted.write Quote.name.char name.toList :=
  String.toList_ofList

theorem written_quoteText (text : String) :
    (quoteText text).toList = Quoted.write Quote.text.char text.toList :=
  String.toList_ofList

theorem isSimple_quoteName (name : String) : IsSimple (quoteName name) :=
  isSimple_quoted (written_quoteName name)

theorem isSimple_quoteText (text : String) : IsSimple (quoteText text) :=
  isSimple_quoted (written_quoteText text)

theorem lexemes_quoteName_ne_nil (name : String) : lexemes (quoteName name) ≠ [] := by
  rw [lexemes, run_quoted (written_quoteName name)]
  simp

end Quotes

section Numbers

theorem toUpper_of_isDigit {c : Char} (h : c.isDigit) : c.toUpper = c := by
  have bounds := Text.toNat_of_isDigit h
  unfold Char.toUpper
  rw [dif_neg]
  intro lower
  have small : 97 ≤ c.toNat := lower.1
  omega

theorem part_digits {letters : List Char} (digits : ∀ c ∈ letters, c.isDigit) :
    (Lexeme.word letters).part = .inner := by
  have same : letters.map Char.toUpper = letters :=
    (List.map_congr_left fun c mem => toUpper_of_isDigit (digits c mem)).trans (List.map_id' _)
  have other : Lexeme.wordParts.all fun entry => !entry.1.toList.all Char.isDigit := by
    decide +kernel
  have absent : Lexeme.wordParts.lookup (String.ofList letters) = none := by
    rw [List.lookup_eq_none_iff]
    intro entry mem
    have letter := List.all_eq_true.1 other entry mem
    rw [bne_iff_ne]
    intro same
    rw [← same, String.toList_ofList, List.all_eq_true.2 digits] at letter
    cases letter
  rw [Lexeme.part, same, absent, Option.getD_none]

theorem isWordChar_of_isDigit {c : Char} (h : c.isDigit) : isWordChar c := by
  simp [isWordChar, Text.isSpace_of_isDigit h, Char.isAlphanum, h]

theorem begin_of_isDigit {c : Char} (h : c.isDigit) : begin c = .word [c] := by
  simp [begin, ofChar?_of_isDigit h, Text.isSpace_of_isDigit h, isWordChar_of_isDigit h]

/-- Where a reading stands among digits and points. -/
inductive Numeric : Mode → Prop
  | between : Numeric .between
  | digits {letters : List Char} (digits : ∀ c ∈ letters, c.isDigit) : Numeric (.word letters)
  | sign {c : Char} (sign : c = '.' ∨ c = '-') : Numeric (.sign c)

namespace Numeric

variable {mode : Mode} {c : Char}

theorem begins (numeric : c.isDigit ∨ c = '.') : Numeric (begin c) := by
  rcases numeric with digit | rfl
  · rw [begin_of_isDigit digit]
    exact .digits (by simpa using digit)
  · exact .sign (.inl rfl)

theorem step (h : Numeric mode) (numeric : c.isDigit ∨ c = '.') :
    Numeric (Lexer.step mode c).2 ∧ ∀ lexeme ∈ (Lexer.step mode c).1, lexeme.part = .inner := by
  cases h with
  | between => exact ⟨begins numeric, by simp [Lexer.step]⟩
  | @digits letters digits =>
    rcases numeric with digit | rfl
    · have goes : Lexer.step (.word letters) c = ([], .word (letters ++ [c])) :=
        if_pos (isWordChar_of_isDigit digit)
      rw [goes]
      refine ⟨.digits fun other mem => ?_, by simp⟩
      rcases List.mem_append.1 mem with mem | mem
      · exact digits other mem
      · rwa [List.mem_singleton.1 mem]
    · have stops : Lexer.step (.word letters) '.' = ([.word letters], begin '.') := rfl
      rw [stops]
      exact ⟨begins (.inr rfl), by simpa using part_digits digits⟩
  | @sign first sign =>
    have dash : c ≠ '-' := by
      rintro rfl
      simp at numeric
    have slash : first ≠ '/' := by
      rintro rfl
      simp at sign
    have stops : Lexer.step (.sign first) c = ([.sign first], begin c) := by
      simp [Lexer.step, dash, slash]
    rw [stops]
    refine ⟨begins numeric, ?_⟩
    rcases sign with rfl | rfl <;> simp <;> decide

theorem run (h : Numeric mode) {s : List Char} (numeric : ∀ c ∈ s, c.isDigit ∨ c = '.') :
    Numeric (Lexer.run mode s).2 ∧ ∀ lexeme ∈ (Lexer.run mode s).1, lexeme.part = .inner := by
  induction s generalizing mode with
  | nil => exact ⟨h, by simp [Lexer.run]⟩
  | cons c s ih =>
    obtain ⟨goes, here⟩ := h.step (numeric c (by simp))
    obtain ⟨ends, rest⟩ := ih goes fun other mem => numeric other (by simp [mem])
    refine ⟨ends, fun lexeme mem => ?_⟩
    exact (List.mem_append.1 mem).elim (here lexeme) (rest lexeme)

theorem ends (h : Numeric mode) : (Lexer.step mode '\n').2 = .between ∧ mode ≠ .line ∧
    ∀ lexeme ∈ (Lexer.step mode '\n').1, lexeme.part = .inner := by
  cases h with
  | between => exact ⟨rfl, by simp, by simp [Lexer.step, begin]⟩
  | @digits letters digits =>
    have stops : Lexer.step (.word letters) '\n' = ([.word letters], .between) := rfl
    rw [stops]
    exact ⟨rfl, by simp, by simpa using part_digits digits⟩
  | @sign first sign => rcases sign with rfl | rfl <;> exact ⟨rfl, by simp, by decide⟩

end Numeric

theorem isSimple_of_numeric {s : String} {mode : Mode} {body : List Char} (h : Numeric mode)
    (text : Lexer.run .between s.toList = Lexer.run mode body)
    (numeric : ∀ c ∈ body, c.isDigit ∨ c = '.') : IsSimple s := by
  obtain ⟨goes, inner⟩ := h.run numeric
  obtain ⟨ends, outside, last⟩ := goes.ends
  rw [← text] at goes inner ends outside last
  have line := (reads_run .between s.toList).append (reads_char _ '\n')
  refine ⟨?_, outside, ?_⟩
  · rw [IsWhole, line, ends]
  · rw [lexemes, line]
    intro lexeme mem
    exact (List.mem_append.1 mem).elim (inner lexeme) (last lexeme)

theorem isSimple_text (x : Double) : IsSimple x.text := by
  cases x with
  | finite negative m e =>
    obtain ⟨body, text, numeric⟩ := (Double.shortest negative m e).positional_eq
    cases sign : (Double.shortest negative m e).negative with
    | false =>
      refine isSimple_of_numeric .between ?_ numeric
      simp [Double.text, text, sign]
    | true =>
      refine isSimple_of_numeric (.sign (.inr rfl)) ?_ numeric
      have dash : Lexer.run .between ('-' :: body) = Lexer.run (.sign '-') body := rfl
      simp [Double.text, text, sign, dash]
  | infinite negative => cases negative <;> exact ⟨by decide, by decide, by decide⟩
  | nan => exact ⟨by decide, by decide, by decide⟩

end Numbers

namespace Operator

theorem isSimple_sql (operator : Operator) : IsSimple operator.sql := by
  cases operator <;> exact ⟨by decide, by decide, by decide⟩

end Operator

namespace Condition

variable {condition : Condition}

/-- A comparison is simple, whatever its column and its value hold. -/
theorem exists_question (compared : condition.fragment? = none) :
    ∃ question, condition.sql = quoteName condition.column ++ " " ++ question ∧
      IsSimple question := by
  obtain ⟨column, operator, value⟩ := condition
  have compares {s : String} (simple : IsSimple s) :
      quoteName column ++ " " ++ operator.sql ++ " " ++ s =
          quoteName column ++ " " ++ (operator.sql ++ " " ++ s) ∧
        IsSimple (operator.sql ++ " " ++ s) :=
    ⟨by simp only [String.append_assoc], operator.isSimple_sql.append simple⟩
  cases value with
  | fuzzy fragment => cases compared
  | text s => exact ⟨_, compares (isSimple_quoteText s)⟩
  | number x => exact ⟨_, compares (isSimple_text x)⟩
  | truth b =>
    have word : IsSimple (if b then "TRUE" else "FALSE") := by
      cases b <;> exact ⟨by decide, by decide, by decide⟩
    exact ⟨_, compares word⟩
  | null =>
    have missing : " IS NULL" = " " ++ "IS NULL" := by decide
    have present : " IS NOT NULL" = " " ++ "IS NOT NULL" := by decide
    by_cases asked : operator = .notEq
    · refine ⟨"IS NOT NULL", ?_, by decide, by decide, by decide⟩
      simp only [sql, asked, if_true, present, String.append_assoc]
    · refine ⟨"IS NULL", ?_, by decide, by decide, by decide⟩
      simp only [sql, asked, if_false, missing, String.append_assoc]

theorem formula?_sql (compared : condition.fragment? = none) :
    formula? condition.sql = some [[lexemes condition.sql]] ∧ ¬EndsInComment condition.sql := by
  obtain ⟨question, text, simple⟩ := exists_question compared
  have column := isSimple_quoteName condition.column
  rw [text]
  refine ⟨(column.append simple).formula?_eq ?_, (column.append simple).closed⟩
  rw [lexemes_append column.whole column.closed]
  simp [lexemes_quoteName_ne_nil]

theorem sql_of_fragment? {s : String} (given : condition.fragment? = some s) :
    condition.sql = s := by
  obtain ⟨column, operator, value⟩ := condition
  cases value with
  | fuzzy fragment => exact Option.some.inj given
  | _ => cases given

/-- What is true of every comparison, and of the given pieces of SQL, is true of every
condition. -/
theorem forall_sql {P : String → Prop} {conditions : List Condition}
    (compared : ∀ c : Condition, c.fragment? = none → P c.sql)
    (given : ∀ s ∈ conditions.filterMap fragment?, P s) : ∀ c ∈ conditions, P c.sql := by
  intro c mem
  cases fragment : c.fragment? with
  | none => exact compared c fragment
  | some s =>
    rw [sql_of_fragment? fragment]
    exact given s (List.mem_filterMap.2 ⟨c, mem, fragment⟩)

end Condition

namespace Select

variable (query : Select)

def behind : String := query.groupClause ++ query.orderClause ++ query.limitClause

/-- The conditions behind which the statement goes on. -/
def followed : List Condition :=
  if query.behind = "" then query.conditions.dropLast else query.conditions

/-- A text that is empty, or begins with a clause that cannot be taken for a condition. -/
def BeginsClause (s : String) : Prop :=
  s = "" ∨ ∃ word rest, s = " " ++ (word ++ " " ++ rest) ∧ (Lexeme.keyword word).part = .ends ∧
    Reads .between (word.toList ++ [' ']) [.keyword word] .between

theorem BeginsClause.append {s t : String} (hs : BeginsClause s) (ht : BeginsClause t) :
    BeginsClause (s ++ t) := by
  obtain rfl | ⟨word, rest, rfl, ends, reads⟩ := hs
  · simpa using ht
  · exact .inr ⟨word, rest ++ t, by simp only [String.append_assoc], ends, reads⟩

theorem beginsClause_clause {opening word rest : String} (body : Option String)
    (text : opening = " " ++ (word ++ " " ++ rest)) (ends : (Lexeme.keyword word).part = .ends)
    (reads : Reads .between (word.toList ++ [' ']) [.keyword word] .between) :
    BeginsClause (clause opening body) := by
  cases body with
  | none => exact .inl rfl
  | some body =>
    refine .inr ⟨word, rest ++ body, ?_, ends, reads⟩
    simp only [clause, text, String.append_assoc]

theorem beginsClause_behind : BeginsClause query.behind := by
  have group : BeginsClause query.groupClause :=
    beginsClause_clause _ (by decide : " GROUP BY " = " " ++ ("GROUP" ++ " " ++ "BY "))
      (by decide) rfl
  have order : BeginsClause query.orderClause :=
    beginsClause_clause _ (by decide : " ORDER BY " = " " ++ ("ORDER" ++ " " ++ "BY "))
      (by decide) rfl
  have limit : BeginsClause query.limitClause :=
    beginsClause_clause _ (by decide : " LIMIT " = " " ++ ("LIMIT" ++ " " ++ "")) (by decide) rfl
  exact (group.append order).append limit

/-- The clauses behind an expression are not read with it. -/
theorem frontFormula?_behind {s : String} {formula : Formula} (first : formula? s = some formula)
    (closed : query.behind ≠ "" → ¬EndsInComment s) :
    frontFormula? (s ++ query.behind) = some formula := by
  obtain none | ⟨word, rest, text, ends, reads⟩ := query.beginsClause_behind
  · rw [none, String.append_empty]
    exact frontFormula?_self first
  · have some : query.behind ≠ "" := by
      rw [text]
      simp
    rw [text, ← String.append_assoc]
    exact frontFormula?_clause first (closed some) ends reads rest

variable {query}

/-- Expressions without an `OR` of their own are read as the factors of all of them. -/
theorem frontFormula?_conjunction {conditions : List Condition} {own : Condition → List Factor}
    {rest : String} (some : conditions ≠ [])
    (reads : ∀ c ∈ conditions, formula? c.sql = .some [own c])
    (closed : ∀ c ∈ conditions.dropLast, ¬EndsInComment c.sql)
    (last : ∀ c ∈ conditions.getLast?, frontFormula? (c.sql ++ rest) = .some [own c]) :
    frontFormula? (conjunction conditions ++ rest) = .some [conditions.flatMap own] := by
  induction conditions with
  | nil => exact absurd rfl some
  | cons c conditions ih =>
    cases conditions with
    | nil => simpa [conjunction] using last c rfl
    | cons d conditions =>
      have later := ih (by simp) (fun e mem => reads e (by simp [mem]))
        (fun e mem => closed e (by simpa using .inr mem)) (by simpa using last)
      have joined := frontFormula?_and (reads c (by simp)) (closed c (by simp)) later
      have text : conjunction (c :: d :: conditions) ++ rest =
          c.sql ++ " AND " ++ (conjunction (d :: conditions) ++ rest) := by
        simp only [conjunction, List.map_cons, String.intercalate_cons_cons, String.append_assoc]
      rw [text, joined, glue_single]
      rfl

theorem mem_followed_of_dropLast {c : Condition} (mem : c ∈ query.conditions.dropLast) :
    c ∈ query.followed := by
  unfold followed
  split
  · exact mem
  · exact List.dropLast_subset _ mem

theorem mem_followed_of_behind {c : Condition} (some : query.behind ≠ "")
    (mem : c ∈ query.conditions) : c ∈ query.followed := by
  rwa [followed, if_neg some]

theorem exists_front {text : String} (written : query.sql = .ok text)
    (given : query.conditions ≠ []) :
    ∃ front, text = front ++ " WHERE " ++ (conjunction query.conditions ++ query.behind) := by
  obtain ⟨source, stated, shown⟩ := query.sql_isOk_iff.1 ⟨text, written⟩
  have conditions : query.whereClause = " WHERE " ++ conjunction query.conditions := by
    simp [whereClause, clause, given]
  rw [query.sql_eq stated shown, Except.ok.injEq] at written
  refine ⟨(query.destination.map creation).getD "" ++
    ("SELECT " ++ query.selectList ++ " FROM " ++ Text.trim source), ?_⟩
  rw [← written, body, conditions, behind]
  simp only [String.append_assoc]

end Select

/-- An expression without an `OR` outside brackets. -/
def Undivided (s : String) : Prop := ∃ factors, formula? s = some [factors]

def factorsOf (s : String) : List Factor := ((formula? s).getD []).flatten

theorem Undivided.formula?_eq {s : String} (h : Undivided s) : formula? s = some [factorsOf s] := by
  obtain ⟨factors, read⟩ := h
  simp [factorsOf, read]

/-- A query with conditions ends with `WHERE`, its conditions, and the clauses behind them.
Take the given pieces of SQL to be expressions, without an `OR` outside brackets unless
there is one condition only, and without an open comment if something follows. Then each
condition is an expression, and so is what stands behind `WHERE`, up to the next clause. It
holds exactly if each condition holds, whichever factors are true. -/
theorem where_is_conjunction {query : Select} {text : String} (written : query.sql = .ok text)
    (given : query.conditions ≠ [])
    (complete : ∀ s ∈ query.conditions.filterMap Condition.fragment?, (formula? s).isSome)
    (undivided : query.conditions.length ≠ 1 →
      ∀ s ∈ query.conditions.filterMap Condition.fragment?, Undivided s)
    (closed : ∀ s ∈ query.followed.filterMap Condition.fragment?, ¬EndsInComment s) :
    (∃ front, text = front ++ " WHERE " ++ (Select.conjunction query.conditions ++ query.behind)) ∧
      ∀ v, (∀ c ∈ query.conditions, (truth? v c.sql).isSome) ∧
        frontTruth? v (Select.conjunction query.conditions ++ query.behind) =
          some (query.conditions.all fun c => truth? v c.sql == some true) := by
  have reads := Condition.forall_sql
    (fun c compared => by simp [(Condition.formula?_sql compared).1]) complete
  have ended := Condition.forall_sql
    (fun c compared => (Condition.formula?_sql compared).2) closed
  have goesOn (c : Condition) (mem : c ∈ query.conditions) (some : query.behind ≠ "") :
      ¬EndsInComment c.sql :=
    ended c (Select.mem_followed_of_behind some mem)
  refine ⟨Select.exists_front written given, fun v => ⟨fun c mem => ?_, ?_⟩⟩
  · simpa [truth?] using reads c mem
  by_cases single : query.conditions.length = 1
  · obtain ⟨c, only⟩ := List.length_eq_one_iff.1 single
    have mem : c ∈ query.conditions := by simp [only]
    obtain ⟨formula, read⟩ := Option.isSome_iff_exists.1 (reads c mem)
    have whole := query.frontFormula?_behind read (goesOn c mem)
    simp [only, Select.conjunction, frontTruth?, whole, truth?, read]
  · have alone := Condition.forall_sql
      (fun c compared => ⟨_, (Condition.formula?_sql compared).1⟩) (undivided single)
    have read (c : Condition) (mem : c ∈ query.conditions) :
        formula? c.sql = some [factorsOf c.sql] := (alone c mem).formula?_eq
    have whole := Select.frontFormula?_conjunction given read
      (fun c mem => ended c (Select.mem_followed_of_dropLast mem)) fun c last =>
        have mem := List.mem_of_getLast? last
        query.frontFormula?_behind (read c mem) (goesOn c mem)
    rw [frontTruth?, whole, Option.map_some, Option.some.injEq, holds_flatMap, Bool.eq_iff_iff,
      List.all_eq_true, List.all_eq_true]
    exact forall₂_congr fun c mem => by simp [truth?, read c mem, holds]

def strangeConditions : Select where
  source := some "\"t\""
  conditions :=
    [⟨"a OR b", .eq, .text "it's' OR 1 = 1 --"⟩,
      ⟨"", .like, .fuzzy "(\"n\" LIKE '%a%' OR \"m\" = 1) /* or */ AND \"k\" BETWEEN 1 AND 2"⟩,
      ⟨"c", .gtEq, .number (.finite true 3 0)⟩, ⟨"d (", .notEq, .null⟩, ⟨"e", .eq, .truth true⟩]
  groupBy := ["a OR b"]
  limit := some 5

theorem strangeConditions_hold_together :
    strangeConditions.conditions ≠ [] ∧
      (∀ s ∈ strangeConditions.conditions.filterMap Condition.fragment?,
        (formula? s).isSome ∧ Undivided s ∧ ¬EndsInComment s) ∧
      ∃ text, strangeConditions.sql = .ok text ∧ ∀ v,
        frontTruth? v (Select.conjunction strangeConditions.conditions ++ strangeConditions.behind) =
          some (strangeConditions.conditions.all fun c => truth? v c.sql == some true) := by
  have given : strangeConditions.conditions ≠ [] := by decide
  have fuzzy : ∀ s ∈ strangeConditions.conditions.filterMap Condition.fragment?,
      (formula? s).isSome ∧ formula? s = some [factorsOf s] ∧ ¬EndsInComment s := by
    decide +kernel
  obtain ⟨text, written⟩ := strangeConditions.sql_isOk_iff.2 ⟨_, rfl, by decide +kernel⟩
  obtain ⟨-, together⟩ := where_is_conjunction written given (fun s mem => (fuzzy s mem).1)
    (fun _ s mem => ⟨_, (fuzzy s mem).2.1⟩) (by decide +kernel)
  exact ⟨given, fun s mem => ⟨(fuzzy s mem).1, ⟨_, (fuzzy s mem).2.1⟩, (fuzzy s mem).2.2⟩, text,
    written, fun v => (together v).2⟩

def besideGiven (fragment : String) : Select where
  source := some "\"t\""
  conditions := [⟨"a", .eq, .fuzzy fragment⟩, ⟨"c", .eq, .number (.finite false 3 0)⟩]

/-- A given `OR` takes the condition behind it for its own, and a given comment hides it:
if the first comparison is all that is true, then what stands behind `WHERE` holds, and one
of the conditions does not. -/
theorem given_conditions_may_divide :
    let divided := besideGiven "\"a\" = 1 OR \"b\" = 2"
    let commented := besideGiven "\"a\" = 1 -- note"
    let first : Factor → Bool := fun factor => factor == lexemes "\"a\" = 1"
    ∀ query ∈ [divided, commented], (∃ text, query.sql = .ok text) ∧
      (∀ c ∈ query.conditions, (truth? first c.sql).isSome) ∧
      frontTruth? first (Select.conjunction query.conditions ++ query.behind) = some true ∧
      (query.conditions.all fun c => truth? first c.sql == some true) = false := by
  intro divided commented first query mem
  have written : ∃ text, query.sql = .ok text := by
    refine query.sql_isOk_iff.2 ⟨"\"t\"", ?_, by decide⟩
    simp only [List.mem_cons, List.not_mem_nil, or_false] at mem
    rcases mem with rfl | rfl <;> rfl
  have reads : ∀ query ∈ [divided, commented],
      (∀ c ∈ query.conditions, (truth? first c.sql).isSome) ∧
      frontTruth? first (Select.conjunction query.conditions ++ query.behind) = some true ∧
      (query.conditions.all fun c => truth? first c.sql == some true) = false := by
    decide +kernel
  exact ⟨written, reads query mem⟩

end ChartQuery
