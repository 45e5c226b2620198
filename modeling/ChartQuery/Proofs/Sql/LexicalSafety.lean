import ChartQuery.Proofs.Sql.Scan

/-!
# Names and texts stay in their quotes

A query is written from pieces of SQL that are given, and from names and texts
that may hold any characters. If the given pieces are closed, the whole is closed,
its quoted parts are those of the pieces with the names and texts in their places,
and nothing outside quotes depends on a name or a text.

Main statement: `names_stay_quoted`.
-/

namespace ChartQuery

open Token

def Token.blank : Token → Token
  | plain c => plain c
  | quoted quote _ => quoted quote ""

/-- The quoted parts of a text, in order. -/
def quotedParts (s : String) : List Token := (Scan.of s).tokens.filter isQuoted

/-- The text outside quotes, with the quotes in their places but with nothing in
them. -/
def outline (s : String) : List Token := (Scan.of s).tokens.map Token.blank

theorem quotedParts_append {s t : String} (h : Closed s) (apart : Apart t) :
    quotedParts (s ++ t) = quotedParts s ++ quotedParts t := by
  simp [quotedParts, h.scans.of_append apart]

theorem outline_append {s t : String} (h : Closed s) (apart : Apart t) :
    outline (s ++ t) = outline s ++ outline t := by
  simp [outline, h.scans.of_append apart]

theorem Closed.append {s t : String} (hs : Closed s) (ht : Closed t) (apart : Apart t) :
    Closed (s ++ t) :=
  (hs.scans.append ht.scans apart).closed

namespace Plain

variable {s : String}

theorem quotedParts_eq (h : Plain s) : quotedParts s = [] := by
  simp [quotedParts, h.scans.tokens_eq, spell, isQuoted]

theorem quotedParts_append (h : Plain s) (t : String) : quotedParts (s ++ t) = quotedParts t := by
  simp [quotedParts, h.of_append, spell, isQuoted]

theorem outline_append (h : Plain s) (t : String) : outline (s ++ t) = spell s ++ outline t := by
  simp [outline, h.of_append, spell, Token.blank]

theorem closed_append (h : Plain s) {t : String} (ht : Closed t) : Closed (s ++ t) :=
  (Scans.spell_append h ht.scans).closed

end Plain

/-- A closed text with its quoted parts, which is a closed form with the quotes
filled. -/
structure Fills (form : String) (parts : List Token) (s : String) : Prop where
  form_closed : Closed form
  closed : Closed s
  parts_eq : quotedParts s = parts
  outline_eq : outline s = outline form

namespace Fills

variable {form form' s s' : String} {parts parts' : List Token}

theorem fragment (h : Closed s) : Fills s (quotedParts s) s := ⟨h, h, rfl, rfl⟩

theorem plain (h : Plain s) : Fills s [] s :=
  ⟨h.scans.closed, h.scans.closed, h.quotedParts_eq, rfl⟩

theorem name (name : String) : Fills (quoteName "") [quoted .name name] (quoteName name) where
  form_closed := (scans_quoteName "").closed
  closed := (scans_quoteName name).closed
  parts_eq := by simp [quotedParts, (scans_quoteName name).tokens_eq, isQuoted]
  outline_eq := by
    simp [outline, (scans_quoteName name).tokens_eq, (scans_quoteName "").tokens_eq, Token.blank]

theorem text (text : String) : Fills (quoteText "") [quoted .text text] (quoteText text) where
  form_closed := (scans_quoteText "").closed
  closed := (scans_quoteText text).closed
  parts_eq := by simp [quotedParts, (scans_quoteText text).tokens_eq, isQuoted]
  outline_eq := by
    simp [outline, (scans_quoteText text).tokens_eq, (scans_quoteText "").tokens_eq, Token.blank]

theorem append (h : Fills form parts s) (k : Fills form' parts' s') (apart : Apart s')
    (apart' : Apart form') : Fills (form ++ form') (parts ++ parts') (s ++ s') where
  form_closed := h.form_closed.append k.form_closed apart'
  closed := h.closed.append k.closed apart
  parts_eq := by rw [quotedParts_append h.closed apart, h.parts_eq, k.parts_eq]
  outline_eq := by
    rw [outline_append h.closed apart, outline_append h.form_closed apart', h.outline_eq,
      k.outline_eq]

theorem keyword {word : String} (h : Plain word) (k : Fills form parts s) :
    Fills (word ++ form) parts (word ++ s) where
  form_closed := h.closed_append k.form_closed
  closed := h.closed_append k.closed
  parts_eq := by rw [h.quotedParts_append, k.parts_eq]
  outline_eq := by rw [h.outline_append, h.outline_append, k.outline_eq]

theorem intercalate {α : Type} {separator : String} {forms texts : α → String}
    {parts : α → List Token} {list : List α} (h : Plain separator) (some : separator ≠ "")
    (fills : ∀ a ∈ list, Fills (forms a) (parts a) (texts a)) :
    Fills (separator.intercalate (list.map forms)) (list.flatMap parts)
      (separator.intercalate (list.map texts)) := by
  induction list with
  | nil => exact plain (s := "") (by decide)
  | cons a list ih =>
    have first := fills a (by simp)
    cases list with
    | nil => simpa using first
    | cons b list =>
      have rest := ih fun b mem => fills b (by simp [mem])
      simp only [List.map_cons, String.intercalate_cons_cons, String.append_assoc]
      exact first.append (rest.keyword h) (h.apart_append some _) (h.apart_append some _)

theorem commaSeparated {α : Type} {forms texts : α → String} {parts : α → List Token}
    {list : List α} (fills : ∀ a ∈ list, Fills (forms a) (parts a) (texts a)) :
    Fills (commaSeparated (list.map forms)) (list.flatMap parts)
      (commaSeparated (list.map texts)) :=
  intercalate (by decide : Plain ", ") (by decide) fills

theorem nameList (names : List String) :
    Fills (nameList (names.map fun _ => "")) (names.map (.quoted .name)) (nameList names) := by
  have listed := commaSeparated fun s (_ : s ∈ names) => name s
  rw [← List.map_eq_flatMap] at listed
  rw [ChartQuery.nameList, ChartQuery.nameList, List.map_map]
  exact listed

end Fills

/-- A text that fills a form, and that may follow any text: neither begins with a
quote. -/
structure Continues (form : String) (parts : List Token) (s : String) : Prop
    extends Fills form parts s where
  apart : Apart s
  form_apart : Apart form

namespace Continues

variable {form form' s s' : String} {parts parts' : List Token}

theorem append (h : Continues form parts s) (k : Continues form' parts' s') :
    Continues (form ++ form') (parts ++ parts') (s ++ s') where
  toFills := h.toFills.append k.toFills k.apart k.form_apart
  apart := h.apart.append k.apart
  form_apart := h.form_apart.append k.form_apart

theorem clause {word : String} (h : Plain word) (spelled : word ≠ "") (k : Fills form parts s) :
    Continues (Select.clause word (some form)) parts (Select.clause word (some s)) where
  toFills := k.keyword h
  apart := h.apart_append spelled _
  form_apart := h.apart_append spelled _

theorem noClause (word word' : String) :
    Continues (Select.clause word none) [] (Select.clause word' none) where
  toFills := .plain (s := "") (by decide)
  apart := (by decide : Apart "")
  form_apart := (by decide : Apart "")

end Continues

section Blanks

theorem ofChar?_of_isSpace {c : Char} (h : Text.isSpace c) : Quote.ofChar? c = none := by
  unfold Quote.ofChar?
  rw [if_neg (by rintro rfl; revert h; decide), if_neg (by rintro rfl; revert h; decide)]

theorem plain_of_isBlank {s : String} (h : Text.isBlank s) : Plain s := fun c mem =>
  ofChar?_of_isSpace (List.all_eq_true.1 h c mem)

/-- White space at the end of a closed text stands outside quotes. -/
theorem run_dropEnd (s : List Char) (closed : (Scan.run .outside s).place = .outside) :
    ∃ blanks, Scan.run .outside s =
      ⟨(Scan.run .outside (Text.dropEnd Text.isSpace s)).tokens ++ blanks, .outside⟩ ∧
      blanks.filter isQuoted = [] ∧
      (Scan.run .outside (Text.dropEnd Text.isSpace s)).place = .outside := by
  let blanks := (s.reverse.takeWhile Text.isSpace).reverse
  have split : s = Text.dropEnd Text.isSpace s ++ blanks := by
    rw [Text.dropEnd, ← List.reverse_append, List.takeWhile_append_dropWhile, List.reverse_reverse]
  have plain : ∀ c ∈ blanks, Quote.ofChar? c = none := by
    intro c mem
    exact ofChar?_of_isSpace (List.all_eq_true.1 List.all_takeWhile c (List.mem_reverse.1 mem))
  have apart : blanks.head?.bind Quote.ofChar? = none := by
    cases chars : blanks with
    | nil => rfl
    | cons c rest => exact plain c (by simp [chars])
  have whole := Scan.run_append .outside (Text.dropEnd Text.isSpace s) blanks apart
  rw [← split] at whole
  cases place : (Scan.run .outside (Text.dropEnd Text.isSpace s)).place with
  | outside =>
    have found := Scan.run_outside plain []
    rw [List.append_nil] at found
    refine ⟨blanks.map .plain, ?_, by simp [isQuoted], rfl⟩
    rw [whole, place, found]
    simp [Scan.after]
  | inside quote content =>
    rw [whole, place, Scan.run_inside quote content plain] at closed
    cases closed

theorem Closed.trim {s : String} (h : Closed s) :
    Closed (Text.trim s) ∧ quotedParts (Text.trim s) = quotedParts s := by
  have split := List.takeWhile_append_dropWhile (p := Text.isSpace) (l := s.toList)
  have plain : ∀ c ∈ s.toList.takeWhile Text.isSpace, Quote.ofChar? c = none := fun c mem =>
    ofChar?_of_isSpace (List.all_eq_true.1 List.all_takeWhile c mem)
  have whole := Scan.run_outside plain (s.toList.dropWhile Text.isSpace)
  rw [split] at whole
  have closed : (Scan.run .outside s.toList).place = .outside := h
  rw [whole] at closed
  obtain ⟨blanks, found, none, place⟩ := run_dropEnd _ closed
  have trimmed : Scan.of (Text.trim s) =
      Scan.run .outside (Text.dropEnd Text.isSpace (s.toList.dropWhile Text.isSpace)) := by
    simp [Scan.of, Text.trim, Text.dropStart]
  constructor
  · rw [Closed, trimmed, place]
  · rw [quotedParts, quotedParts, trimmed, Scan.of, whole, found]
    simp [none, isQuoted]

end Blanks

section Numbers

theorem ofChar?_of_isDigit {c : Char} (h : c.isDigit) : Quote.ofChar? c = none := by
  unfold Quote.ofChar?
  rw [if_neg (by rintro rfl; revert h; decide), if_neg (by rintro rfl; revert h; decide)]

theorem ofChar?_of_mem_toDigits {n : Nat} {c : Char} (mem : c ∈ Nat.toDigits 10 n) :
    Quote.ofChar? c = none :=
  ofChar?_of_isDigit (Nat.isDigit_of_mem_toDigits (by decide) (by decide) mem)

theorem plain_toString (n : Nat) : Plain (toString n) := by
  intro c mem
  exact ofChar?_of_mem_toDigits (Nat.toList_repr ▸ mem)

/-- A decimal is written with a minus sign if it is negative, and otherwise with digits and
points only. -/
theorem Decimal.positional_eq (d : Decimal) : ∃ body,
    d.positional.toList = (if d.negative then '-' :: body else body) ∧
      ∀ c ∈ body, c.isDigit ∨ c = '.' := by
  have digit {c : Char} (mem : c ∈ Nat.toDigits 10 d.coefficient) : c.isDigit :=
    Nat.isDigit_of_mem_toDigits (by decide) (by decide) mem
  have zero {k : Nat} {c : Char} (mem : c ∈ List.replicate k '0') : c.isDigit := by
    rw [List.eq_of_mem_replicate mem]
    decide
  refine ⟨_, String.toList_ofList, ?_⟩
  intro c mem
  split at mem
  · exact .inl ((List.mem_append.1 mem).elim digit zero)
  · split at mem
    · rcases List.mem_append.1 mem with mem | mem
      · exact .inl (digit (List.mem_of_mem_take mem))
      · rcases List.mem_cons.1 mem with rfl | mem
        · exact .inr rfl
        · exact .inl (digit (List.mem_of_mem_drop mem))
    · simp only [List.mem_cons, List.mem_append] at mem
      rcases mem with rfl | rfl | mem | mem
      · exact .inl (by decide)
      · exact .inr rfl
      · exact .inl (zero mem)
      · exact .inl (digit mem)

theorem Decimal.plain_positional (d : Decimal) : Plain d.positional := by
  obtain ⟨body, text, numeric⟩ := d.positional_eq
  have plain (c : Char) (mem : c ∈ body) : Quote.ofChar? c = none := by
    rcases numeric c mem with digit | rfl
    · exact ofChar?_of_isDigit digit
    · decide
  intro c mem
  rw [text] at mem
  split at mem
  · rcases List.mem_cons.1 mem with rfl | mem
    · decide
    · exact plain c mem
  · exact plain c mem

theorem Double.plain_text (x : Double) : Plain x.text := by
  cases x with
  | finite negative m e => exact (shortest negative m e).plain_positional
  | infinite negative => cases negative <;> decide
  | nan => decide

end Numbers

namespace Condition

def blank (condition : Condition) : Condition :=
  { condition with
    column := ""
    value := match condition.value with
      | .text _ => .text ""
      | value => value }

def fragment? (condition : Condition) : Option String :=
  match condition.value with
  | .fuzzy fragment => some fragment
  | _ => none

/-- What stands in quotes: the column and the text that it is compared with, or
what the given piece of SQL has in quotes. -/
def parts (condition : Condition) : List Token :=
  match condition.value with
  | .fuzzy fragment => quotedParts fragment
  | .text s => [.quoted .name condition.column, .quoted .text s]
  | _ => [.quoted .name condition.column]

theorem fills (condition : Condition) (h : ∀ s, condition.fragment? = some s → Closed s) :
    Fills condition.blank.sql condition.parts condition.sql := by
  obtain ⟨column, operator, value⟩ := condition
  have sign : Plain (" " ++ operator.sql ++ " ") := by cases operator <;> decide
  have compared {form : String} {parts : List Token} {s : String} (k : Fills form parts s) :
      Fills (quoteName "" ++ (" " ++ operator.sql ++ " " ++ form)) (quoted .name column :: parts)
        (quoteName column ++ (" " ++ operator.sql ++ " " ++ s)) :=
    (Fills.name column).append (k.keyword sign) (sign.apart_append (by simp) _)
      (sign.apart_append (by simp) _)
  cases value with
  | fuzzy fragment => exact .fragment (h fragment rfl)
  | null =>
    have asked {question : String} (k : Plain question) (apart : Apart question) :
        Fills (quoteName "" ++ question) [quoted .name column] (quoteName column ++ question) :=
      (Fills.name column).append (.plain k) apart apart
    by_cases present : operator = .notEq
    · simpa [sql, blank, parts, present] using
        asked (by decide : Plain " IS NOT NULL") (by decide)
    · simpa [sql, blank, parts, present] using
        asked (by decide : Plain " IS NULL") (by decide)
  | text s => simpa only [sql, blank, parts, String.append_assoc] using compared (.text s)
  | number x =>
    simpa only [sql, blank, parts, String.append_assoc] using compared (.plain x.plain_text)
  | truth b =>
    have word : Plain (if b then "TRUE" else "FALSE") := by cases b <;> decide
    simpa only [sql, blank, parts, String.append_assoc] using compared (.plain word)

end Condition

namespace RowOrder

def blank : RowOrder → RowOrder
  | raw expression => raw expression
  | columns list => columns (list.map fun (_, direction) => ("", direction))

def fragment? : RowOrder → Option String
  | raw expression => some expression
  | columns _ => none

def parts : RowOrder → List Token
  | raw expression => quotedParts expression
  | columns list => list.map fun (name, _) => .quoted .name name

theorem fills_clause (order : RowOrder) (h : ∀ s, order.fragment? = some s → Closed s) :
    Continues (Select.clause " ORDER BY " order.blank.sql?) order.parts
      (Select.clause " ORDER BY " order.sql?) := by
  have clause {form s : String} {parts : List Token} (k : Fills form parts s) :
      Continues (Select.clause " ORDER BY " (some form)) parts
        (Select.clause " ORDER BY " (some s)) :=
    .clause (by decide) (by decide) k
  cases order with
  | raw expression =>
    cases empty : Text.isBlank expression with
    | true =>
      have none : quotedParts expression = [] := (plain_of_isBlank empty).quotedParts_eq
      simpa only [blank, sql?, empty, if_true, parts, none] using Continues.noClause _ _
    | false =>
      have given := clause (.fragment (h _ rfl))
      simpa only [blank, sql?, parts, empty, Bool.false_eq_true, if_false] using given
  | columns list =>
    cases list with
    | nil => exact .noClause _ _
    | cons first list =>
      have each (entry : String × Direction) : Fills (quoteName "" ++ " " ++ entry.2.sql)
          [.quoted .name entry.1] (quoteName entry.1 ++ " " ++ entry.2.sql) := by
        have sign : Plain (" " ++ entry.2.sql) := by cases entry.2 <;> decide
        have apart : Apart (" " ++ entry.2.sql) := by cases entry.2 <;> decide
        simp only [String.append_assoc]
        exact (Fills.name entry.1).append (.plain sign) apart apart
      have listed := Fills.commaSeparated fun entry (_ : entry ∈ first :: list) => each entry
      rw [← List.map_eq_flatMap] at listed
      have forms : (first :: list).map (fun entry => quoteName "" ++ " " ++ entry.2.sql) =
          ((first :: list).map fun entry => ("", entry.2)).map
            (fun entry => quoteName entry.1 ++ " " ++ entry.2.sql) := by
        simp
      rw [forms] at listed
      exact clause listed

end RowOrder

/-- An item of a select list: a name to quote, or a given piece of SQL. -/
inductive SelectItem where
  | column (name : String)
  | given (fragment : String)

namespace SelectItem

def sql : SelectItem → String
  | column name => quoteName name
  | given fragment => fragment

def blank : SelectItem → SelectItem
  | column _ => column ""
  | given fragment => given fragment

def parts : SelectItem → List Token
  | column name => [.quoted .name name]
  | given fragment => quotedParts fragment

end SelectItem

namespace Select

variable (query : Select)

def blank : Select :=
  { query with
    columns := query.columns.map fun _ => ""
    conditions := query.conditions.map Condition.blank
    groupBy := query.groupBy.map fun _ => ""
    orderBy := query.orderBy.map RowOrder.blank }

def fragments : List String :=
  query.destination.toList ++ query.expressions ++ query.aggregate.toList ++ query.source.toList ++
    query.conditions.filterMap Condition.fragment? ++
    (query.orderBy.bind RowOrder.fragment?).toList

/-- What stands in quotes, clause by clause: the names and texts of the query, and
what the given pieces of SQL have in quotes. -/
def parts : List Token :=
  query.destination.toList.flatMap quotedParts ++
    (query.columns.map (.quoted .name) ++ query.expressions.flatMap quotedParts ++
      query.aggregate.toList.flatMap quotedParts) ++
    query.source.toList.flatMap quotedParts ++
    query.conditions.flatMap Condition.parts ++
    query.groupBy.map (.quoted .name) ++
    query.orderBy.toList.flatMap RowOrder.parts

theorem fills_selectList
    (closed : ∀ s ∈ query.expressions ++ query.aggregate.toList, Closed s) :
    Fills query.blank.selectList
      (query.columns.map (.quoted .name) ++ query.expressions.flatMap quotedParts ++
        query.aggregate.toList.flatMap quotedParts) query.selectList := by
  let items := query.columns.map SelectItem.column ++
    (query.expressions ++ query.aggregate.toList).map SelectItem.given
  have each : ∀ item ∈ items, Fills item.blank.sql item.parts item.sql := by
    intro item mem
    rcases List.mem_append.1 mem with mem | mem
    · obtain ⟨name, -, rfl⟩ := List.mem_map.1 mem
      exact .name name
    · obtain ⟨fragment, given, rfl⟩ := List.mem_map.1 mem
      exact .fragment (closed fragment given)
  have texts : items.map SelectItem.sql = query.items := by
    simp [items, Select.items, SelectItem.sql, Function.comp_def]
  have forms : items.map (fun item => item.blank.sql) = query.blank.items := by
    simp [items, Select.items, SelectItem.sql, SelectItem.blank, blank, Function.comp_def]
  have parts : items.flatMap SelectItem.parts =
      query.columns.map (.quoted .name) ++ query.expressions.flatMap quotedParts ++
        query.aggregate.toList.flatMap quotedParts := by
    simp [items, SelectItem.parts, List.flatMap_map, ← List.map_eq_flatMap]
  have listed := Fills.commaSeparated each
  rw [texts, forms, parts] at listed
  have same : query.blank.items.isEmpty = query.items.isEmpty := by
    rw [← texts, ← forms, List.isEmpty_map, List.isEmpty_map]
  unfold selectList
  rw [same]
  cases empty : query.items.isEmpty with
  | true =>
    have none : items = [] := by
      rw [← List.isEmpty_iff, ← List.isEmpty_map (f := SelectItem.sql), texts, empty]
    rw [← parts, none]
    exact .plain (s := "*") (by decide)
  | false => exact listed

theorem fills_whereClause
    (closed : ∀ s ∈ query.conditions.filterMap Condition.fragment?, Closed s) :
    Continues query.blank.whereClause (query.conditions.flatMap Condition.parts)
      query.whereClause := by
  have each : ∀ condition ∈ query.conditions,
      Fills condition.blank.sql condition.parts condition.sql := fun condition mem =>
    condition.fills fun s given => closed s (List.mem_filterMap.2 ⟨condition, mem, given⟩)
  have listed := Fills.intercalate (by decide : Plain " AND ") (by decide) each
  unfold whereClause
  cases conditions : query.conditions with
  | nil => simpa [blank, conditions] using Continues.noClause _ _
  | cons first rest =>
    rw [conditions] at listed
    have clause := Continues.clause (by decide : Plain " WHERE ") (by decide) listed
    simpa only [blank, conditions, List.map_cons, List.map_map, List.isEmpty_cons,
      Bool.false_eq_true, if_false, conjunction, Function.comp_def] using clause

theorem fills_groupClause :
    Continues query.blank.groupClause (query.groupBy.map (.quoted .name)) query.groupClause := by
  unfold groupClause
  cases names : query.groupBy with
  | nil => simpa [blank, names] using Continues.noClause _ _
  | cons first rest =>
    have clause := Continues.clause (by decide : Plain " GROUP BY ") (by decide)
      (Fills.nameList (first :: rest))
    simpa only [blank, names, List.map_cons, List.isEmpty_cons, Bool.false_eq_true,
      if_false] using clause

theorem fills_orderClause
    (closed : ∀ s ∈ (query.orderBy.bind RowOrder.fragment?).toList, Closed s) :
    Continues query.blank.orderClause (query.orderBy.toList.flatMap RowOrder.parts)
      query.orderClause := by
  unfold orderClause
  cases order : query.orderBy with
  | none => simpa [blank, order] using Continues.noClause _ _
  | some order' =>
    have clause := order'.fills_clause fun s given => closed s (by simp [order, given])
    simpa [blank, order] using clause

theorem fills_limitClause : Continues query.blank.limitClause [] query.limitClause := by
  unfold limitClause
  cases limit : query.limit with
  | none => simpa [blank, limit] using Continues.noClause _ _
  | some n =>
    have clause := Continues.clause (by decide : Plain " LIMIT ") (by decide)
      (.plain (plain_toString n))
    simpa [blank, limit] using clause

def tail : String :=
  query.whereClause ++ (query.groupClause ++ (query.orderClause ++ query.limitClause))

theorem body_eq (source : String) :
    query.body source = "SELECT " ++ (query.selectList ++ (" FROM " ++
      (Text.trim source ++ query.tail))) := by
  simp only [body, tail, String.append_assoc]

theorem fills_tail (closed : ∀ s ∈ query.fragments, Closed s) :
    Continues query.blank.tail
      (query.conditions.flatMap Condition.parts ++ (query.groupBy.map (.quoted .name) ++
        query.orderBy.toList.flatMap RowOrder.parts)) query.tail := by
  have conditions := query.fills_whereClause fun s mem => closed s (by
    simp only [fragments, List.mem_append]
    exact .inl (.inr mem))
  have order := query.fills_orderClause fun s mem => closed s (by
    simp only [fragments, List.mem_append]
    exact .inr mem)
  have all := conditions.append (query.fills_groupClause.append
    (order.append query.fills_limitClause))
  rwa [List.append_nil] at all

/-- The query up to its destination. -/
theorem fills_body {source : String} (closed : ∀ s ∈ query.fragments, Closed s)
    (given : query.source = some source) :
    Fills (query.blank.body source)
      (query.columns.map (.quoted .name) ++ query.expressions.flatMap quotedParts ++
        query.aggregate.toList.flatMap quotedParts ++ (quotedParts source ++
        (query.conditions.flatMap Condition.parts ++ (query.groupBy.map (.quoted .name) ++
        query.orderBy.toList.flatMap RowOrder.parts))))
      (query.body source) := by
  have list := query.fills_selectList fun s mem => closed s (by
    simp only [fragments, List.append_assoc]
    rw [← List.append_assoc query.expressions]
    exact List.mem_append_right _ (List.mem_append_left _ mem))
  obtain ⟨trimmed, same⟩ := (closed source (by simp [fragments, given])).trim
  have tail := query.fills_tail closed
  have rest := (Fills.fragment trimmed).append tail.toFills tail.apart tail.form_apart
  have word : Plain " FROM " := by decide
  have whole := list.append (rest.keyword word) (word.apart_append (by decide) _)
    (word.apart_append (by decide) _)
  rw [body_eq, body_eq]
  rw [same] at whole
  exact whole.keyword (by decide)

theorem sql_isOk_iff : (∃ text, query.sql = .ok text) ↔
    ∃ source, query.source = some source ∧ Text.isBlank source = false := by
  unfold sql
  cases query.source with
  | none => simp
  | some source =>
    cases empty : Text.isBlank source with
    | true => simp [empty]
    | false => cases query.destination <;> simp [empty]

theorem sql_eq {source : String} (given : query.source = some source)
    (shown : Text.isBlank source = false) :
    query.sql = .ok ((query.destination.map creation).getD "" ++ query.body source) := by
  unfold sql
  cases query.destination <;> simp [given, shown]

theorem fills_sql {text : String} (closed : ∀ s ∈ query.fragments, Closed s)
    (written : query.sql = .ok text) :
    ∃ form, query.blank.sql = .ok form ∧ Fills form query.parts text := by
  obtain ⟨source, given, shown⟩ := query.sql_isOk_iff.1 ⟨text, written⟩
  have body := query.fills_body closed given
  rw [query.sql_eq given shown] at written
  cases written
  refine ⟨_, query.blank.sql_eq given shown, ?_⟩
  change Fills ((query.destination.map creation).getD "" ++ _) _ _
  cases into : query.destination with
  | none => simpa [parts, given, into] using body
  | some destination =>
    have target := closed destination (by simp [fragments, into])
    have word : Plain " AS " := by decide
    have whole := (Fills.fragment target).append (body.keyword word)
      (word.apart_append (by decide) _) (word.apart_append (by decide) _)
    have created := whole.keyword (by decide : Plain "CREATE TABLE ")
    simpa [parts, given, into, creation, String.append_assoc] using created

theorem fragments_blank : query.blank.fragments = query.fragments := by
  have conditions : (query.conditions.map Condition.blank).filterMap Condition.fragment? =
      query.conditions.filterMap Condition.fragment? := by
    rw [List.filterMap_map]
    congr
    funext condition
    simp only [Function.comp_def, Condition.fragment?, Condition.blank]
    cases condition.value <;> rfl
  have order : (query.orderBy.map RowOrder.blank).bind RowOrder.fragment? =
      query.orderBy.bind RowOrder.fragment? := by
    rcases query.orderBy with _ | _ | _ <;> rfl
  simp only [fragments, blank, conditions, order]

end Select

/-- A query whose given pieces of SQL are closed is written as a closed text. Its
quoted parts are, clause by clause, the names and texts of the query and the
quoted parts of the given pieces. Another query that differs from it in names and
texts only is written with the same outline. -/
theorem names_stay_quoted {query : Select} {text : String}
    (closed : ∀ s ∈ query.fragments, Closed s) (written : query.sql = .ok text) :
    Closed text ∧ quotedParts text = query.parts ∧
      ∀ other : Select, other.blank = query.blank →
        ∃ text', other.sql = .ok text' ∧ Closed text' ∧ outline text' = outline text ∧
          quotedParts text' = other.parts := by
  obtain ⟨form, blank, fills⟩ := query.fills_sql closed written
  refine ⟨fills.closed, fills.parts_eq, fun other same => ?_⟩
  have source : other.blank.source = query.blank.source := congrArg Select.source same
  change other.source = query.source at source
  obtain ⟨text', written'⟩ : ∃ text', other.sql = .ok text' := by
    rw [Select.sql_isOk_iff, source, ← Select.sql_isOk_iff]
    exact ⟨text, written⟩
  have closed' : ∀ s ∈ other.fragments, Closed s := by
    rwa [← other.fragments_blank, same, query.fragments_blank]
  obtain ⟨form', blank', fills'⟩ := other.fills_sql closed' written'
  have forms : form' = form := by
    rw [same, blank] at blank'
    exact (Except.ok.inj blank').symm
  refine ⟨text', written', fills'.closed, ?_, fills'.parts_eq⟩
  rw [fills'.outline_eq, fills.outline_eq, forms]

/-- A query with quotes, commas and keywords in its names and texts. -/
def strangeNames : Select where
  columns := ["a\" FROM \"b", ""]
  aggregate := some "sum(\"it\"\"em\") AS \"y\""
  source := some " \"lake\".\"t\" "
  conditions :=
    [⟨"x\"", .eq, .text "it's' OR 1 = 1"⟩, ⟨"z", .like, .fuzzy "lower(\"n\") LIKE '%a%'"⟩]
  groupBy := ["a\" FROM \"b"]
  orderBy := some (.columns [("\"", .descending)])
  destination := some "\"new\""

theorem strangeNames_stay_quoted :
    (∀ s ∈ strangeNames.fragments, Closed s) ∧ ∃ text, strangeNames.sql = .ok text ∧
      Closed text ∧ quotedParts text = strangeNames.parts := by
  have closed : ∀ s ∈ strangeNames.fragments, Closed s := by decide +kernel
  obtain ⟨text, written⟩ := strangeNames.sql_isOk_iff.2 ⟨_, rfl, by decide +kernel⟩
  obtain ⟨whole, parts, -⟩ := names_stay_quoted closed written
  exact ⟨closed, text, written, whole, parts⟩

end ChartQuery
