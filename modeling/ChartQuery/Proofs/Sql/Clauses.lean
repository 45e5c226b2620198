import ChartQuery.Proofs.Sql.SelectList
import Mathlib.Data.List.Chain

/-!
# Reading a grouping query

Behind the select list of a query stand its source and the clauses that group and order its
rows. They are read up to the end of the text, and a query with anything else in it is not
read at all (`Grouping.read?`). A name is one token, and is never taken for a keyword.
-/

namespace ChartQuery

open Token SelectList

namespace Clauses

variable {α : Type}

/-- What reads something at the front of some tokens, and tells what stands behind it. -/
abbrev Reader (α : Type) := List Token → Option (α × List Token)

def name? : Reader String
  | .quoted .name name :: rest => some (name, rest)
  | _ => none

def direction (tokens : List Token) : Direction × List Token :=
  match tokens.dropPrefix? (spell " DESC") with
  | some rest => (.descending, rest)
  | none => (.ascending, (tokens.dropPrefix? (spell " ASC")).getD tokens)

def key? : Reader (String × Direction) := fun tokens =>
  (name? tokens).map fun (name, rest) => ((name, (direction rest).1), (direction rest).2)

/-- Entries with a separator between them, one at least. -/
def list? (one? : Reader α) (separator tokens : List Token) : Option (List α × List Token) :=
  (one? tokens).bind fun (a, rest) =>
    match rest.dropPrefix? separator with
    | none => some ([a], rest)
    | some more =>
      if _shorter : more.length < tokens.length then
        (list? one? separator more).map fun (list, rest) => (a :: list, rest)
      else none
termination_by tokens.length

def clause? (keyword : String) (one? : Reader α) : Reader (Option (List α)) := fun tokens =>
  match tokens.dropPrefix? (spell keyword) with
  | some rest => (list? one? (spell ", ") rest).map fun (list, rest) => (some list, rest)
  | none => some (none, tokens)

/-- What stands behind the select list of a query. -/
def behind (query : String) : List Token :=
  let tokens := (Scan.of query).tokens.drop "SELECT ".length
  tokens.drop ([.plain ','].intercalate (cut 0 [] tokens)).length

end Clauses

/-- A query that groups and orders the rows of its source, as it is read from its text. -/
structure Grouping where
  /-- The items of the select list. -/
  items : List (List Token)
  /-- The names that the items give to the columns of the result. -/
  names : List String
  /-- The parts of the reference to the source. -/
  source : List String
  groupBy : Option (List String)
  orderBy : Option (List (String × Direction))
  deriving DecidableEq, Repr

open Clauses in
def Grouping.read? (query : String) : Option Grouping := do
  let items ← items? query
  let names ← items.mapM columnName?
  let rest ← (behind query).dropPrefix? (spell " FROM ")
  let (source, rest) ← list? name? (spell ".") rest
  let (groupBy, rest) ← clause? " GROUP BY " name? rest
  let (orderBy, rest) ← clause? " ORDER BY " key? rest
  if rest = [] ∧ (Scan.of query).place = .outside then
    some { items, names, source, groupBy, orderBy }
  else none

namespace Clauses

section Tokens

theorem dropPrefix?_append (front rest : List Token) :
    (front ++ rest).dropPrefix? front = some rest :=
  List.dropPrefix?_eq_some_iff.2 ⟨front, rfl, beq_self_eq_true front⟩

variable {α : Type} {one? : Reader α} {separator rest : List Token} {tokens : α → List Token}
  {list : List α}

/-- Tokens that a reader reads as what they stand for, whatever stands behind them. -/
def ReadBy (one? : Reader α) (tokens : α → List Token) : Prop :=
  ∀ a rest, one? (tokens a ++ rest) = some (a, rest)

theorem name?_readBy : ReadBy name? fun name => [.quoted .name name] := fun _ _ => rfl

def keyTokens (key : String × Direction) : List Token :=
  .quoted .name key.1 :: spell (" " ++ key.2.sql)

def clauseTokens (keyword : String) (tokens : α → List Token) (list : List α) : List Token :=
  if list = [] then [] else spell keyword ++ (spell ", ").intercalate (list.map tokens)

theorem direction_spell (way : Direction) (rest : List Token) :
    direction (spell (" " ++ way.sql) ++ rest) = (way, rest) := by
  cases way with
  | ascending =>
    have other : (spell " ASC" ++ rest).dropPrefix? (spell " DESC") = none := by
      simp [spell, List.dropPrefix?]
    change direction (spell " ASC" ++ rest) = _
    rw [direction, other, dropPrefix?_append]
    rfl
  | descending =>
    change direction (spell " DESC" ++ rest) = _
    rw [direction, dropPrefix?_append]

theorem key?_readBy : ReadBy key? keyTokens := by
  intro key rest
  change some ((key.1, (direction (_ ++ rest)).1), (direction (_ ++ rest)).2) = _
  rw [direction_spell]

/-- Entries with separators between them are read one by one, up to an entry that no
separator follows. -/
theorem list?_intercalate (read : ReadBy one? tokens) (spelled : separator ≠ [])
    (ends : rest.dropPrefix? separator = none) (some : list ≠ []) :
    list? one? separator (separator.intercalate (list.map tokens) ++ rest) =
      .some (list, rest) := by
  induction list with
  | nil => exact absurd rfl some
  | cons a list ih =>
    cases list with
    | nil =>
      rw [List.map_singleton, List.intercalate_singleton, list?, read]
      simp only [Option.bind_some, ends]
    | cons b list =>
      have shorter : 0 < separator.length := List.length_pos_iff.2 spelled
      rw [List.map_cons, List.map_cons, List.intercalate_cons_cons, List.append_assoc,
        List.append_assoc, list?, read, ← List.map_cons]
      simp only [Option.bind_some, dropPrefix?_append, ih (by simp), Option.map_some]
      rw [dif_pos (by simp only [List.length_append]; omega)]

theorem dropPrefix?_clauseTokens {keyword : String} {word : List Token}
    (other : ∀ more, (spell keyword ++ more).dropPrefix? word = none)
    (ends : rest.dropPrefix? word = none) :
    (clauseTokens keyword tokens list ++ rest).dropPrefix? word = none := by
  unfold clauseTokens
  split
  · exact ends
  · rw [List.append_assoc, other]

theorem clause?_tokens (keyword : String) (read : ReadBy one? tokens)
    (ends : rest.dropPrefix? (spell ", ") = none)
    (other : rest.dropPrefix? (spell keyword) = none) :
    clause? keyword one? (clauseTokens keyword tokens list ++ rest) =
      some (if list = [] then none else some list, rest) := by
  unfold clause? clauseTokens
  by_cases empty : list = []
  · simp only [empty, if_true, List.nil_append, other]
  · simp only [if_neg empty, List.append_assoc, dropPrefix?_append,
      list?_intercalate read (by decide) ends empty, Option.map_some]

theorem intercalate_cons (separator x : List Token) (list : List (List Token)) :
    separator.intercalate (x :: list) = x ++ list.flatMap (separator ++ ·) := by
  induction list generalizing x with
  | nil => simp
  | cons y list ih =>
    rw [List.intercalate_cons_cons, ih, List.flatMap_cons, List.append_assoc, List.append_assoc]

/-- The select list is cut off whole. -/
theorem behind_select {text : α → String} (rest : String) (some : list ≠ [])
    (h : ∀ a ∈ list, IsItem (text a) (tokens a)) :
    behind ("SELECT " ++ (commaSeparated (list.map text) ++ (" FROM " ++ rest))) =
      spell " FROM " ++ (Scan.of rest).tokens := by
  obtain ⟨a, list, rfl⟩ := List.exists_cons_of_ne_nil some
  have length : "SELECT ".length = (spell "SELECT ").length := by decide
  have commas : [.plain ','].intercalate (tokens a :: list.map fun b => .plain ' ' :: tokens b) =
      (spell ", ").intercalate ((a :: list).map tokens) := by
    rw [List.map_cons, intercalate_cons, intercalate_cons, List.flatMap_map, List.flatMap_map]
    rfl
  rw [behind, scan_select rest h, Scan.tokens_after, length, List.append_assoc, List.drop_left,
    List.append_assoc, cut_items a [] _ h, List.nil_append, commas, List.drop_left]

section Writing

variable {text : α → String}

theorem scans_parts (parts : List String) :
    Scans (".".intercalate (parts.map quoteName))
      ((spell ".").intercalate (parts.map fun part => [.quoted .name part])) :=
  scans_intercalate (by decide : Plain ".") (by decide) fun part _ => scans_quoteName part

theorem scans_tableReference (catalog : Option String) (table : String) :
    Scans (tableReference catalog table) ((spell ".").intercalate
      ((catalogParts catalog ++ [table]).map fun part => [.quoted .name part])) :=
  scans_parts _

theorem apart_clause {keyword : String} (plain : Plain keyword) (spelled : keyword ≠ "")
    (entries : Option String) : Apart (Select.clause keyword entries) := by
  cases entries with
  | none => rfl
  | some entries => exact plain.apart_append spelled entries

theorem scans_clause {keyword : String} (plain : Plain keyword)
    (scans : ∀ a ∈ list, Scans (text a) (tokens a)) :
    Scans (Select.clause keyword
      (if list.isEmpty then none else some (commaSeparated (list.map text))))
      (clauseTokens keyword tokens list) := by
  unfold clauseTokens
  by_cases empty : list = []
  · rw [if_pos empty, if_pos (List.isEmpty_iff.2 empty)]
    rfl
  · rw [if_neg empty, if_neg (by simpa using empty)]
    exact Scans.spell_append plain
      (scans_intercalate (by decide : Plain ", ") (by decide) scans)

theorem scans_keyTokens (key : String × Direction) :
    Scans (quoteName key.1 ++ " " ++ key.2.sql) (keyTokens key) := by
  have plain : Plain (" " ++ key.2.sql) := by cases key.2 <;> decide
  have apart : Apart (" " ++ key.2.sql) := by cases key.2 <;> decide
  rw [String.append_assoc]
  exact (scans_quoteName key.1).append plain.scans apart

end Writing

def sourceTokens (source groups : List String) (keys : List (String × Direction)) : List Token :=
  (spell ".").intercalate (source.map fun part => [.quoted .name part]) ++
    (clauseTokens " GROUP BY " (fun name => [.quoted .name name]) groups ++
      clauseTokens " ORDER BY " keyTokens keys)

end Tokens

end Clauses

open Clauses

/-- A query with its clauses is read back from its text. -/
theorem Grouping.read?_select {α : Type} {text name : α → String} {tokens : α → List Token}
    {list : List α} {rest : String} {source groups : List String}
    {keys : List (String × Direction)} (some : list ≠ [])
    (h : ∀ a ∈ list, IsItem (text a) (tokens a))
    (named : ∀ a ∈ list, columnName? (tokens a) = .some (name a)) (given : source ≠ [])
    (scans : Scans rest (sourceTokens source groups keys)) :
    read? ("SELECT " ++ (commaSeparated (list.map text) ++ (" FROM " ++ rest))) =
      .some { items := list.map tokens
              names := list.map name
              source
              groupBy := if groups = [] then none else .some groups
              orderBy := if keys = [] then none else .some keys } := by
  have place : (Scan.of ("SELECT " ++ (commaSeparated (list.map text) ++
      (" FROM " ++ rest)))).place = .outside := by
    rw [scan_select rest h, scans]
    rfl
  have orders {word : List Token} (some : word ≠ [])
      (other : ∀ more, (spell " ORDER BY " ++ more).dropPrefix? word = none) :
      (clauseTokens " ORDER BY " keyTokens keys).dropPrefix? word = none := by
    have ends : ([] : List Token).dropPrefix? word = none := by
      cases word with
      | nil => exact absurd rfl some
      | cons => rfl
    rw [← List.append_nil (clauseTokens ..)]
    exact dropPrefix?_clauseTokens other ends
  have ordered : clause? " ORDER BY " key? (clauseTokens " ORDER BY " keyTokens keys ++ []) =
      .some (if keys = [] then none else .some keys, []) :=
    clause?_tokens " ORDER BY " key?_readBy rfl rfl
  rw [List.append_nil] at ordered
  have grouped : clause? " GROUP BY " name? (clauseTokens " GROUP BY " _ groups ++ _) = _ :=
    clause?_tokens " GROUP BY " name?_readBy
      (orders (by decide) fun more => by simp [spell, List.dropPrefix?])
      (orders (by decide) fun more => by simp [spell, List.dropPrefix?])
  have sourced : list? name? (spell ".") ((spell ".").intercalate (source.map _) ++
      (clauseTokens " GROUP BY " (fun name => [.quoted .name name]) groups ++ _)) = _ :=
    list?_intercalate name?_readBy (by decide) (dropPrefix?_clauseTokens
      (fun more => by simp [spell, List.dropPrefix?])
      (orders (by decide) fun more => by simp [spell, List.dropPrefix?])) given
  rw [read?, items?_select rest some h, behind_select rest some h, scans.tokens_eq, place]
  simp [mapM_columnName? named, dropPrefix?_append, sourceTokens, sourced, grouped, ordered]

end ChartQuery
