import ChartQuery.Proofs.Plan.Items
import Mathlib.Data.List.TakeWhile

/-!
# Reshaping can be read back

The statement that makes a reshaped table tells the encoding that it was made for.
Its select list is read back item by item, and each item tells its role and the
columns it is made from. What is left of the statement is the source, which tells
whether columns are rotated and which they are. No name can stand for anything
else, since every name is one token.

Main statement: `encoding_of_reshape`.
-/

namespace ChartQuery

open Token SelectList Text

theorem Operand.namesIn_textTokens (operand : Operand) :
    namesIn operand.textTokens = [operand.name] := by
  cases operand with
  | column name => simp [textTokens, Operand.name]
  | key => rfl
  | value => rfl

theorem Expression.namesIn_tokens (e : Expression) : namesIn e.tokens = e.names := by
  cases e with
  | single operand => rfl
  | joined operands =>
    simp [tokens, namesIn_intercalate, Operand.namesIn_textTokens]
    exact List.map_eq_flatMap.symm

/-- Lists of names are told apart whatever the names hold. -/
theorem nameList_injective {names names' : List String} (h : nameList names = nameList names') :
    names = names' := by
  have same := scans_nameList names
  rw [h] at same
  have tokens := congrArg namesIn (same.unique (scans_nameList names'))
  simpa [namesIn_intercalate, ← List.map_eq_flatMap] using tokens

namespace Reshape

variable {plan plan' : Reshape}

def readItem? (item : List Token) : Option (Role × List String) :=
  ((namesIn item).getLast?.bind Role.ofField?).map fun role => (role, (namesIn item).dropLast)

theorem readItem?_itemTokens (item : Role × Expression) :
    readItem? (itemTokens item) = some (item.1, item.2.names) := by
  have names : namesIn (itemTokens item) = item.2.names ++ [item.1.field] := by
    simp [itemTokens, item.2.namesIn_tokens]
  simp [readItem?, names, Role.ofField?_field]

theorem fieldColumns?_eq_some {role : Role} {names : List String} :
    plan.fieldColumns? role = some names ↔
      some (role, names) ∈ (plan.items.map itemTokens).map readItem? := by
  simp only [fieldColumns?, Option.map_eq_some_iff, List.map_map, List.mem_map, Prod.exists,
    Function.comp_apply, readItem?_itemTokens, Option.some.injEq, Prod.mk.injEq, mem_items]
  constructor
  · rintro ⟨e, made, rfl⟩
    exact ⟨role, e, made, rfl, rfl⟩
  · rintro ⟨_, e, made, rfl, rfl⟩
    exact ⟨e, made, rfl⟩

/-- Select lists with the same tokens have the same fields, made from the same
columns. -/
theorem fieldColumns?_of_items (same : plan.items.map itemTokens = plan'.items.map itemTokens)
    (role : Role) : plan.fieldColumns? role = plan'.fieldColumns? role := by
  refine Option.ext fun names => ?_
  rw [fieldColumns?_eq_some, fieldColumns?_eq_some, same]

end Reshape

section Sources

theorem toList_trim_concat {s : String} {front : List Char} {c : Char}
    (ends : s.toList = front ++ [c]) (solid : isSpace c = false) :
    (trim s).toList = dropStart isSpace front ++ [c] := by
  have start : dropStart isSpace (front ++ [c]) = dropStart isSpace front ++ [c] := by
    rw [dropStart, dropStart, List.dropWhile_append]
    split <;> simp_all
  simp [trim, ends, start, dropEnd, solid]

theorem dropStart_word (front : List Char) {c : Char} (solid : isSpace c = false)
    (rest : List Char) : dropStart isSpace (front ++ ' ' :: c :: rest) =
      (if front.all isSpace then [] else dropStart isSpace front ++ [' ']) ++ c :: rest := by
  have blank : (dropStart isSpace front).isEmpty = front.all isSpace := by
    rw [Bool.eq_iff_iff]
    simp [dropStart, List.dropWhile_eq_nil_iff]
  have space : isSpace ' ' := by decide
  rw [dropStart, List.dropWhile_append, ← dropStart, blank]
  split <;> simp [space, solid]

theorem length_trim_le (s : String) :
    (trim s).toList.length ≤ (dropStart isSpace s.toList).length := by
  rw [trim, String.toList_ofList, dropEnd, List.length_reverse]
  exact Nat.le_trans (List.dropWhile_sublist _).length_le (by simp)

namespace Reshape

variable {plan plan' : Reshape} {source : String}

theorem toList_sourceSql (source : String) : ∃ keyword : List Char, ∀ plan : Reshape,
    plan.shape.rotates → (plan.sourceSql source).toList =
      source.toList ++ (' ' :: 'U' :: keyword ++ (nameList plan.rotated).toList ++ [')']) ++ [')'] := by
  refine ⟨("NPIVOT INCLUDE NULLS (" ++ quoteName Names.value ++ " FOR " ++ quoteName Names.key ++
    " IN (").toList, fun plan rotates => ?_⟩
  rw [sourceSql, if_pos rotates]
  have front :
      " UNPIVOT INCLUDE NULLS (".toList = ' ' :: 'U' :: "NPIVOT INCLUDE NULLS (".toList := by
    decide +kernel
  have back : "))".toList = [')'] ++ [')'] := by decide
  simp only [String.toList_append, front, back, List.cons_append, List.append_assoc]

theorem trim_sourceSql_ne (rotates : plan.shape.rotates) (some : isBlank source = false) :
    trim (plan.sourceSql source) ≠ trim source := by
  intro same
  obtain ⟨keyword, ends⟩ := toList_sourceSql source
  have trimmed := toList_trim_concat (ends plan rotates) (by decide)
  have solid : source.toList.all isSpace = false := some
  rw [List.cons_append, List.cons_append, List.cons_append, List.cons_append,
    dropStart_word _ (by decide), solid, same] at trimmed
  have short := length_trim_le source
  simp only [trimmed, Bool.false_eq_true, if_false, List.length_append, List.length_cons] at short
  omega

/-- The trimmed source of the rows tells which columns are rotated. -/
theorem rotated_of_sourceSql (some : isBlank (plan.sourceSql source) = false)
    (some' : isBlank (plan'.sourceSql source) = false)
    (same : trim (plan.sourceSql source) = trim (plan'.sourceSql source)) :
    plan.shape.rotates = plan'.shape.rotates ∧ plan.rotated = plan'.rotated := by
  have still {plan : Reshape} (stays : plan.shape.rotates = false) :
      plan.sourceSql source = source := by
    simp [sourceSql, stays]
  cases rotates : plan.shape.rotates <;> cases rotates' : plan'.shape.rotates
  · simp [rotated, rotates, rotates']
  · rw [still rotates] at some same
    exact absurd same.symm (trim_sourceSql_ne rotates' some)
  · rw [still rotates'] at some' same
    exact absurd same (trim_sourceSql_ne rotates some')
  · obtain ⟨keyword, ends⟩ := toList_sourceSql source
    have trimmed := toList_trim_concat (ends plan rotates) (by decide)
    have trimmed' := toList_trim_concat (ends plan' rotates') (by decide)
    rw [same, trimmed'] at trimmed
    simp only [List.cons_append, dropStart_word _ (by decide : isSpace 'U' = false),
      List.append_assoc, List.append_cancel_left_eq, List.append_cancel_right_eq,
      List.cons.injEq, true_and] at trimmed
    exact ⟨rfl, nameList_injective (String.toList_injective trimmed.symm)⟩

end Reshape

end Sources

namespace Reshape

/-- Fields that are made from the same columns, and the same rotated columns, tell
the columns of each role. -/
theorem encoding_of_fieldColumns? {p p' : Reshape} (mark : p.mark = p'.mark)
    (grouped : p.mark.isGrouped → p.encoding.get .x = p.encoding.get .series)
    (grouped' : p'.mark.isGrouped → p'.encoding.get .x = p'.encoding.get .series)
    (rotates : p.shape.rotates = p'.shape.rotates) (rotated : p.rotated = p'.rotated)
    (same : ∀ role, p.fieldColumns? role = p'.fieldColumns? role) : p.encoding = p'.encoding := by
  have own (role : Role) (other : p.shape.rotates → role ≠ p.mark.valueAxis ∧
      ¬(role = .series ∨ role = .x ∧ p.mark.isGrouped)) :
      p.encoding.get role = p'.encoding.get role := by
    have field := same role
    rw [fieldColumns?_own other, fieldColumns?_own (by rwa [← rotates, ← mark])] at field
    generalize p.encoding.get role = columns at field ⊢
    generalize p'.encoding.get role = columns' at field ⊢
    cases columns <;> cases columns' <;> simp_all
  refine PerRole.ext_get fun role => ?_
  cases turns : p.shape.rotates with
  | false => exact own role (by simp [turns])
  | true =>
    have turns' : p'.shape.rotates := rotates ▸ turns
    have series : p.encoding.get .series = p'.encoding.get .series := by
      have field := same .series
      rw [fieldColumns?_series turns, fieldColumns?_series turns'] at field
      simpa using field
    by_cases value : role = p.mark.valueAxis
    · rw [Reshape.rotated, Reshape.rotated, if_pos turns, if_pos turns', ← mark] at rotated
      rw [value, rotated]
    · by_cases keyed : role = .series ∨ role = .x ∧ p.mark.isGrouped
      · rcases keyed with rfl | ⟨rfl, yes⟩
        · exact series
        · rw [grouped yes, grouped' (mark ▸ yes), series]
      · exact own role fun _ => ⟨value, keyed⟩

variable {mark : Mark} {encoding encoding' : Encoding}

theorem transpose_injective (facet : mark.isGrouped → encoding.fx = [])
    (facet' : mark.isGrouped → encoding'.fx = [])
    (same : transpose mark encoding = transpose mark encoding') : encoding = encoding' := by
  unfold transpose at same
  split at same
  · rename_i grouped
    cases encoding
    cases encoding'
    simp only [PerRole.mk.injEq] at same facet facet' ⊢
    simp_all
  · exact same

theorem sql_eq_ok {plan : Reshape} {source destination text : String}
    (h : plan.sql source destination = .ok text) :
    isBlank (plan.sourceSql source) = false ∧
      text = Select.creation destination ++ (plan.query source).body (plan.sourceSql source) := by
  unfold sql Select.sql at h
  simp only [query] at h
  split at h
  · cases h
  · rename_i solid
    exact ⟨by simpa using solid, (Except.ok.inj h).symm⟩

/-- The query for a reshaped table tells its items and its source. -/
theorem items_of_body {p p' : Reshape} (some : p.items ≠ []) (some' : p'.items ≠ [])
    {source : String} (same : (p.query source).body (p.sourceSql source) =
      (p'.query source).body (p'.sourceSql source)) :
    p.items.map itemTokens = p'.items.map itemTokens ∧
      trim (p.sourceSql source) = trim (p'.sourceSql source) := by
  have items : p.items.map itemTokens = p'.items.map itemTokens := by
    have read := items?_body p some source
    rw [same, items?_body p' some' source] at read
    exact (Option.some.inj read).symm
  have list : commaSeparated (p.items.map itemSql) = commaSeparated (p'.items.map itemSql) := by
    have chars := (scans_items fun item (_ : item ∈ p.items) => isItem item).toList_eq
    have chars' := (scans_items fun item (_ : item ∈ p'.items) => isItem item).toList_eq
    rw [items] at chars
    exact String.toList_injective (chars.trans chars'.symm)
  rw [body_eq p some, body_eq p' some', list] at same
  simp only [String.append_right_inj] at same
  exact ⟨items, same⟩

end Reshape

/-- Two valid requests of one mark have the same encoding if their statements for
the reshaped table are the same, whatever the names of their columns hold. -/
theorem encoding_of_reshape {mark : Mark} {request request' : Request}
    {source destination text : String} (valid : request.validate = .ok mark)
    (valid' : request'.validate = .ok mark)
    (made : (Reshape.plan mark request.encoding).sql source destination = .ok text)
    (made' : (Reshape.plan mark request'.encoding).sql source destination = .ok text) :
    request.encoding = request'.encoding := by
  obtain ⟨-, placed⟩ := Request.validate_ok valid
  obtain ⟨-, placed'⟩ := Request.validate_ok valid'
  obtain ⟨solid, text_eq⟩ := Reshape.sql_eq_ok made
  obtain ⟨solid', text_eq'⟩ := Reshape.sql_eq_ok made'
  obtain ⟨items, sources⟩ := Reshape.items_of_body placed.items_ne_nil placed'.items_ne_nil
    ((String.append_right_inj _).1 (text_eq.symm.trans text_eq'))
  obtain ⟨rotates, rotated⟩ := Reshape.rotated_of_sourceSql solid solid' sources
  have fields := Reshape.fieldColumns?_of_items items
  have roles : (Reshape.plan mark request.encoding).encoding =
      (Reshape.plan mark request'.encoding).encoding :=
    Reshape.encoding_of_fieldColumns? rfl (fun grouped => Reshape.get_plan_x grouped _)
      (fun grouped => Reshape.get_plan_x grouped _) rotates rotated fields
  exact Reshape.transpose_injective placed.facet placed'.facet roles

/-- Grouped bars of two columns, with names that look like SQL. -/
def strangeBars : Request where
  table := "t"
  mark := some .barYGrouped
  encoding :=
    { Encoding.empty with
      x := ["a\" AS \"x"]
      y := ["u\", \"v", Names.key]
      series := ["s FROM t", "'"] }

theorem strangeBars_read_back :
    let other := { strangeBars with table := "u", aggregate := some .count }
    let statement (request : Request) :=
      (Reshape.plan .barYGrouped request.encoding).sql " (SELECT 1) " "\"d\""
    strangeBars.validate = .ok .barYGrouped ∧ other.validate = .ok .barYGrouped ∧
      (∃ text, statement strangeBars = .ok text ∧ statement other = .ok text) ∧
      strangeBars.encoding = other.encoding := by
  intro other statement
  have valid : strangeBars.validate = .ok .barYGrouped := rfl
  have valid' : other.validate = .ok .barYGrouped := by decide +kernel
  have written : (statement strangeBars).isOk := by decide +kernel
  obtain ⟨text, made⟩ : ∃ text, statement strangeBars = .ok text := by
    cases made : statement strangeBars with
    | error e => simp [made, Except.isOk, Except.toBool] at written
    | ok text => exact ⟨text, rfl⟩
  exact ⟨valid, valid', ⟨text, made, made⟩, encoding_of_reshape valid valid' made made⟩

end ChartQuery
