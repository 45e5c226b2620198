import ChartQuery.Proofs.Sql.Clauses
import ChartQuery.Proofs.Text.TitleCase

/-!
# Table references

A reference to a table is read as names between double quotes, with dots between them and a
quote inside a name written twice. A reference that is written for a catalog and a table is read
back as the parts of the catalog and then the table, and it is the only text that is read so: in
a catalog dots divide, and in the name of a table they do not, since they are in quotes.

Main statement: `tableReference_reads_back`.
-/

namespace ChartQuery

open Token Clauses

/-- Read a reference up to the end of the text: names in quotes with dots between them. -/
def reference? (s : String) : Option (List String) :=
  match list? name? (spell ".") (Scan.of s).tokens, (Scan.of s).place with
  | some (parts, []), .outside => some parts
  | _, _ => none

/-- The parts that a catalog has: what stands between its dots and is not empty. A catalog that
is missing or blank has none. -/
inductive HasParts : Option String → List String → Prop
  | missing : HasParts none []
  | blank {catalog : String} : Text.isBlank catalog → HasParts (some catalog) []
  | dotted {catalog : String} {pieces : List String} : Text.isBlank catalog = false →
    catalog = ".".intercalate pieces → (∀ piece ∈ pieces, '.' ∉ piece.toList) →
    HasParts (some catalog) (pieces.filter (· ≠ ""))

section Catalogs

theorem exists_dotted (s : String) : ∃ pieces : List String, s = ".".intercalate pieces ∧
    ∀ piece ∈ pieces, '.' ∉ piece.toList := by
  refine ⟨(s.toList.splitOn '.').map String.ofList, ?_, ?_⟩
  · have dot : ".".toList = ['.'] := rfl
    refine String.toList_injective ?_
    rw [String.toList_intercalate, dot, List.map_map]
    simp [Function.comp_def]
  · intro piece mem dot
    obtain ⟨chars, cut, rfl⟩ := List.mem_map.1 mem
    rw [List.splitOn_eq_splitOnP] at cut
    have free := (Text.isInfix_of_mem_splitOnP cut).2 '.' (by simpa using dot)
    simp at free

theorem pieces_dotted {pieces : List String} (some : pieces ≠ [])
    (free : ∀ piece ∈ pieces, '.' ∉ piece.toList) :
    (Text.pieces (· == '.') (".".intercalate pieces).toList).map String.ofList =
      pieces.filter (· ≠ "") := by
  have dot : ".".toList = ['.'] := rfl
  have cut : (['.'].intercalate (pieces.map String.toList)).splitOn '.' =
      pieces.map String.toList :=
    List.splitOn_intercalate '.' (by simpa using free) (by simpa using some)
  have empty (s : String) : (!s.toList.isEmpty) = decide (s ≠ "") := by
    rw [Bool.eq_iff_iff]
    simp
  rw [List.splitOn_eq_splitOnP] at cut
  rw [Text.pieces, String.toList_intercalate, dot, cut, List.filter_map, List.map_map]
  simp [Function.comp_def, empty]

theorem hasParts_iff (catalog : Option String) (parts : List String) :
    HasParts catalog parts ↔ parts = catalogParts catalog := by
  have divided {s : String} {pieces : List String} (solid : Text.isBlank s = false)
      (joined : s = ".".intercalate pieces) (free : ∀ piece ∈ pieces, '.' ∉ piece.toList) :
      pieces.filter (· ≠ "") = catalogParts (some s) := by
    have some : pieces ≠ [] := by
      rintro rfl
      subst joined
      cases solid
    rw [catalogParts, solid, joined, pieces_dotted some free]
    rfl
  constructor
  · rintro (_ | blank | ⟨solid, joined, free⟩)
    · rfl
    · simp [catalogParts, blank]
    · exact divided solid joined free
  · rintro rfl
    cases catalog with
    | none => exact .missing
    | some catalog =>
      cases solid : Text.isBlank catalog with
      | true =>
        have none : catalogParts (some catalog) = [] := by simp [catalogParts, solid]
        rw [none]
        exact .blank solid
      | false =>
        obtain ⟨pieces, joined, free⟩ := exists_dotted catalog
        rw [← divided solid joined free]
        exact .dotted solid joined free

end Catalogs

section Reading

variable {parts : List String} {s : String}

theorem name?_eq_some {tokens rest : List Token} {name : String}
    (h : name? tokens = some (name, rest)) : tokens = .quoted .name name :: rest := by
  unfold name? at h
  split at h
  · cases h
    rfl
  · cases h

/-- A list that is read begins with an entry. It ends there, or a separator follows and then
the rest of the list. -/
theorem list?_cases {α : Type} {one? : Reader α} {separator tokens rest : List Token}
    {list : List α} (h : list? one? separator tokens = some (list, rest)) :
    ∃ a behind, one? tokens = some (a, behind) ∧
      (list = [a] ∧ rest = behind ∨ ∃ more others, behind = separator ++ more ∧
        more.length < tokens.length ∧ list? one? separator more = some (others, rest) ∧
        list = a :: others) := by
  rw [list?] at h
  obtain ⟨⟨a, behind⟩, first, h⟩ := Option.bind_eq_some_iff.1 h
  refine ⟨a, behind, first, ?_⟩
  dsimp only at h
  split at h
  · cases h
    exact .inl ⟨rfl, rfl⟩
  · rename_i more cut
    split at h
    · rename_i shorter
      obtain ⟨⟨others, last⟩, read, same⟩ := Option.map_eq_some_iff.1 h
      obtain ⟨front, rfl, same'⟩ := List.dropPrefix?_eq_some_iff.1 cut
      cases same
      cases eq_of_beq same'
      exact .inr ⟨more, others, rfl, shorter, read, rfl⟩
    · cases h

/-- Names that are read stand in the tokens with dots between them. -/
theorem list?_eq_some {tokens rest : List Token}
    (h : list? name? (spell ".") tokens = some (parts, rest)) :
    parts ≠ [] ∧ tokens =
      (spell ".").intercalate (parts.map fun part => [.quoted .name part]) ++ rest := by
  induction size : tokens.length using Nat.strongRecOn generalizing tokens parts with
  | ind n ih =>
    obtain ⟨name, behind, first, ends⟩ := list?_cases h
    obtain rfl := name?_eq_some first
    obtain ⟨rfl, rfl⟩ | ⟨more, others, rfl, shorter, read, rfl⟩ := ends
    · simp
    · obtain ⟨some, rfl⟩ := ih _ (size ▸ shorter) read rfl
      obtain ⟨second, others, rfl⟩ := List.exists_cons_of_ne_nil some
      simp [List.intercalate_cons_cons]

theorem reference?_eq_some_iff :
    reference? s = some parts ↔ parts ≠ [] ∧ s = ".".intercalate (parts.map quoteName) := by
  constructor
  · intro h
    unfold reference? at h
    split at h
    · rename_i read outside
      cases h
      obtain ⟨some, tokens⟩ := list?_eq_some read
      rw [List.append_nil] at tokens
      have scans : Scans s (Scan.of s).tokens := Closed.scans outside
      refine ⟨some, String.toList_injective ?_⟩
      rw [scans.toList_eq, tokens, (scans_parts parts).toList_eq]
    · cases h
  · rintro ⟨some, rfl⟩
    have read : list? name? (spell ".") (_ ++ []) = .some (parts, []) :=
      list?_intercalate name?_readBy (by decide) rfl some
    rw [List.append_nil] at read
    rw [reference?, scans_parts parts, read]

end Reading

/-- A catalog has one list of parts. A reference to a table in it is read back as these parts and
then the table, and no other text is. So it is never blank, and the references that are equal to
it are those with the same parts and the same table. -/
theorem tableReference_reads_back (catalog : Option String) (table : String) :
    ∃ parts, (∀ list, HasParts catalog list ↔ list = parts) ∧
      (∀ text, reference? text = some (parts ++ [table]) ↔ text = tableReference catalog table) ∧
      Text.isBlank (tableReference catalog table) = false ∧
      ∀ other otherTable, tableReference other otherTable = tableReference catalog table ↔
        HasParts other parts ∧ otherTable = table := by
  have read (catalog : Option String) (table text : String) :
      reference? text = some (catalogParts catalog ++ [table]) ↔
        text = tableReference catalog table := by
    simp [reference?_eq_some_iff, tableReference]
  refine ⟨catalogParts catalog, hasParts_iff catalog, read catalog table,
    (firm_tableReference catalog table).isBlank_eq, ?_⟩
  intro other otherTable
  rw [hasParts_iff]
  constructor
  · intro same
    have both := (read other otherTable _).2 rfl
    rw [same, (read catalog table _).2 rfl, Option.some.injEq] at both
    obtain ⟨parts, table⟩ := List.append_inj' both rfl
    exact ⟨parts, (List.singleton_inj.1 table).symm⟩
  · rintro ⟨parts, rfl⟩
    rw [tableReference, ← parts, tableReference]

example : tableReference (some "la\"ke..main") "a.b" = "\"la\"\"ke\".\"main\".\"a.b\"" := by
  decide

end ChartQuery
