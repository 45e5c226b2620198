import ChartQuery.Proofs.Plan.Skipping
import ChartQuery.Proofs.Sql.Clauses
import Mathlib.Order.Defs.LinearOrder

/-!
# The order of groups

A grouping query has a row for each group, and an engine may return the rows as it likes if
the query does not order them. If it orders them by all the columns that it groups by, these
tell the rows apart. Then no two rows may stand either way, and there is one order for the
rows of a result (`Grouping.ListsGroups.settlesOrder`).

How an engine orders the cells of a column is left open, also where it puts what is missing.
It has to be an order, in which cells that are not equal stand one before the other.
-/

namespace ChartQuery

open Token

/-- What an engine makes of an item that is not a name, for the rows of a group. -/
abbrev Fold := List Token → List Record → Cell

/-- How an engine orders the cells of a column, given a direction. -/
abbrev CellOrder := String → Direction → LinearOrder Cell

/-- A row may stand in front of another one: the first column in which they differ decides. -/
def Precedes (order : CellOrder) : List (String × Direction) → Record → Record → Prop
  | [], _, _ => True
  | (name, way) :: keys, a, b =>
    (order name way).lt (a name) (b name) ∨ a name = b name ∧ Precedes order keys a b

section Precedes

variable {order : CellOrder} {keys : List (String × Direction)} {a b c : Record}

/-- Rows that may stand either way have the same cells. -/
theorem Precedes.agree (h : Precedes order keys a b) (k : Precedes order keys b a) :
    Agree (keys.map Prod.fst) a b := by
  induction keys with
  | nil => exact fun _ mem => nomatch mem
  | cons key keys ih =>
    let := order key.1 key.2
    rcases h with before | ⟨same, h⟩
    · rcases k with behind | ⟨same, -⟩
      · exact absurd behind before.asymm
      · exact absurd same before.ne'
    · rcases k with behind | ⟨-, k⟩
      · exact absurd same behind.ne'
      · intro name mem
        rcases List.mem_cons.1 mem with rfl | mem
        · exact same
        · exact ih h k name mem

theorem Precedes.trans (h : Precedes order keys a b) (k : Precedes order keys b c) :
    Precedes order keys a c := by
  induction keys with
  | nil => trivial
  | cons key keys ih =>
    let := order key.1 key.2
    rcases h with before | ⟨same, h⟩
    · rcases k with behind | ⟨same, -⟩
      · exact .inl (before.trans behind)
      · exact .inl (same ▸ before)
    · rcases k with behind | ⟨same', k⟩
      · exact .inl (same ▸ behind)
      · exact .inr ⟨same.trans same', ih h k⟩

theorem precedes_total (order : CellOrder) (keys : List (String × Direction)) (a b : Record) :
    Precedes order keys a b ∨ Precedes order keys b a := by
  induction keys with
  | nil => exact .inl trivial
  | cons key keys ih =>
    let := order key.1 key.2
    rcases lt_trichotomy (a key.1) (b key.1) with before | same | behind
    · exact .inl (.inl before)
    · exact ih.imp (fun h => .inr ⟨same, h⟩) fun h => .inr ⟨same.symm, h⟩
    · exact .inr (.inl behind)

end Precedes

namespace Grouping

variable (query : Grouping)

/-- The groups of some rows. Without a clause all rows are one group. -/
def Divides (rows : List Record) (groups : List (List Record)) : Prop :=
  match query.groupBy with
  | none => groups = [rows]
  | some columns => Groups columns rows groups

/-- The cell of an item in the row of a group. A name has the cell that the rows share. -/
def cell (fold : Fold) (group : List Record) : List Token → Cell
  | [.quoted .name name] => ((group.head?).map (· name)).getD .null
  | item => fold item group

/-- The row that a group gives. -/
def row (fold : Fold) (group : List Record) : List Cell := query.items.map (cell fold group)

/-- What an engine may return for the query: a row for each group, in any order. -/
def Gives (fold : Fold) (rows : List Record) (result : List (List Cell)) : Prop :=
  ∃ groups, query.Divides rows groups ∧ result.Perm (groups.map (query.row fold))

def record (row : List Cell) : Record := fun name => ((query.names.zip row).lookup name).getD .null

def keys : List (String × Direction) := query.orderBy.getD []

/-- The columns that a result is ordered by tell its rows apart. -/
def Keyed (result : List (List Cell)) : Prop :=
  Distinct (query.keys.map Prod.fst) (result.map query.record)

/-- A result in the order that the query asks for. -/
def Ordered (order : CellOrder) (result : List (List Cell)) : Prop :=
  result.Pairwise fun a b => Precedes order query.keys (query.record a) (query.record b)

/-- A query that leaves nothing to the engine in the order of its results: they can be
ordered as it says, and in one way only. -/
structure SettlesOrder : Prop where
  keyed : ∀ {fold rows result}, query.Gives fold rows result → query.Keyed result
  some : ∀ order fold rows, ∃ result, query.Gives fold rows result ∧ query.Ordered order result
  one : ∀ {order fold fold' rows rows' result result'}, query.Gives fold rows result →
    query.Gives fold' rows' result' → query.Ordered order result → query.Ordered order result' →
    (∀ row, row ∈ result ↔ row ∈ result') → result = result'

variable {query} {order : CellOrder} {fold : Fold} {rows : List Record}
  {result result' : List (List Cell)}

theorem exists_gives (query : Grouping) (fold : Fold) (rows : List Record) :
    ∃ result, query.Gives fold rows result := by
  cases grouped : query.groupBy with
  | none => exact ⟨_, [rows], by rw [Divides, grouped], .rfl⟩
  | some columns =>
    exact ⟨_, groupsOf columns rows, by rw [Divides, grouped]; exact groups_groupsOf .., .rfl⟩

theorem Gives.perm (h : query.Gives fold rows result) (same : result'.Perm result) :
    query.Gives fold rows result' := by
  obtain ⟨groups, divides, given⟩ := h
  exact ⟨groups, divides, same.trans given⟩

/-- The rows of any result can be ordered. -/
theorem exists_ordered (query : Grouping) (order : CellOrder) (result : List (List Cell)) :
    ∃ ordered, ordered.Perm result ∧ query.Ordered order ordered := by
  classical
  let before (a b : List Cell) : Bool := Precedes order query.keys (query.record a) (query.record b)
  refine ⟨result.mergeSort before, List.mergeSort_perm .., ?_⟩
  have trans (a b c : List Cell) (h : before a b) (k : before b c) : before a c := by
    simp only [before, decide_eq_true_eq] at *
    exact h.trans k
  have total (a b : List Cell) : before a b || before b a := by
    simpa [before] using precedes_total order query.keys (query.record a) (query.record b)
  exact (List.pairwise_mergeSort trans total result).imp fun h => by simpa [before] using h

theorem Keyed.apart (h : query.Keyed result) : result.Pairwise fun a b =>
    ¬Agree (query.keys.map Prod.fst) (query.record a) (query.record b) :=
  List.pairwise_map.1 h

theorem Keyed.nodup (h : query.Keyed result) : result.Nodup :=
  h.apart.imp fun differ same => differ fun _ _ => by rw [same]

/-- If its rows are told apart, there is one way to order a result. -/
theorem Ordered.eq (keyed : query.Keyed result) (keyed' : query.Keyed result')
    (ordered : query.Ordered order result) (ordered' : query.Ordered order result')
    (same : ∀ row, row ∈ result ↔ row ∈ result') : result = result' := by
  have perm := (List.perm_ext_iff_of_nodup keyed.nodup keyed'.nodup).2 same
  refine List.Perm.eq_of_pairwise (fun a b here there before behind => ?_) ordered ordered' perm
  have symm : Std.Symm fun a b : List Cell =>
      ¬Agree (query.keys.map Prod.fst) (query.record a) (query.record b) :=
    ⟨fun _ _ differ agree => differ agree.symm⟩
  by_contra different
  exact keyed.apart.forall here ((same b).2 there) different (before.agree behind)

/-- A query that lists what it groups and orders by, in front of its other items. -/
structure ListsGroups (query : Grouping) (groups : List String) : Prop where
  items : ∃ more, query.items = groups.map (fun name => [.quoted .name name]) ++ more
  names : ∃ more, query.names = groups ++ more
  groupBy : query.groupBy = if groups = [] then none else some groups
  keys : query.keys.map Prod.fst = groups

theorem lookup_zip_map {names : List String} {name : String} (mem : name ∈ names)
    (value : String → Cell) : (names.zip (names.map value)).lookup name = some (value name) := by
  induction names with
  | nil => cases mem
  | cons other names ih =>
    rw [List.map_cons, List.zip_cons_cons, List.lookup_cons]
    by_cases same : name = other
    · simp [same]
    · rw [beq_false_of_ne same, ih ((List.mem_cons.1 mem).resolve_left same)]

/-- In the row of a group, the columns of the groups have the cells of the group. -/
theorem ListsGroups.agree_row {groups : List String} (h : query.ListsGroups groups)
    (fold : Fold) (first : Record) (others : List Record) :
    Agree groups (query.record (query.row fold (first :: others))) first := by
  intro name mem
  obtain ⟨items, listed⟩ := h.items
  obtain ⟨names, named⟩ := h.names
  have length : groups.length = (groups.map first).length := (List.length_map _).symm
  have cells : query.row fold (first :: others) =
      groups.map first ++ items.map (cell fold (first :: others)) := by
    rw [row, listed, List.map_append, List.map_map]
    rfl
  rw [record, cells, named, List.zip_append length, List.lookup_append, lookup_zip_map mem]
  rfl

theorem ListsGroups.keyed {groups : List String} (h : query.ListsGroups groups)
    (given : query.Gives fold rows result) : query.Keyed result := by
  obtain ⟨list, divides, perm⟩ := given
  rw [Keyed, h.keys]
  refine ((perm.map query.record).pairwise_iff fun differ agree => differ agree.symm).2 ?_
  rw [List.map_map]
  refine List.pairwise_map.2 ?_
  rw [Divides, h.groupBy] at divides
  by_cases none : groups = []
  · rw [if_pos none] at divides
    rw [divides]
    exact List.pairwise_singleton ..
  · rw [if_neg none] at divides
    refine divides.between.imp_of_mem fun {one other} here there differ agree => ?_
    obtain ⟨a, as, rfl⟩ := List.exists_cons_of_ne_nil (divides.some one here)
    obtain ⟨b, bs, rfl⟩ := List.exists_cons_of_ne_nil (divides.some other there)
    refine differ a (by simp) b (by simp) ?_
    exact (h.agree_row fold a as).symm.trans (agree.trans (h.agree_row fold b bs))

theorem ListsGroups.settlesOrder {groups : List String} (h : query.ListsGroups groups) :
    query.SettlesOrder where
  keyed := h.keyed
  some order fold rows := by
    obtain ⟨result, given⟩ := query.exists_gives fold rows
    obtain ⟨ordered, perm, sorted⟩ := query.exists_ordered order result
    exact ⟨ordered, given.perm perm, sorted⟩
  one given given' ordered ordered' same :=
    ordered.eq (h.keyed given) (h.keyed given') ordered' same

end Grouping

end ChartQuery
