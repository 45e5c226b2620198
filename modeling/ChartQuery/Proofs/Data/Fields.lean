import ChartQuery.Data.ChartData

/-!
# The fields of chart data

A frame can be read as chart data if it has a column for each field in the schema.
Every cell is then brought to the type that the last entry of its field tells. There is
one row for each row of the frame, and a type for each role whose field is in the
schema.

Main statements: `ChartData.ofFrame_isOk_iff`, `ChartData.typesOf_of_last`,
`ChartData.rowOf_of_last` and `ChartData.ofFrame_of_columns`.
-/

namespace ChartQuery

theorem Schema.has_eq_true {schema : Schema} {name : String} :
    schema.has name = true ↔ name ∈ schema.names := by
  simp [has, names]

theorem Schema.exists_last {schema : Schema} {name : String} (h : name ∈ schema.names) :
    ∃ front entry rest, schema = front ++ entry :: rest ∧ entry.name = name ∧
      name ∉ Schema.names rest := by
  induction schema with
  | nil => cases h
  | cons first schema ih =>
    by_cases later : name ∈ Schema.names schema
    · obtain ⟨front, entry, rest, rfl, same, last⟩ := ih later
      exact ⟨first :: front, entry, rest, rfl, same, last⟩
    · obtain rfl | mem := List.mem_cons.1 h
      · exact ⟨[], first, schema, rfl, rfl, later⟩
      · exact absurd mem later

theorem FieldTypes.fields_present (types : FieldTypes) :
    types.present.map Prod.fst =
      (Role.all.filter fun role => (types.get role).isSome).map Role.field := by
  unfold present PerRole.entries
  induction Role.all with
  | nil => rfl
  | cons role roles ih =>
    cases type : types.get role <;> simpa [type] using ih

namespace Frame

variable {frame : Frame} {name : String}

theorem column?_eq_none : frame.column? name = none ↔ name ∉ frame.map Column.name := by
  simp [column?, List.find?_eq_none]

def cellsOf (frame : Frame) (name : String) : List Cell :=
  ((frame.column? name).map fun column => column.cells.toList).getD []

/-- An entry tells the field of a role, and a frame has no column for it. -/
def Lacks (frame : Frame) (entry : ColumnType) : Prop :=
  (∃ role : Role, role.field = entry.name) ∧ entry.name ∉ frame.map Column.name

end Frame

namespace ChartData

variable {frame : Frame} {names : TypeNames} {schema : Schema} {entry : ColumnType} {role : Role}

/-- The column that an entry describes, if it tells the field of a role. -/
def columnFor? (frame : Frame) (names : TypeNames) (entry : ColumnType) : Option TypedColumn :=
  (Role.ofField? entry.name).map fun role =>
    ⟨role, names.classify entry.type, frame.cellsOf entry.name⟩

theorem typedColumn?_of_lacks (h : frame.Lacks entry) :
    typedColumn? frame names entry = .error (.internal (.noResultColumn entry.name)) := by
  obtain ⟨⟨role, same⟩, absent⟩ := h
  rw [typedColumn?, ← same, Role.ofField?_field, same, Frame.column?_eq_none.2 absent]

theorem typedColumn?_of_not_lacks (h : ¬frame.Lacks entry) :
    typedColumn? frame names entry = .ok (columnFor? frame names entry) := by
  unfold typedColumn? columnFor?
  cases found : Role.ofField? entry.name with
  | none => rfl
  | some role =>
    cases column : frame.column? entry.name with
    | none => exact absurd ⟨⟨role, Role.field_of_ofField? found⟩, Frame.column?_eq_none.1 column⟩ h
    | some column' => simp [Frame.cellsOf, column]

theorem typedColumns_cons (entry : ColumnType) (schema : Schema) :
    typedColumns frame names (entry :: schema) = (do
      let first ← typedColumn? frame names entry
      let rest ← typedColumns frame names schema
      return first.toList ++ rest) := by
  unfold typedColumns
  rw [List.mapM_cons]
  cases typedColumn? frame names entry with
  | error e => rfl
  | ok first =>
    cases schema.mapM (typedColumn? frame names) with
    | error e => rfl
    | ok rest => cases first <;> rfl

theorem typedColumns_ok (h : ∀ entry ∈ schema, ¬frame.Lacks entry) :
    typedColumns frame names schema = .ok (schema.filterMap (columnFor? frame names)) := by
  induction schema with
  | nil => rfl
  | cons entry schema ih =>
    obtain ⟨first, rest⟩ := List.forall_mem_cons.1 h
    rw [typedColumns_cons, typedColumn?_of_not_lacks first, ih rest, List.filterMap_cons]
    cases columnFor? frame names entry <;> rfl

/-- The first entry whose column is not there is reported. -/
theorem typedColumns_error {front rest : Schema} (fine : ∀ entry ∈ front, ¬frame.Lacks entry)
    (lacks : frame.Lacks entry) :
    typedColumns frame names (front ++ entry :: rest) =
      .error (.internal (.noResultColumn entry.name)) := by
  induction front with
  | nil =>
    rw [List.nil_append, typedColumns_cons, typedColumn?_of_lacks lacks]
    rfl
  | cons first front ih =>
    obtain ⟨here, later⟩ := List.forall_mem_cons.1 fine
    rw [List.cons_append, typedColumns_cons, typedColumn?_of_not_lacks here, ih later]
    rfl

theorem lacks_first (frame : Frame) (schema : Schema) :
    (∀ entry ∈ schema, ¬frame.Lacks entry) ∨ ∃ front entry rest,
      schema = front ++ entry :: rest ∧ frame.Lacks entry ∧
        ∀ other ∈ front, ¬frame.Lacks other := by
  induction schema with
  | nil => simp
  | cons entry schema ih =>
    by_cases here : frame.Lacks entry
    · exact .inr ⟨[], entry, schema, rfl, here, by simp⟩
    rcases ih with none | ⟨front, other, rest, rfl, lacks, fine⟩
    · exact .inl (List.forall_mem_cons.2 ⟨here, none⟩)
    · exact .inr ⟨entry :: front, other, rest, rfl, lacks, List.forall_mem_cons.2 ⟨here, fine⟩⟩

theorem ofFrame_ok (labels : Labels) (h : ∀ entry ∈ schema, ¬frame.Lacks entry) :
    ofFrame frame schema names labels = .ok
      { rows := (List.range frame.height).map (rowOf (schema.filterMap (columnFor? frame names)))
        types := typesOf (schema.filterMap (columnFor? frame names))
        labels } := by
  rw [ofFrame, typedColumns_ok h]
  rfl

theorem ofFrame_error {front rest : Schema} (labels : Labels)
    (fine : ∀ entry ∈ front, ¬frame.Lacks entry) (lacks : frame.Lacks entry) :
    ofFrame frame (front ++ entry :: rest) names labels =
      .error (.internal (.noResultColumn entry.name)) := by
  rw [ofFrame, typedColumns_error fine lacks]
  rfl

/-- A frame is read as chart data if it has a column for each field in the schema. -/
theorem ofFrame_isOk_iff {labels : Labels} :
    (∃ data, ofFrame frame schema names labels = .ok data) ↔
      ∀ entry ∈ schema, ¬frame.Lacks entry := by
  constructor
  · rintro ⟨data, read⟩
    rcases lacks_first frame schema with none | ⟨front, entry, rest, rfl, lacks, fine⟩
    · exact none
    · rw [ofFrame_error labels fine lacks] at read
      cases read
  · exact fun h => ⟨_, ofFrame_ok labels h⟩

section Fold

variable {β : Type} {step : PerRole β → TypedColumn → PerRole β} {columns : List TypedColumn}

theorem get_foldl_of_other
    (keeps : ∀ v column, column.role ≠ role → (step v column).get role = v.get role)
    (other : ∀ column ∈ columns, column.role ≠ role) (v : PerRole β) :
    (columns.foldl step v).get role = v.get role := by
  induction columns generalizing v with
  | nil => rfl
  | cons column columns ih =>
    obtain ⟨first, rest⟩ := List.forall_mem_cons.1 other
    rw [List.foldl_cons, ih rest, keeps v column first]

theorem get_setType (types : FieldTypes) (column : TypedColumn) (other : column.role ≠ role) :
    (types.set column.role (some column.type)).get role = types.get role := by
  rw [PerRole.get_set, if_neg other.symm]

def setCell (i : Nat) (row : Row) (column : TypedColumn) : Row :=
  match column.cells[i]? with
  | some cell => row.set column.role (some (cell.coerce column.type))
  | none => row

theorem rowOf_eq (columns : List TypedColumn) (i : Nat) :
    rowOf columns i = columns.foldl (setCell i) (PerRole.const none) := rfl

theorem get_setCell (i : Nat) (row : Row) (column : TypedColumn) (other : column.role ≠ role) :
    (setCell i row column).get role = row.get role := by
  unfold setCell
  split
  · rw [PerRole.get_set, if_neg other.symm]
  · rfl

end Fold

section Entries

variable {front rest : Schema}

theorem role_ne_of_notMem (absent : role.field ∉ schema.names) :
    ∀ column ∈ schema.filterMap (columnFor? frame names), column.role ≠ role := by
  rintro column mem rfl
  obtain ⟨entry, listed, made⟩ := List.mem_filterMap.1 mem
  obtain ⟨role, found, rfl⟩ := Option.map_eq_some_iff.1 made
  have named : role.field = entry.name := Role.field_of_ofField? found
  exact absent (List.mem_map.2 ⟨entry, listed, named.symm⟩)

theorem columns_split (named : entry.name = role.field) :
    (front ++ entry :: rest).filterMap (columnFor? frame names) =
      front.filterMap (columnFor? frame names) ++
        ⟨role, names.classify entry.type, frame.cellsOf role.field⟩ ::
          rest.filterMap (columnFor? frame names) := by
  have column : columnFor? frame names entry =
      some ⟨role, names.classify entry.type, frame.cellsOf role.field⟩ := by
    rw [columnFor?, named, Role.ofField?_field]
    rfl
  rw [List.filterMap_append, List.filterMap_cons, column]

theorem typesOf_of_notMem (absent : role.field ∉ schema.names) :
    (typesOf (schema.filterMap (columnFor? frame names))).get role = none := by
  rw [typesOf, get_foldl_of_other get_setType (role_ne_of_notMem absent), PerRole.get_const]

theorem rowOf_of_notMem (absent : role.field ∉ schema.names) (i : Nat) :
    (rowOf (schema.filterMap (columnFor? frame names)) i).get role = none := by
  rw [rowOf_eq, get_foldl_of_other (get_setCell i) (role_ne_of_notMem absent),
    PerRole.get_const]

/-- The last entry of a field tells its type. -/
theorem typesOf_of_last (named : entry.name = role.field) (last : role.field ∉ rest.names) :
    (typesOf ((front ++ entry :: rest).filterMap (columnFor? frame names))).get role =
      some (names.classify entry.type) := by
  rw [columns_split named, typesOf, List.foldl_append, List.foldl_cons,
    get_foldl_of_other get_setType (role_ne_of_notMem last), PerRole.get_set, if_pos rfl]

/-- A cell is brought to the type that the last entry of its field tells. -/
theorem rowOf_of_last (named : entry.name = role.field) (last : role.field ∉ rest.names)
    {i : Nat} {cell : Cell} (here : (frame.cellsOf role.field)[i]? = some cell) :
    (rowOf ((front ++ entry :: rest).filterMap (columnFor? frame names)) i).get role =
      some (cell.coerce (names.classify entry.type)) := by
  rw [columns_split named, rowOf_eq, List.foldl_append, List.foldl_cons,
    get_foldl_of_other (get_setCell i) (role_ne_of_notMem last)]
  simp only [setCell, here, PerRole.get_set, if_true]

end Entries

/-- A frame with the columns of a schema is read as a whole. -/
theorem ofFrame_of_columns (labels : Labels)
    (h : ∀ name ∈ schema.names, name ∈ frame.map Column.name) :
    ∃ data, ofFrame frame schema names labels = .ok data ∧ data.rows.length = frame.height ∧
      ∀ role, (data.types.get role).isSome ↔ role.field ∈ schema.names := by
  have fine (entry : ColumnType) (mem : entry ∈ schema) : ¬frame.Lacks entry :=
    fun lacks => lacks.2 (h entry.name (List.mem_map_of_mem mem))
  refine ⟨_, ofFrame_ok labels fine, by simp, fun role => ?_⟩
  by_cases mem : role.field ∈ schema.names
  · obtain ⟨front, entry, rest, rfl, named, last⟩ := Schema.exists_last mem
    simp only [typesOf_of_last named last, Option.isSome_some, mem]
  · simp [typesOf_of_notMem mem, mem]

end ChartData

end ChartQuery
