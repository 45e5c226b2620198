import ChartQuery.Proofs.Data.Fields

/-!
# Chart data cell by cell

Chart data hold the cells of a frame, each in its place and brought to the type of its
field. A value is of that type or nothing, and a text is never lost.

Main statement: `chart_data_is_pointwise`.
-/

namespace ChartQuery

def Value.kind? : Value → Option FieldType
  | null => none
  | number _ => some .number
  | date _ => some .date
  | text _ => some .text

/-- The columns of a frame have equal length. -/
def Frame.IsRectangular (frame : Frame) : Prop :=
  ∀ column ∈ frame, column.cells.toList.length = frame.height

namespace Cell

theorem toNumber_kind (cell : Cell) :
    cell.toNumber = .null ∨ cell.toNumber.kind? = some .number := by
  unfold toNumber
  split
  · cases Double.ofText? _
    · exact .inl rfl
    · exact .inr rfl
  · cases number? _
    · exact .inl rfl
    · exact .inr rfl

theorem toDate_kind (cell : Cell) : cell.toDate = .null ∨ cell.toDate.kind? = some .date := by
  unfold toDate
  cases cell.dateTime?
  · exact .inl rfl
  · exact .inr rfl

theorem toText_kind (cell : Cell) : cell.toText = .null ∨ cell.toText.kind? = some .text := by
  cases cell with
  | null => exact .inl rfl
  | _ => exact .inr rfl

theorem toText_eq_null {cell : Cell} : cell.toText = .null ↔ cell = .null := by
  cases cell with
  | null => simp [toText]
  | _ => simp [toText]

/-- A value is a cell brought to a type. -/
structure Becomes (cell : Cell) (type : FieldType) (value : Value) : Prop where
  eq : value = cell.coerce type
  kind : value = .null ∨ value.kind? = some type
  missing : cell = .null → value = .null
  text : type = .text → value = .null → cell = .null

theorem becomes_coerce (cell : Cell) (type : FieldType) : cell.Becomes type (cell.coerce type) where
  eq := rfl
  kind := by
    cases type with
    | number => exact cell.toNumber_kind
    | date => exact cell.toDate_kind
    | text => exact cell.toText_kind
  missing none := by rw [none, coerce_null]
  text only null := by
    subst only
    exact toText_eq_null.1 null

end Cell

namespace ChartData

/-- The data are those of a frame, cell by cell. -/
structure IsPointwise (frame : Frame) (schema : Schema) (names : TypeNames) (data : ChartData) :
    Prop where
  height : data.rows.length = frame.height
  /-- A field that the schema does not have is nowhere. -/
  absent : ∀ role : Role, role.field ∉ schema.names →
    data.types.get role = none ∧ ∀ row ∈ data.rows, row.get role = none
  /-- The last entry of a field tells its type, and each row has the cell in its place. -/
  present : ∀ (role : Role) (front : Schema) (entry : ColumnType) (rest : Schema),
    schema = front ++ entry :: rest → entry.name = role.field → role.field ∉ rest.names →
      ∃ column, frame.column? role.field = some column ∧
        data.types.get role = some (names.classify entry.type) ∧
        ∀ (i : Nat) (row : Row), data.rows[i]? = some row → ∃ cell value,
          column.cells.toList[i]? = some cell ∧ row.get role = some value ∧
            cell.Becomes (names.classify entry.type) value

variable {frame : Frame} {schema : Schema} {names : TypeNames}

/-- A row of a rectangular frame has a cell in each of its columns. -/
theorem exists_cell (rectangular : frame.IsRectangular) {column : Column} {name : String}
    (found : frame.column? name = some column) {i : Nat} (row : i < frame.height) :
    ∃ cell, column.cells.toList[i]? = some cell := by
  have length := rectangular column (List.mem_of_find?_eq_some found)
  exact ⟨_, List.getElem?_eq_getElem (length ▸ row)⟩

theorem eq_rowOf_of_getElem? {columns : List TypedColumn} {height i : Nat} {row : Row}
    (here : ((List.range height).map (rowOf columns))[i]? = some row) :
    i < height ∧ row = rowOf columns i := by
  obtain ⟨place, rfl⟩ := List.getElem?_eq_some_iff.1 here
  exact ⟨by simpa using place, by simp⟩

theorem ofFrame_isPointwise {labels : Labels} {data : ChartData}
    (rectangular : frame.IsRectangular) (read : ofFrame frame schema names labels = .ok data) :
    data.labels = labels ∧ IsPointwise frame schema names data := by
  have fine := ofFrame_isOk_iff.1 ⟨data, read⟩
  cases Except.ok.inj (read.symm.trans (ofFrame_ok labels fine))
  refine ⟨rfl, ⟨by simp, fun role absent => ⟨typesOf_of_notMem absent, ?_⟩, ?_⟩⟩
  · intro row mem
    obtain ⟨i, -, rfl⟩ := List.mem_map.1 mem
    exact rowOf_of_notMem absent i
  · rintro role front entry rest rfl named last
    cases found : frame.column? role.field with
    | none =>
      rw [← named] at found
      exact absurd ⟨⟨role, named.symm⟩, Frame.column?_eq_none.1 found⟩ (fine entry (by simp))
    | some column =>
      refine ⟨column, rfl, typesOf_of_last named last, fun i row here => ?_⟩
      obtain ⟨place, rfl⟩ := eq_rowOf_of_getElem? here
      obtain ⟨cell, cells⟩ := exists_cell rectangular found place
      have made : (frame.cellsOf role.field)[i]? = some cell := by
        simpa [Frame.cellsOf, found] using cells
      exact ⟨cell, _, cells, rowOf_of_last named last made, cell.becomes_coerce _⟩

end ChartData

open ChartData

/-- A frame is read with a schema if it has a column for each field that the schema has,
and otherwise the first entry whose column is not there is reported. What is read has a row
for each row of the frame, and every cell in its place, brought to the type that the last
entry of its field tells. Fields that the schema does not have are left out. -/
theorem chart_data_is_pointwise {frame : Frame} (rectangular : frame.IsRectangular)
    (schema : Schema) (names : TypeNames) (labels : Labels) :
    ((∃ data, ofFrame frame schema names labels = .ok data) ↔
      ∀ role : Role, role.field ∈ schema.names → role.field ∈ frame.map Column.name) ∧
    (∀ e, ofFrame frame schema names labels = .error e → ∃ front entry rest,
      schema = front ++ entry :: rest ∧ frame.Lacks entry ∧ (∀ other ∈ front, ¬frame.Lacks other) ∧
        e = .internal (.noResultColumn entry.name)) ∧
    ∀ data, ofFrame frame schema names labels = .ok data →
      data.labels = labels ∧ IsPointwise frame schema names data := by
  refine ⟨ofFrame_isOk_iff.trans ?_, ?_, fun data => ofFrame_isPointwise rectangular⟩
  · constructor
    · intro fine role listed
      obtain ⟨entry, mem, named⟩ := List.mem_map.1 listed
      have some := fine entry mem
      simpa [Frame.Lacks, named] using some
    · rintro present entry mem ⟨⟨role, named⟩, absent⟩
      rw [← named] at absent
      exact absent (present role (named ▸ List.mem_map_of_mem mem))
  · intro e failed
    rcases lacks_first frame schema with none | ⟨front, entry, rest, rfl, lacks, fine⟩
    · rw [ofFrame_ok labels none] at failed
      cases failed
    · rw [ofFrame_error labels fine lacks] at failed
      exact ⟨front, entry, rest, rfl, lacks, fine, (Except.error.inj failed).symm⟩

def priceFrame : Frame :=
  [⟨"x", .texts [some "Oslo", none]⟩, ⟨"y", .integers .i32 [none, some 3]⟩]

/-- A schema out of order, with an entry that is no field and two for `y`. -/
def priceSchema : Schema :=
  [⟨"y", "VARCHAR"⟩, ⟨"extra", "INTEGER"⟩, ⟨"x", "VARCHAR"⟩, ⟨"y", "DOUBLE"⟩]

/-- The prices are read, and the last entry makes them numbers. -/
theorem priceFrame_is_pointwise :
    ∃ data : ChartData, ofFrame priceFrame priceSchema .duckdb { x := some "City" } = .ok data ∧
      data.labels = { x := some "City" } ∧ data.rows.length = 2 ∧
      data.types.get .y = some .number ∧ data.types.get .series = none ∧
      ∀ row, data.rows[1]? = some row → row.get .y = some (.number (.ofInt 3)) := by
  have rectangular : priceFrame.IsRectangular := by
    unfold Frame.IsRectangular
    decide
  obtain ⟨reads, -, pointwise⟩ :=
    chart_data_is_pointwise rectangular priceSchema .duckdb { x := some "City" }
  obtain ⟨data, read⟩ := reads.2 fun role listed => by
    cases role <;> revert listed <;> decide
  obtain ⟨labelled, shown⟩ := pointwise data read
  obtain ⟨column, found, type, cells⟩ :=
    shown.present .y [⟨"y", "VARCHAR"⟩, ⟨"extra", "INTEGER"⟩, ⟨"x", "VARCHAR"⟩] ⟨"y", "DOUBLE"⟩ []
      rfl rfl (by decide)
  have double : TypeNames.duckdb.classify "DOUBLE" = .number := by decide
  rw [double] at type cells
  refine ⟨data, read, labelled, shown.height, type, (shown.absent .series (by decide)).1, ?_⟩
  intro row here
  obtain ⟨cell, value, place, has, becomes⟩ := cells 1 row here
  cases found
  cases place
  rw [has, becomes.eq]
  rfl

end ChartQuery
