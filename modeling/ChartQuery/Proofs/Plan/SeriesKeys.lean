import ChartQuery.Proofs.Plan.Roles

/-!
# Keys of rotated series

A rotated table that has a series already gets a key in its place: the name of the rotated
column and the values of the series, joined by `concat_ws`. That function leaves out what
is null, and puts the separator between the others. Cut at the separators, a key gives the
pieces of the name and of the values, one after another (`splitOn_join`), and this is all
that it tells. Where a text ends is lost if a separator stands in it, and so is the place of
a null. Only the last value may be any text or null.

Main statement: `series_keys_agree_iff`.
-/

namespace ChartQuery

namespace SeriesKey

/-- What `concat_ws` gives: the texts that are not null, with the separator between them. -/
def join (separator : String) (texts : List (Option String)) : String :=
  separator.intercalate (texts.filterMap id)

/-- The pieces between the separators of the texts. A null has none. -/
def pieces (texts : List (Option String)) : List (List Char) :=
  (texts.filterMap id).flatMap fun text => text.toList.splitOn '-'

/-- No text before the last one holds a separator. -/
def Separable (texts : List (Option String)) : Prop :=
  ∀ text ∈ texts.dropLast.filterMap id, '-' ∉ text.toList

instance (texts : List (Option String)) : Decidable (Separable texts) :=
  List.decidableBAll _ (texts.dropLast.filterMap id)

def places (texts : List (Option String)) : List Bool := texts.dropLast.map Option.isSome

theorem Separable.tail {first second : Option String} {texts : List (Option String)}
    (h : Separable (first :: second :: texts)) : Separable (second :: texts) := by
  intro text mem
  refine h text ?_
  rw [List.dropLast_cons_cons, List.filterMap_cons]
  split
  · exact mem
  · exact List.mem_cons_of_mem _ mem

/-- Joined lists are cut into the pieces of each. -/
theorem splitOn_joined {lists : List (List Char)} (some : lists ≠ []) (c : Char) :
    ([c].intercalate lists).splitOn c = lists.flatMap (List.splitOn c) := by
  induction lists with
  | nil => exact absurd rfl some
  | cons a lists ih =>
    cases lists with
    | nil => simp
    | cons b lists =>
      rw [List.intercalate_cons_cons, List.append_assoc, List.singleton_append, List.splitOn,
        List.splitOnP_append_cons _ _ (by simp), List.flatMap_cons, ← ih (by simp)]
      rfl

/-- Cut at the separators, a key gives the pieces of its texts. -/
theorem splitOn_join {texts : List (Option String)} (some : texts.filterMap id ≠ []) :
    (join Names.separator texts).toList.splitOn '-' = pieces texts := by
  have separator : Names.separator.toList = ['-'] := by decide
  rw [join, String.toList_intercalate, separator, splitOn_joined (by simpa using some),
    pieces, List.flatMap_map]

theorem splitOn_injective {s t : String} (same : s.toList.splitOn '-' = t.toList.splitOn '-') :
    s = t := by
  have joined := congrArg (['-'].intercalate) same
  rw [List.intercalate_splitOn, List.intercalate_splitOn] at joined
  exact String.toList_injective joined

theorem join_eq_iff {texts texts' : List (Option String)} (some : texts.filterMap id ≠ [])
    (some' : texts'.filterMap id ≠ []) :
    join Names.separator texts = join Names.separator texts' ↔ pieces texts = pieces texts' := by
  rw [← splitOn_join some, ← splitOn_join some']
  exact ⟨fun same => by rw [same], splitOn_injective⟩

theorem pieces_cons_plain {text : String} (plain : '-' ∉ text.toList)
    (texts : List (Option String)) : pieces (some text :: texts) = text.toList :: pieces texts := by
  have whole : text.toList.splitOn '-' = [text.toList] :=
    List.splitOnP_eq_singleton fun c mem => by
      simpa using fun same : c = '-' => plain (same ▸ mem)
  simp [pieces, whole]

theorem eq_of_pieces_last {text? text?' : Option String} (same : pieces [text?] = pieces [text?']) :
    text? = text?' := by
  have cut (s : String) : s.toList.splitOn '-' ≠ [] := List.splitOnP_ne_nil _ _
  cases text? <;> cases text?' <;> simp [pieces, cut, Ne.symm (cut _)] at same ⊢
  exact splitOn_injective same

/-- Separable texts are told by their pieces, if their number and their places are known. -/
theorem eq_of_pieces_eq {texts texts' : List (Option String)}
    (length : texts.length = texts'.length) (placed : places texts = places texts')
    (apart : Separable texts) (apart' : Separable texts') (same : pieces texts = pieces texts') :
    texts = texts' := by
  induction texts generalizing texts' with
  | nil => exact (List.length_eq_zero_iff.1 length.symm).symm
  | cons first texts ih =>
    obtain ⟨first', texts', rfl⟩ := List.exists_cons_of_length_eq_add_one length.symm
    have rest : texts.length = texts'.length := by simpa using length
    cases texts with
    | nil =>
      obtain rfl : texts' = [] := List.length_eq_zero_iff.1 rest.symm
      rw [eq_of_pieces_last same]
    | cons second texts =>
      obtain ⟨second', texts', rfl⟩ := List.exists_cons_of_length_eq_add_one rest.symm
      simp only [places, List.dropLast_cons_cons, List.map_cons, List.cons.injEq] at placed
      have later := ih rest placed.2 apart.tail apart'.tail
      cases first with
      | none =>
        obtain rfl : first' = none := by simpa using placed.1.symm
        rw [later same]
      | some text =>
        obtain ⟨text', rfl⟩ := Option.isSome_iff_exists.1 placed.1.symm
        rw [pieces_cons_plain (apart text (by simp)), pieces_cons_plain (apart' text' (by simp)),
          List.cons.injEq] at same
        rw [String.toList_injective same.1, later same.2]

end SeriesKey

/-- A row of a rotated table: the name of the column that it comes from, the value there,
and the texts of the columns that are not rotated. What is missing is null. -/
structure RotatedRow where
  key : String
  value : Option String
  text : String → Option String

def Operand.text? (row : RotatedRow) : Operand → Option String
  | column name => row.text name
  | key => some row.key
  | value => row.value

/-- The text that an expression has in a row. -/
def Expression.text? (row : RotatedRow) : Expression → Option String
  | single operand => operand.text? row
  | joined operands => some (SeriesKey.join Names.separator (operands.map (Operand.text? row)))

namespace Reshape

/-- The name of the rotated column, and the texts of the series as they are configured. -/
def combination (plan : Reshape) (row : RotatedRow) : List (Option String) :=
  some row.key :: plan.encoding.series.map row.text

variable {plan : Reshape}

theorem rotatedSeries_text? (series : plan.encoding.series ≠ []) (row : RotatedRow) :
    plan.rotatedSeries.text? row =
      some (SeriesKey.join Names.separator (plan.combination row)) := by
  rw [rotatedSeries, if_neg (by simpa using series)]
  simp [Expression.text?, combination, Operand.text?, Function.comp_def]

theorem rotatedSeries_sql (series : plan.encoding.series ≠ []) :
    plan.rotatedSeries.sql = "concat_ws('-', \"__sqlchart_key__\", " ++
      commaSeparated (plan.encoding.series.map fun name => "CAST(" ++ quoteName name ++
        " AS VARCHAR)") ++ ")" := by
  have front : "concat_ws('-', \"__sqlchart_key__\", " =
      "concat_ws(" ++ quoteText Names.separator ++ ", " ++ (quoteName Names.key ++ ", ") := by
    decide +kernel
  have casts : plan.encoding.series.map (Operand.textSql ∘ Operand.column) ≠ [] := by
    simpa using series
  rw [rotatedSeries, if_neg (by simpa using series), front]
  simp only [Expression.sql, commaSeparated, List.map_cons, List.map_map,
    String.intercalate_cons_of_ne_nil casts, String.append_assoc]
  rfl

theorem mem_items_series (rotates : plan.shape.rotates) :
    (.series, plan.rotatedSeries) ∈ plan.items := by
  rw [mem_items, expression?_series, if_pos rotates]

theorem series_of_shape {mark : Mark} {encoding : Encoding}
    (shape : (Reshape.plan mark encoding).shape = .unpivotWithSeries) :
    (Reshape.plan mark encoding).encoding.series ≠ [] := by
  change Shape.classify mark (transpose mark encoding) = _ at shape
  change (transpose mark encoding).series ≠ []
  simp only [Shape.classify] at shape
  split at shape
  · cases shape
  · split at shape
    · rename_i set
      simpa [Encoding.isSet, PerRole.get] using set
    · cases shape

end Reshape

open SeriesKey

/-- A rotated table with a series of its own has as its series the names of the rotated
columns and the texts of that series, joined by `concat_ws`. Two rows have the same key
exactly if the pieces between the separators are the same. So rows that differ have
different keys if no text before the last one holds a separator, and if before the last one
there are nulls at the same places. -/
theorem series_keys_agree_iff {mark : Mark} {encoding : Encoding}
    (shape : (Reshape.plan mark encoding).shape = .unpivotWithSeries) :
    let plan := Reshape.plan mark encoding
    ∃ e, (Role.series, e) ∈ plan.items ∧
      e.sql = "concat_ws('-', \"__sqlchart_key__\", " ++
        commaSeparated (plan.encoding.series.map fun name => "CAST(" ++ quoteName name ++
          " AS VARCHAR)") ++ ")" ∧
      ∃ key : RotatedRow → String, (∀ row, e.text? row = some (key row)) ∧
        ∀ row row', let texts := plan.combination row
          let texts' := plan.combination row'
          (key row = key row' ↔ pieces texts = pieces texts') ∧
          (places texts = places texts' → Separable texts → Separable texts' →
            texts ≠ texts' → key row ≠ key row') := by
  intro plan
  have series : plan.encoding.series ≠ [] := Reshape.series_of_shape shape
  have rotates : plan.shape.rotates := by rw [shape]; rfl
  have some (row : RotatedRow) : (plan.combination row).filterMap id ≠ [] := by
    simp [Reshape.combination]
  refine ⟨plan.rotatedSeries, Reshape.mem_items_series rotates, Reshape.rotatedSeries_sql series,
    fun row => join Names.separator (plan.combination row),
    fun row => Reshape.rotatedSeries_text? series row, fun row row' => ?_⟩
  have agree := join_eq_iff (some row) (some row')
  refine ⟨agree, fun placed apart apart' different same => different ?_⟩
  have length : (plan.combination row).length = (plan.combination row').length := by
    simp [Reshape.combination]
  exact eq_of_pieces_eq length placed apart apart' (agree.1 same)

def pricesByBoard : Request where
  table := "stocks"
  mark := some .barY
  encoding :=
    { Encoding.empty with x := ["Date"], y := ["Open", "Close"], series := ["Market", "Board"] }

def boardRow (key : String) (market board : Option String) : RotatedRow where
  key
  value := none
  text name := if name = "Market" then market else board

theorem pricesByBoard_keys_differ :
    let plan := Reshape.plan .barY pricesByBoard.encoding
    plan.shape = .unpivotWithSeries ∧ ∃ e, (Role.series, e) ∈ plan.items ∧
      e.text? (boardRow "Open" (some "US") (some "East-A")) ≠
        e.text? (boardRow "Open" (some "US") none) := by
  intro plan
  obtain ⟨e, mem, -, key, text, keys⟩ :=
    @series_keys_agree_iff .barY pricesByBoard.encoding rfl
  refine ⟨rfl, e, mem, ?_⟩
  rw [text, text, ne_eq, Option.some.injEq]
  exact (keys _ _).2 rfl (by decide +kernel) (by decide +kernel) (by decide)

/-- A market or a board with a separator in its name is enough for two of them to share a
key, and so is a null. -/
theorem pricesByBoard_share_keys :
    let plan := Reshape.plan .barY pricesByBoard.encoding
    pricesByBoard.validate = .ok .barY ∧ plan.shape = .unpivotWithSeries ∧
      "Open" ∈ plan.rotated ∧ ∃ e, (Role.series, e) ∈ plan.items ∧
        (let row := boardRow "Open" (some "US-East") (some "A")
        let row' := boardRow "Open" (some "US") (some "East-A")
        plan.combination row ≠ plan.combination row' ∧ e.text? row = e.text? row') ∧
        (let row := boardRow "Open" (some "US") none
        let row' := boardRow "Open" none (some "US")
        plan.combination row ≠ plan.combination row' ∧ e.text? row = e.text? row') := by
  intro plan
  refine ⟨rfl, rfl, by decide, plan.rotatedSeries, Reshape.mem_items_series rfl, ?_, ?_⟩
  · decide +kernel
  · decide +kernel

end ChartQuery
