import ChartQuery.Proofs.Request.Spellings
import ChartQuery.Request.Basic
import ChartQuery.Sql.Condition

/-!
# Requests, labels and conditions survive

Whatever is read from JSON is read back from what is written of it, as a value and as a text.
A number was rounded when it was read, and is written as a decimal that is rounded to the same
double. No value is taken for one of another kind, since the kinds are written in forms that
only they are read from. What is never read, and would not be read back, is an empty name of a
column and a number that is not finite.

Main statement: `typed_values_survive`.
-/

namespace ChartQuery

open Json

namespace Labels

theorem ofJson?_toJson (labels : Labels) : ofJson? labels.toJson = some labels := by
  obtain ⟨x | x, y | y, series | series⟩ := labels <;> rfl

end Labels

namespace Comparand

/-- If it is a number, it is finite and in the form of a double. -/
def IsFinite : Comparand → Prop
  | number x => x.IsNumber
  | _ => True

theorem isFinite_of_read {json : Json} {value : Comparand} (h : ofJson? json = some value) :
    value.IsFinite := by
  cases value with
  | null | truth | text | fuzzy => trivial
  | number x =>
    cases json with
    | object members =>
      simp only [ofJson?, Option.bind_eq_bind, Option.bind_eq_some_iff] at h
      obtain ⟨_, -, _, -, _, -, same⟩ := h
      cases same
    | integer n =>
      obtain ⟨y, read, ⟨⟩⟩ := Option.map_eq_some_iff.1 h
      exact isNumber_of_toDouble? read
    | real d =>
      obtain ⟨y, read, ⟨⟩⟩ := Option.map_eq_some_iff.1 h
      exact isNumber_of_toDouble? read
    | _ => cases h

theorem ofJson?_toJson {value : Comparand} (finite : value.IsFinite) :
    ofJson? value.toJson = some value := by
  cases value with
  | null | truth | text | fuzzy => rfl
  | number x =>
    obtain ⟨d, written, -⟩ := Double.IsNumber.toDouble_toDecimal finite
    have back := toDouble?_ofDouble finite
    simp only [toJson, ofDouble, written] at back ⊢
    rw [ofJson?, back]
    all_goals simp

end Comparand

namespace Condition

theorem isFinite_of_read {json : Json} {condition : Condition}
    (h : ofJson? json = some condition) : condition.value.IsFinite := by
  simp only [ofJson?, Option.bind_eq_bind, Option.bind_eq_some_iff] at h
  obtain ⟨fields, -, -, -, column, -, -, -, -, -, operator, -, written, -, value, read, same⟩ := h
  cases same
  exact Comparand.isFinite_of_read read

theorem ofJson?_toJson {condition : Condition} (finite : condition.value.IsFinite) :
    ofJson? condition.toJson = some condition := by
  obtain ⟨column, operator, value⟩ := condition
  change ((Operator.ofName? operator.name).bind fun operator =>
    (Comparand.ofJson? value.toJson).bind fun value =>
      some (Condition.mk column operator value)) = _
  rw [Operator.ofName?_name, Option.bind_some, Comparand.ofJson?_toJson finite]
  rfl

end Condition

namespace Request

theorem optional?_mark (mark : Option Mark) :
    optional? Mark.ofJson? (.ofOption Mark.toJson mark) = some mark :=
  optional?_ofOption Mark.ofName?_name (fun _ => Json.noConfusion) mark

theorem optional?_aggregate (aggregate : Option Aggregate) :
    optional? Aggregate.ofJson? (.ofOption Aggregate.toJson aggregate) = some aggregate :=
  optional?_ofOption Aggregate.ofName?_name (fun _ => Json.noConfusion) aggregate

theorem named_of_read {json : Json} {request : Request} (h : ofJson? json = some request)
    (role : Role) : "" ∉ request.encoding.get role := by
  simp only [ofJson?, Option.bind_eq_bind, Option.bind_eq_some_iff] at h
  obtain ⟨_, -, _, -, _, -, encoding, read, _, -, _, -, _, -, _, -, same⟩ := h
  cases same
  unfold Fields.read? at read
  split at read
  · exact (Encoding.ofJson?_eq_some.1 read).named role
  · cases read
    rw [Encoding.empty, PerRole.get_const]
    exact List.not_mem_nil

theorem ofJson?_toJson {request : Request} (named : ∀ role, "" ∉ request.encoding.get role) :
    ofJson? request.toJson = some request := by
  have members : ofJson? request.toJson = do
      let mark ← optional? Mark.ofJson? (.ofOption Mark.toJson request.mark)
      let encoding ← Encoding.ofJson? request.encoding.toJson
      let preQuery ← optional? toString? (.ofOption .string request.preQuery)
      let catalog ← optional? toString? (.ofOption .string request.catalog)
      let aggregate ← optional? Aggregate.ofJson? (.ofOption Aggregate.toJson request.aggregate)
      let labels ← Labels.ofJson? request.labels.toJson
      return { table := request.table, mark, encoding, preQuery, catalog, aggregate, labels } :=
    rfl
  rw [members, optional?_mark, Encoding.ofJson?_toJson named, optional?_ofText, optional?_ofText,
    optional?_aggregate, Labels.ofJson?_toJson]
  rfl

end Request

open Encoding in
/-- A request, an encoding, labels or a condition that was read from a document is read back
from what is written of it. Only a request or an encoding with an empty name, and a condition
with a number that is not finite, would not be, and none of these is ever read. An encoding is
read from a document exactly if the document spells it, each role in one of several ways and
none of them twice; all spellings of an encoding have one normal form, which has an array of
names for each role that has columns, and nothing else; and that is its own normal form. -/
theorem typed_values_survive (document : Json) :
    ((∀ request, Request.ofJson? document = some request →
        RoundTrips Request.ofJson? Request.toJson request) ∧
      ∀ request, RoundTrips Request.ofJson? Request.toJson request ↔
        ∀ role, "" ∉ request.encoding.get role) ∧
    ((∀ labels, Labels.ofJson? document = some labels →
        RoundTrips Labels.ofJson? Labels.toJson labels) ∧
      ∀ labels, RoundTrips Labels.ofJson? Labels.toJson labels) ∧
    ((∀ condition, Condition.ofJson? document = some condition →
        RoundTrips Condition.ofJson? Condition.toJson condition) ∧
      ∀ condition, RoundTrips Condition.ofJson? Condition.toJson condition ↔
        condition.value.IsFinite) ∧
    ((∀ encoding, Encoding.ofJson? document = some encoding →
        RoundTrips Encoding.ofJson? Encoding.toJson encoding) ∧
      (∀ encoding, RoundTrips Encoding.ofJson? Encoding.toJson encoding ↔
        ∀ role, "" ∉ encoding.get role) ∧
      (∀ encoding, Encoding.ofJson? document = some encoding ↔ Spelling document encoding) ∧
      ∀ encoding, Spelling document encoding → ∃ members,
        normalForm? document = some (.object members) ∧
        normalForm? (.object members) = some (.object members) ∧
        toJson encoding = .object members ∧
        (members.map Prod.fst).Nodup ∧
        (∀ role, Normal (members.lookup role.field) (encoding.get role)) ∧
        ∀ name ∈ members.map Prod.fst, ∃ role : Role,
          role.field = name ∧ encoding.get role ≠ []) := by
  simp only [roundTrips_iff]
  refine ⟨⟨fun request read => Request.ofJson?_toJson (Request.named_of_read read),
      fun request => ⟨Request.named_of_read, Request.ofJson?_toJson⟩⟩,
    ⟨fun labels _ => labels.ofJson?_toJson, Labels.ofJson?_toJson⟩,
    ⟨fun condition read => Condition.ofJson?_toJson (Condition.isFinite_of_read read),
      fun condition => ⟨Condition.isFinite_of_read, Condition.ofJson?_toJson⟩⟩,
    fun encoding read => ofJson?_toJson (ofJson?_eq_some.1 read).named,
    fun encoding => ⟨fun read => (ofJson?_eq_some.1 read).named, ofJson?_toJson⟩,
    fun encoding => ofJson?_eq_some, fun encoding spelled => ?_⟩
  obtain ⟨members, written, distinct, normal, complete⟩ := spelled.normal
  have form : normalForm? document = some (.object members) := by
    rw [spelled.normalForm?, written]
  exact ⟨members, form, normalForm?_idempotent form, written, distinct, normal, complete⟩

/-- A column, an array with an empty name, `null`, an empty name, and two roles left out. -/
def spelledColumns : Json :=
  .array [.string "region", .ofStrings ["amount", "", "tax"], .null, .string "", .array []]

def spelledRequest : Json :=
  .array [.string "sales", .object [("barY", .null)], spelledColumns, .null, .null, .string "mean"]

/-- The number is the zero below zero. -/
def spelledCondition : Json :=
  .object [("value", .real ⟨true, 0, -1⟩), ("operator", .string "gtEq"), ("column", .string "tax")]

theorem spelled_values_survive :
    let columns : Encoding := { Encoding.empty with x := ["region"], y := ["amount", "tax"] }
    let request : Request :=
      { table := "sales", mark := some .barY, encoding := columns, aggregate := some .avg }
    let condition : Condition := ⟨"tax", .gtEq, .number (.finite true 0 (-1074))⟩
    let labels : Labels := { y := some "Tax" }
    (Request.ofJson? spelledRequest = some request ∧
      RoundTrips Request.ofJson? Request.toJson request) ∧
    (Labels.ofJson? (.array [.null, .string "Tax"]) = some labels ∧
      RoundTrips Labels.ofJson? Labels.toJson labels) ∧
    (Condition.ofJson? spelledCondition = some condition ∧
      RoundTrips Condition.ofJson? Condition.toJson condition) ∧
    (Encoding.ofJson? spelledColumns = some columns ∧
      RoundTrips Encoding.ofJson? Encoding.toJson columns) ∧
    Encoding.normalForm? spelledColumns =
      some (.object [("x", .ofStrings ["region"]), ("y", .ofStrings ["amount", "tax"])]) := by
  intro columns request condition labels
  have asRequest : Request.ofJson? spelledRequest = some request := rfl
  have asLabels : Labels.ofJson? (.array [.null, .string "Tax"]) = some labels := rfl
  have asCondition : Condition.ofJson? spelledCondition = some condition := rfl
  have asColumns : Encoding.ofJson? spelledColumns = some columns := rfl
  exact ⟨⟨asRequest, (typed_values_survive _).1.1 _ asRequest⟩,
    ⟨asLabels, (typed_values_survive _).2.1.1 _ asLabels⟩,
    ⟨asCondition, (typed_values_survive _).2.2.1.1 _ asCondition⟩,
    ⟨asColumns, (typed_values_survive _).2.2.2.1 _ asColumns⟩, rfl⟩

end ChartQuery
