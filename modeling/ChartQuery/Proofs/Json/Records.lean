import ChartQuery.Proofs.Json.TextRoundtrip
import ChartQuery.Proofs.Number.Decimals
import Mathlib.Data.List.Nodup

/-!
# Records in JSON

What is written of a value is one of the ways to spell it. A value survives if it is read back
from what is written of it.
-/

namespace ChartQuery

namespace Json

section Values

variable {α : Type} {read : Json → Option α} {write : α → Json}

/-- A value is read back from what is written of it, and from the text of that. -/
def RoundTrips (read : Json → Option α) (write : α → Json) (value : α) : Prop :=
  read (write value) = some value ∧ (ofText? (write value).text).bind read = some value

theorem roundTrips_iff {value : α} :
    RoundTrips read write value ↔ read (write value) = some value := by
  rw [RoundTrips, ofText?_text, Option.bind_some, and_self]

/-- A value that may be missing is written as `null` if it is, and not otherwise. -/
theorem optional?_ofOption (back : ∀ value, read (write value) = some value)
    (solid : ∀ value, write value ≠ .null) (value : Option α) :
    optional? read (ofOption write value) = some value := by
  cases value with
  | none => rfl
  | some value =>
    change optional? read (write value) = _
    unfold optional?
    split
    · exact absurd ‹_› (solid value)
    · rw [back value]
      rfl

theorem optional?_ofText (text : Option String) :
    optional? toString? (ofOption .string text) = some text := by
  cases text <;> rfl

end Values

theorem finite?_eq_some {x y : Double} (h : toDouble?.finite? x = some y) :
    x = y ∧ y.isFinite := by
  unfold toDouble?.finite? at h
  split at h
  · cases Option.some.inj h
    exact ⟨rfl, ‹_›⟩
  · cases h

theorem isNumber_of_toDouble? {json : Json} {x : Double} (h : json.toDouble? = some x) :
    x.IsNumber := by
  cases json with
  | integer n =>
    obtain ⟨rfl, finite⟩ := finite?_eq_some (x := .ofInt n) h
    exact Double.isNumber_ofInt finite
  | real d =>
    obtain ⟨rfl, finite⟩ := finite?_eq_some (x := d.toDouble) h
    exact Double.isNumber_toDouble finite
  | _ => cases h

theorem toDouble?_ofDouble {x : Double} (h : x.IsNumber) : (ofDouble x).toDouble? = some x := by
  obtain ⟨d, written, read⟩ := h.toDouble_toDecimal
  rw [ofDouble, written]
  change toDouble?.finite? d.toDouble = _
  rw [read]
  exact if_pos h.isFinite

/-- This is a power of two. The digits over a power of ten that is itself rounded would be the
next double. -/
example : (ofText? "5.684341886080802e-14").bind toDouble? =
    some (.finite false (2 ^ 52) (-96)) := by
  rfl

theorem fields?_object {names : List String} {members : List (String × Json)} {fields : Fields} :
    (Json.object members).fields? names = some fields ↔
      Unrepeated names members ∧ fields = .named members := by
  change (if Unrepeated names members then some (Fields.named members) else none) = some fields ↔ _
  split <;> simp [*, eq_comm]

theorem fields?_array {names : List String} {items : List Json} {fields : Fields} :
    (Json.array items).fields? names = some fields ↔
      items.length ≤ names.length ∧ fields = .placed items := by
  change (if items.length ≤ names.length then some (Fields.placed items) else none) = some fields ↔
    _
  split <;> simp [*, eq_comm]

/-- The members of an object that are present. -/
def present (members : List (String × Option Json)) : List (String × Json) :=
  members.filterMap fun (name, value) => value.map (name, ·)

theorem mem_present {members : List (String × Option Json)} {name : String} {json : Json} :
    (name, json) ∈ present members ↔ (name, some json) ∈ members := by
  simp only [present, List.mem_filterMap, Option.map_eq_some_iff, Prod.mk.injEq]
  constructor
  · rintro ⟨⟨other, value⟩, mem, own, rfl, rfl, rfl⟩
    exact mem
  · intro mem
    exact ⟨_, mem, json, rfl, rfl, rfl⟩

theorem names_present_sublist (members : List (String × Option Json)) :
    ((present members).map Prod.fst).Sublist (members.map Prod.fst) := by
  induction members with
  | nil => exact .slnil
  | cons member members ih =>
    obtain ⟨name, _ | json⟩ := member
    · exact ih.cons name
    · exact ih.cons_cons name

theorem Unrepeated.of_nodup {names : List String} {members : List (String × Json)}
    (distinct : (members.map Prod.fst).Nodup) : Unrepeated names members :=
  fun name _ => List.nodup_iff_count_le_one.1 distinct name

/-- A member is found by its name if no other one has it. -/
theorem lookup_present {members : List (String × Option Json)} {name : String}
    {value : Option Json} (distinct : (members.map Prod.fst).Nodup)
    (mem : (name, value) ∈ members) : (present members).lookup name = value := by
  induction members with
  | nil => cases mem
  | cons member members ih =>
    obtain ⟨first, own⟩ := member
    obtain ⟨unlike, rest⟩ := List.nodup_cons.1 distinct
    obtain same | later := List.mem_cons.1 mem
    · cases same
      cases value with
      | some json => exact List.lookup_cons_self
      | none =>
        refine List.lookup_eq_none_iff.2 fun (other, json) kept => ?_
        have mem : (other, some json) ∈ members := mem_present.1 kept
        simp only [bne_iff_ne]
        rintro rfl
        exact unlike (List.mem_map.2 ⟨_, mem, rfl⟩)
    · have other : name ≠ first := by
        rintro rfl
        exact unlike (List.mem_map.2 ⟨_, later, rfl⟩)
      cases own with
      | none => exact ih rest later
      | some json =>
        change ((first, json) :: present members).lookup name = value
        rw [List.lookup_cons, beq_false_of_ne other]
        exact ih rest later

theorem toStrings?_eq_some {json : Json} {names : List String} :
    json.toStrings? = some names ↔ json = .ofStrings names := by
  constructor
  · intro h
    cases json with
    | array items =>
      change items.mapM toString? = some names at h
      rw [ofStrings]
      congr
      induction items generalizing names with
      | nil =>
        cases h
        rfl
      | cons item items ih =>
        rw [List.mapM_cons] at h
        obtain ⟨name, read, h⟩ := Option.bind_eq_some_iff.1 h
        obtain ⟨names, others, h⟩ := Option.bind_eq_some_iff.1 h
        cases h
        cases item <;> cases read
        rw [ih others]
        rfl
    | _ => cases h
  · rintro rfl
    induction names with
    | nil => rfl
    | cons name names ih =>
      change (names.map string).mapM toString? = some names at ih
      change ((name :: names).map string).mapM toString? = some (name :: names)
      rw [List.map_cons, List.mapM_cons, ih]
      rfl

end Json

end ChartQuery
