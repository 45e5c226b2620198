import ChartQuery.Chart.Encoding
import ChartQuery.Proofs.Json.Records

/-!
# Spellings of encodings

The columns of a role are spelled as a text, as an array, by `null`, or not at all, and the
roles are told apart by their names or by their order. An encoding is written in one of these
ways, and that is read as the same encoding.

Main statements: `Encoding.ofJson?_eq_some`, `Encoding.normalForm?_idempotent`.
-/

namespace ChartQuery

open Json

namespace Encoding

variable {encoding : Encoding} {role : Role} {json : Json}

/-- The ways to spell the columns of a role. An empty name is left out wherever it stands. -/
inductive Spells : Option Json → List String → Prop where
  | missing : Spells none []
  | null : Spells (some .null) []
  | empty : Spells (some (.string "")) []
  | single {name : String} (named : name ≠ "") : Spells (some (.string name)) [name]
  | array (names : List String) :
      Spells (some (.ofStrings names)) (names.filter fun name => name ≠ "")

theorem Spells.named {written : Option Json} {columns : List String} (h : Spells written columns) :
    "" ∉ columns := by
  cases h with
  | missing | null | empty => exact List.not_mem_nil
  | single named => simpa using named.symm
  | array names => simp

/-- The place of a role in an encoding that is written as an array. -/
def place (role : Role) : Nat := Role.all.idxOf role

/-- How JSON spells an encoding: by the names of the roles, none of them twice, or by their
order. -/
inductive Spelling : Json → Encoding → Prop where
  | object {members : List (String × Json)} {encoding : Encoding}
      (unrepeated : Unrepeated (Role.all.map Role.field) members)
      (roles : ∀ role, Spells (members.lookup role.field) (encoding.get role)) :
      Spelling (.object members) encoding
  | array {items : List Json} {encoding : Encoding} (fits : items.length ≤ 7)
      (roles : ∀ role, Spells items[place role]? (encoding.get role)) :
      Spelling (.array items) encoding

/-- The spelling that is written: no member if a role has no column, and otherwise an array of
names. -/
inductive Normal : Option Json → List String → Prop where
  | missing : Normal none []
  | array {columns : List String} (nonempty : columns ≠ []) (named : "" ∉ columns) :
      Normal (some (.ofStrings columns)) columns

/-- What an encoding is written as that was read from JSON. -/
def normalForm? (json : Json) : Option Json := (ofJson? json).map toJson

theorem readColumns?_ofStrings (names : List String) :
    readColumns? (.ofStrings names) = some (names.filter fun name => name ≠ "") := by
  have read : (Json.ofStrings names).toStrings? = some names := toStrings?_eq_some.2 rfl
  change (Json.ofStrings names).toStrings?.map _ = _
  rw [read, Option.map_some]
  congr
  funext name
  by_cases empty : name = "" <;> simp [empty]

theorem readColumns?_eq_some {columns : List String} :
    readColumns? json = some columns ↔ Spells (some json) columns := by
  constructor
  · intro h
    cases json with
    | null =>
      cases h
      exact .null
    | string name =>
      cases h
      by_cases empty : name = ""
      · subst empty
        exact .empty
      · have kept : [name].filter (fun name => !name.isEmpty) = [name] := by simp [empty]
        rw [kept]
        exact .single empty
    | array items =>
      obtain ⟨names, read, -⟩ := Option.map_eq_some_iff.1 h
      rw [toStrings?_eq_some.1 read] at h ⊢
      rw [readColumns?_ofStrings, Option.some.injEq] at h
      exact h ▸ .array names
    | _ => cases h
  · rintro (_ | _ | _ | named | names)
    · rfl
    · rfl
    · simp [readColumns?, named]
    · exact readColumns?_ofStrings names

theorem read?_eq_some {fields : Fields} {name : String} {place : Nat} {columns : List String} :
    fields.read? name place [] readColumns? = some columns ↔
      Spells (fields.get? name place) columns := by
  unfold Fields.read?
  cases fields.get? name place with
  | none =>
    constructor
    · rintro ⟨⟩
      exact .missing
    · rintro ⟨⟩
      rfl
  | some json => exact readColumns?_eq_some

theorem ofJson?_eq_some_iff_fields :
    ofJson? json = some encoding ↔
      ∃ fields, json.fields? (Role.all.map Role.field) = some fields ∧
        ∀ role, Spells (fields.get? role.field (place role)) (encoding.get role) := by
  simp only [ofJson?, Option.bind_eq_bind, Option.bind_eq_some_iff, read?_eq_some]
  constructor
  · rintro ⟨fields, form, x, hx, y, hy, series, hs, fx, hfx, fy, hfy, r, hr, text, ht, same⟩
    cases same
    refine ⟨fields, form, fun role => ?_⟩
    cases role <;> assumption
  · rintro ⟨fields, form, spelled⟩
    exact ⟨fields, form, _, spelled .x, _, spelled .y, _, spelled .series, _, spelled .fx, _,
      spelled .fy, _, spelled .r, _, spelled .text, rfl⟩

theorem ofJson?_eq_some : ofJson? json = some encoding ↔ Spelling json encoding := by
  rw [ofJson?_eq_some_iff_fields]
  constructor
  · rintro ⟨fields, form, roles⟩
    cases json with
    | object members =>
      obtain ⟨unrepeated, rfl⟩ := fields?_object.1 form
      exact .object unrepeated roles
    | array items =>
      obtain ⟨fits, rfl⟩ := fields?_array.1 form
      exact .array fits roles
    | _ => cases form
  · rintro (⟨unrepeated, roles⟩ | ⟨fits, roles⟩)
    · exact ⟨_, fields?_object.2 ⟨unrepeated, rfl⟩, roles⟩
    · exact ⟨_, fields?_array.2 ⟨fits, rfl⟩, roles⟩

def members (encoding : Encoding) : List (String × Option Json) :=
  encoding.entries.map fun (name, columns) =>
    (name, if columns.isEmpty then none else some (.ofStrings columns))

theorem toJson_eq (encoding : Encoding) : toJson encoding = .object (present (members encoding)) :=
  rfl

theorem nodup_members (encoding : Encoding) : ((members encoding).map Prod.fst).Nodup := by
  have fields : (members encoding).map Prod.fst = Role.all.map Role.field := rfl
  rw [fields]
  decide

theorem nodup_present (encoding : Encoding) :
    ((present (members encoding)).map Prod.fst).Nodup :=
  (names_present_sublist _).nodup (nodup_members encoding)

theorem lookup_members (encoding : Encoding) (role : Role) :
    (present (members encoding)).lookup role.field =
      if (encoding.get role).isEmpty then none else some (.ofStrings (encoding.get role)) := by
  apply lookup_present (nodup_members encoding)
  refine List.mem_map.2 ⟨(role.field, encoding.get role), ?_, rfl⟩
  exact List.mem_map.2 ⟨role, role.mem_all, rfl⟩

theorem normal_lookup (named : ∀ role, "" ∉ encoding.get role) (role : Role) :
    Normal ((present (members encoding)).lookup role.field) (encoding.get role) := by
  rw [lookup_members]
  split
  · rename_i none
    rw [List.isEmpty_iff.1 none]
    exact .missing
  · exact .array (fun none => ‹¬_› (List.isEmpty_iff.2 none)) (named role)

theorem Normal.spells {written : Option Json} {columns : List String} (h : Normal written columns) :
    Spells written columns := by
  cases h with
  | missing => exact .missing
  | array nonempty named =>
    have kept : columns.filter (fun name => name ≠ "") = columns := by
      refine List.filter_eq_self.2 fun name mem => ?_
      simpa using ne_of_mem_of_not_mem mem named
    have spelled := Spells.array columns
    rwa [kept] at spelled

theorem Spelling.named (h : Spelling json encoding) (role : Role) : "" ∉ encoding.get role := by
  cases h with
  | object unrepeated roles => exact (roles role).named
  | array fits roles => exact (roles role).named

/-- An encoding without empty names is read back. -/
theorem ofJson?_toJson (named : ∀ role, "" ∉ encoding.get role) :
    ofJson? (toJson encoding) = some encoding :=
  ofJson?_eq_some.2 (.object (.of_nodup (nodup_present encoding)) fun role =>
    (normal_lookup named role).spells)

/-- What is written is in normal form. -/
theorem Spelling.normal (h : Spelling json encoding) :
    ∃ members, toJson encoding = .object members ∧ (members.map Prod.fst).Nodup ∧
      (∀ role, Normal (members.lookup role.field) (encoding.get role)) ∧
      ∀ name ∈ members.map Prod.fst, ∃ role : Role, role.field = name ∧ encoding.get role ≠ [] := by
  refine ⟨_, toJson_eq encoding, nodup_present encoding, normal_lookup h.named,
    fun name mem => ?_⟩
  obtain ⟨⟨_, json⟩, written, rfl⟩ := List.mem_map.1 mem
  obtain ⟨⟨_, columns⟩, entry, same⟩ := List.mem_map.1 (mem_present.1 written)
  obtain ⟨role, -, own⟩ := List.mem_map.1 entry
  cases own
  refine ⟨role, congrArg Prod.fst same, fun none => ?_⟩
  have written := congrArg Prod.snd same
  simp [none] at written

theorem Spelling.normalForm? (h : Spelling json encoding) :
    Encoding.normalForm? json = some (toJson encoding) := by
  rw [Encoding.normalForm?, ofJson?_eq_some.2 h, Option.map_some]

/-- A normal form is its own normal form. -/
theorem normalForm?_idempotent {normal : Json} (h : normalForm? json = some normal) :
    normalForm? normal = some normal := by
  obtain ⟨encoding, read, rfl⟩ := Option.map_eq_some_iff.1 h
  rw [normalForm?, ofJson?_toJson (ofJson?_eq_some.1 read).named, Option.map_some]

end Encoding

end ChartQuery
