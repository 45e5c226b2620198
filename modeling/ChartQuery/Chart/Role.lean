/-!
# Roles

A chart has seven roles, and a column of the source table plays one or more of
them. Each role is also the name of a field of the reshaped table, in the
order given here. `PerRole` is a record with one entry for each.
-/

namespace ChartQuery

inductive Role where
  | x
  | y
  | series
  | fx
  | fy
  | r
  | text
  deriving DecidableEq, Repr

namespace Role

def all : List Role := [x, y, series, fx, fy, r, text]

/-- The field of the reshaped table that holds a role. -/
def field : Role → String
  | x => "x"
  | y => "y"
  | series => "series"
  | fx => "fx"
  | fy => "fy"
  | r => "r"
  | text => "text"

def ofField? (name : String) : Option Role :=
  all.find? fun role => role.field == name

theorem mem_all (role : Role) : role ∈ all := by cases role <;> decide

theorem ofField?_field (role : Role) : ofField? role.field = some role := by
  cases role <;> decide

theorem field_of_ofField? {name : String} {role : Role} (h : ofField? name = some role) :
    role.field = name := by
  simpa using List.find?_some h

theorem field_injective {a b : Role} (h : a.field = b.field) : a = b := by
  have := ofField?_field a
  rw [h, ofField?_field b] at this
  exact (Option.some.inj this).symm

end Role

/-- One value for each role. -/
structure PerRole (α : Type) where
  x : α
  y : α
  series : α
  fx : α
  fy : α
  r : α
  text : α
  deriving DecidableEq, Repr

namespace PerRole

variable {α β : Type}

def const (a : α) : PerRole α := ⟨a, a, a, a, a, a, a⟩

def get (v : PerRole α) : Role → α
  | .x => v.x
  | .y => v.y
  | .series => v.series
  | .fx => v.fx
  | .fy => v.fy
  | .r => v.r
  | .text => v.text

def set (v : PerRole α) (role : Role) (a : α) : PerRole α :=
  match role with
  | .x => { v with x := a }
  | .y => { v with y := a }
  | .series => { v with series := a }
  | .fx => { v with fx := a }
  | .fy => { v with fy := a }
  | .r => { v with r := a }
  | .text => { v with text := a }

def entries (v : PerRole α) : List (String × α) :=
  Role.all.map fun role => (role.field, v.get role)

@[simp] theorem get_const (a : α) (role : Role) : (const a).get role = a := by
  cases role <;> rfl

theorem get_set (v : PerRole α) (role other : Role) (a : α) :
    (v.set role a).get other = if other = role then a else v.get other := by
  cases role <;> cases other <;> rfl

theorem ext_get {v w : PerRole α} (h : ∀ role, v.get role = w.get role) : v = w := by
  cases v
  cases w
  simp only [PerRole.mk.injEq]
  exact ⟨h .x, h .y, h .series, h .fx, h .fy, h .r, h .text⟩

end PerRole

end ChartQuery
