import ChartQuery.Number.Decimal

/-!
# JSON values

Requests come in as JSON and chart data goes out as JSON. A number is an
integer or, if it has a fraction or an exponent, a decimal; it becomes a double
only when a field asks for one, so a number is rounded once.
A record may be written as an object, whose members have names, or as an
array, whose items have places; `Fields` covers both.
-/

namespace ChartQuery

inductive Json where
  | null
  | bool (value : Bool)
  | integer (value : Int)
  | real (value : Decimal)
  | string (value : String)
  | array (items : List Json)
  | object (members : List (String × Json))

namespace Json

def member? (name : String) : Json → Option Json
  | .object members => members.lookup name
  | _ => none

/-- A double as JSON. What is not finite has no number there. -/
def ofDouble (x : Double) : Json :=
  match x.toDecimal? with
  | some d => .real d
  | none => .null

def ofOption {α : Type} (f : α → Json) : Option α → Json
  | some a => f a
  | none => .null

def ofStrings (texts : List String) : Json := .array (texts.map .string)

def ofPresent (members : List (String × Option Json)) : Json :=
  .object (members.filterMap fun (name, value) => value.map (name, ·))

def toString? : Json → Option String
  | .string s => some s
  | _ => none

def toBool? : Json → Option Bool
  | .bool b => some b
  | _ => none

/-- A number as the double nearest to it. One that is too large for a double is refused. -/
def toDouble? : Json → Option Double
  | .integer n => finite? (.ofInt n)
  | .real d => finite? d.toDouble
  | _ => none
where
  finite? (x : Double) : Option Double := if x.isFinite then some x else none

def toInt? : Json → Option Int
  | .integer n => some n
  | _ => none

/-- An array of texts and of nothing else. -/
def toStrings? : Json → Option (List String)
  | .array items => items.mapM toString?
  | _ => none

/-- A value that `null` leaves out. -/
def optional? {α : Type} (read : Json → Option α) : Json → Option (Option α)
  | .null => some none
  | json => (read json).map some

/-- A word of an enumeration: its text, or an object whose only member has that
name and the value `null`. -/
def toWord? : Json → Option String
  | .string s => some s
  | .object [(name, .null)] => some name
  | _ => none

/-- The fields of a record, by name or by place. -/
inductive Fields where
  | named (members : List (String × Json))
  | placed (items : List Json)

/-- None of these names is the name of two members. -/
def Unrepeated (names : List String) (members : List (String × Json)) : Prop :=
  ∀ name ∈ names, (members.map Prod.fst).count name ≤ 1

instance (names : List String) (members : List (String × Json)) :
    Decidable (Unrepeated names members) :=
  List.decidableBAll _ names

/-- The fields of a record that has fields of these names. An object may have other members,
but no two for one field. An array may leave out fields at its end, and has none beyond them. -/
def fields? (names : List String) : Json → Option Fields
  | .object members => if Unrepeated names members then some (.named members) else none
  | .array items => if items.length ≤ names.length then some (.placed items) else none
  | _ => none

namespace Fields

def get? (name : String) (place : Nat) : Fields → Option Json
  | .named members => members.lookup name
  | .placed items => items[place]?

/-- A field that has a default when it is left out. -/
def read? {α : Type} (fields : Fields) (name : String) (place : Nat) (default : α)
    (read : Json → Option α) : Option α :=
  match fields.get? name place with
  | some json => read json
  | none => some default

end Fields

end Json

end ChartQuery
