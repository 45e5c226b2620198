import ChartQuery.Plan.Names
import Std.Data.String.ToNat

/-!
# Names of temporary tables

The name of a temporary table tells what it is for, and within a session it
tells the number too.
-/

namespace ChartQuery.TempTable

/-- A table for one purpose never has the name of a table for another, in any
session. -/
theorem purpose_of_name {a b : TempTable} (h : a.name = b.name) : a.purpose = b.purpose := by
  have chars := congrArg String.toList h
  simp only [name, String.toList_append, List.append_assoc, List.append_cancel_left_eq] at chars
  cases ha : a.purpose <;> cases hb : b.purpose <;>
    simp [ha, hb, TempPurpose.word] at chars <;> rfl

theorem name_injective {a b : TempTable} (session : a.session = b.session)
    (h : a.name = b.name) : a = b := by
  have purpose := purpose_of_name h
  have chars := congrArg String.toList h
  simp only [name, String.toList_append, purpose, session, List.append_assoc,
    List.append_cancel_left_eq, List.append_cancel_right_eq, String.toList_inj] at chars
  have number : a.number = b.number := Nat.repr_injective chars
  cases a
  cases b
  simp_all

end ChartQuery.TempTable
