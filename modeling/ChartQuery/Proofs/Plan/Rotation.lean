import ChartQuery.Proofs.Plan.SourceColumns

/-!
# Rotations

A rotation takes the columns of the value axis out of the source, and puts their values
and names into two generated columns. It is well formed if it takes no column twice, and
if no other role needs a column that it takes. The roles of a request are lists that do
not know of each other, and no rule keeps a column from standing in two places of them.
So a rotation is as well formed as the request.

Main statement: `rotation_well_formed_iff`.
-/

namespace ChartQuery

open Reshape

/-- A rotation that takes each column once, and none that another role refers to. -/
structure RotatesWell (plan : Reshape) : Prop where
  once : plan.rotated.Nodup
  apart : ∀ role name, role ≠ plan.mark.valueAxis → plan.Uses role name → name ∉ plan.rotated

/-- A request that names each column of the value axis once, and nowhere else. -/
structure StacksApart (mark : Mark) (encoding : Encoding) : Prop where
  once : (encoding.get mark.valueAxis).Nodup
  apart : ∀ role, role ≠ mark.valueAxis →
    ∀ name ∈ encoding.get role, name ∉ encoding.get mark.valueAxis

variable {mark : Mark} {encoding : Encoding}

/-- The rotated columns are those of the value axis, as they are listed there. -/
theorem rotated_eq (rotates : (Reshape.plan mark encoding).shape.rotates) :
    (Reshape.plan mark encoding).rotated = encoding.get mark.valueAxis := by
  rw [rotated_plan, if_pos rotates, transpose_valueAxis]

/-- Off the value axis, a plan refers to what the encoding names there. -/
theorem exists_uses_iff {name : String} (facet : mark.isGrouped → encoding.fx = []) :
    (∃ role, role ≠ mark.valueAxis ∧ (Reshape.plan mark encoding).Uses role name) ↔
      ∃ role, role ≠ mark.valueAxis ∧ name ∈ encoding.get role := by
  rw [← mem_transpose facet]
  refine exists_congr fun role => and_congr_right fun other => ?_
  rw [uses_plan]
  exact and_iff_right fun h => other h.2

theorem rotatesWell_iff (facet : mark.isGrouped → encoding.fx = [])
    (rotates : (Reshape.plan mark encoding).shape.rotates) :
    RotatesWell (Reshape.plan mark encoding) ↔ StacksApart mark encoding := by
  have same := rotated_eq rotates
  constructor
  · intro well
    refine ⟨same ▸ well.once, fun role other name mem => ?_⟩
    obtain ⟨role, other, uses⟩ := (exists_uses_iff facet).2 ⟨role, other, mem⟩
    exact same ▸ well.apart role name other uses
  · intro stacked
    refine ⟨same ▸ stacked.once, fun role name other uses => ?_⟩
    obtain ⟨role, other, mem⟩ := (exists_uses_iff facet).1 ⟨role, other, uses⟩
    exact same ▸ stacked.apart role other name mem

/-- The statement of a rotating request lists the columns of the value axis as the
request does. The rotation is well formed if the request names each of them once and in
no other role, and only then. -/
theorem rotation_well_formed_iff {request : Request} (valid : request.validate = .ok mark)
    (rotates : (Reshape.plan mark request.encoding).shape ≠ .standard) :
    (∀ source, (Reshape.plan mark request.encoding).sourceSql source =
      source ++ " UNPIVOT INCLUDE NULLS (" ++ quoteName Names.value ++ " FOR " ++
        quoteName Names.key ++ " IN (" ++ nameList (request.encoding.get mark.valueAxis) ++ "))") ∧
    (RotatesWell (Reshape.plan mark request.encoding) ↔ StacksApart mark request.encoding) := by
  obtain ⟨-, placed⟩ := Request.validate_ok valid
  have turns : (Reshape.plan mark request.encoding).shape.rotates := by
    simpa [Shape.rotates] using rotates
  refine ⟨fun source => ?_, rotatesWell_iff placed.facet turns⟩
  rw [sourceSql, if_pos turns, rotated_eq turns]

def priceBars : Request where
  table := "stocks"
  mark := some .barY
  encoding := { Encoding.empty with x := ["Date"], y := ["Open", "Close"] }

theorem priceBars_rotates_well :
    priceBars.validate = .ok .barY ∧
      (Reshape.plan .barY priceBars.encoding).shape ≠ .standard ∧
      RotatesWell (Reshape.plan .barY priceBars.encoding) := by
  have rotates : (Reshape.plan .barY priceBars.encoding).shape ≠ .standard := by decide
  have stacked : StacksApart .barY priceBars.encoding := by
    refine ⟨by decide, fun role other => ?_⟩
    cases role <;> first | exact absurd rfl other | decide
  exact ⟨rfl, rotates, (rotation_well_formed_iff rfl rotates).2.2 stacked⟩

/-- Neither is a matter of course: bars may name a price twice, or name it as their text. -/
theorem rotations_may_overlap :
    let twice := { priceBars with
      encoding := { priceBars.encoding with y := ["Open", "Close", "Open"] } }
    let shared := { priceBars with encoding := { priceBars.encoding with text := ["Open"] } }
    (twice.validate = .ok .barY ∧ (Reshape.plan .barY twice.encoding).shape = .unpivot ∧
      ¬(Reshape.plan .barY twice.encoding).rotated.Nodup) ∧
    shared.validate = .ok .barY ∧ (Reshape.plan .barY shared.encoding).shape = .unpivot ∧
      (Reshape.plan .barY shared.encoding).Uses .text "Open" ∧
      "Open" ∈ (Reshape.plan .barY shared.encoding).rotated := by
  refine ⟨⟨rfl, rfl, by decide⟩, rfl, rfl, ?_, by decide⟩
  exact ⟨.single (.column "Open"), by decide, by decide⟩

end ChartQuery
