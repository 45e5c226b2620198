import ChartQuery.Request.Basic

/-!
# Validation of requests

A request is checked before any statement is issued. Only the axis of the
values may have several columns, and grouped bars keep the horizontal facet
for their categories. The first rule that a request breaks is reported.
-/

namespace ChartQuery.Request

def require (holds : Bool) (fault : ConfigurationFault) : Except Error Unit :=
  if holds then .ok () else .error (.configuration fault)

def validateEncoding (mark : Mark) (encoding : Encoding) : Except Error Unit := do
  require (!Encoding.isEmpty encoding) .noColumns
  require (encoding.x.length ≤ 1 || mark.isHorizontal) (.severalX mark encoding.x)
  require (encoding.y.length ≤ 1 || !mark.isHorizontal) (.severalY mark encoding.y)
  require (encoding.r.length ≤ 1) (.severalRadii encoding.r.length)
  if mark.isGrouped then
    require (1 < (encoding.get mark.valueAxis).length || Encoding.isSet encoding .series)
      (.noSeries mark)
    require (!Encoding.isSet encoding .fx) (.facetTaken mark)

/-- The mark of a request that breaks no rule. -/
def validate (request : Request) : Except Error Mark :=
  match request.mark with
  | none => .error (.configuration .noMark)
  | some mark => do
    require (!Text.isBlank request.table || request.effectivePreQuery.isSome) .noTable
    validateEncoding mark request.encoding
    return mark

end ChartQuery.Request
