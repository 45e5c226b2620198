import ChartQuery.Run.Program

/-!
# Scopes

A scope holds temporary tables. It can be cleaned up at any time, which drops
the tables it holds, and it is cleaned up when it ends.
-/

namespace ChartQuery

/-- The tables that a scope holds, the last one first. -/
structure Scope where
  held : List TempTable := []
  deriving DecidableEq, Repr

namespace Scope

def names (scope : Scope) : List String :=
  scope.held.reverse.map TempTable.name

inductive Step where
  | allocate (purpose : TempPurpose)
  | cleanup
  /-- Nothing but a look at the names. -/
  | look
  deriving DecidableEq, Repr

def cleanup (scope : Scope) : Program Scope := do
  Program.dropEach scope.held
  return {}

def perform (scope : Scope) : Step → Program Scope
  | .allocate purpose => do
    let table ← Program.temp purpose
    return ⟨table :: scope.held⟩
  | .cleanup => scope.cleanup
  | .look => return scope

def performAll (scope : Scope) : List Step → Program Scope
  | [] => return scope
  | step :: rest => do (← scope.perform step).performAll rest

def lifetime (steps : List Step) : Program Unit := do
  let _ ← (← performAll {} steps).cleanup

end Scope

end ChartQuery
