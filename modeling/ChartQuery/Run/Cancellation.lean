/-!
# Cancellation

A run may be cancelled from outside, before it starts or while the engine
answers one of its statements. It finds out at the next point at which it
looks.

Callers hold tokens. A copy of a token shares its flag, so that cancelling
through one of them is seen through all.
-/

namespace ChartQuery

/-- When a run is cancelled. Statements are counted from zero, and drops do not
count. -/
inductive Cancellation where
  | never
  | before
  | during (statement : Nat)
  deriving DecidableEq, Repr

namespace Cancellation

def isRequested (cancellation : Cancellation) (answered : Nat) : Bool :=
  match cancellation with
  | never => false
  | before => true
  | during statement => statement < answered

end Cancellation

/-- The flags, and for each token the flag that it shares. -/
structure Tokens where
  flags : List Bool := [false]
  handles : List Nat := [0]
  deriving DecidableEq, Repr

namespace Tokens

def cancel (tokens : Tokens) (token : Nat) : Tokens :=
  match tokens.handles[token]? with
  | some flag => { tokens with flags := tokens.flags.set flag true }
  | none => tokens

def copy (tokens : Tokens) (token : Nat) : Tokens :=
  match tokens.handles[token]? with
  | some flag => { tokens with handles := tokens.handles ++ [flag] }
  | none => tokens

def fresh (tokens : Tokens) : Tokens where
  flags := tokens.flags ++ [false]
  handles := tokens.handles ++ [tokens.flags.length]

def states (tokens : Tokens) : List Bool :=
  tokens.handles.map fun flag => tokens.flags.getD flag false

end Tokens

end ChartQuery
