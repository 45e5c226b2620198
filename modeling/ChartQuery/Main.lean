import ChartQuery.CommandLine

/-!
# The program

The program reads its arguments, draws the name of a session and prints.
-/

namespace ChartQuery.CommandLine

/-- A fresh session: thirty-two hexadecimal digits. -/
def freshSession : IO String := do
  let digits ← (List.range 32).mapM fun _ => return Nat.digitChar (← IO.rand 0 15)
  return String.ofList digits

end ChartQuery.CommandLine

def main (arguments : List String) : IO UInt32 := do
  match ChartQuery.CommandLine.plan (← ChartQuery.CommandLine.freshSession) arguments with
  | .ok text =>
    IO.println text
    return 0
  | .error fault =>
    IO.eprintln fault.message
    return fault.status
