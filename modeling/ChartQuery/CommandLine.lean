import ChartQuery.Chart.Spelling
import ChartQuery.Plan.Reshape
import ChartQuery.Request.Validation

/-!
# The command line

The command `plan` prints the statement that reshapes the source of a chart,
without any database: the mark, the table and the columns of each role are
options, and the options of the roles may be repeated.
-/

namespace ChartQuery.CommandLine

/-- What is wrong with a command: its form, or the request that it makes. -/
inductive Fault where
  | usage (text : String)
  | request (error : Error)
  deriving DecidableEq, Repr

def usage : String :=
  "Usage: plan --type <TYPE> [--table <TABLE>] [--catalog <CATALOG>] " ++
    "[--x <X>] [--y <Y>] [--series <SERIES>] [--fx <FX>] [--fy <FY>] [--r <R>] [--text <TEXT>]"

namespace Fault

def message : Fault → String
  | usage text => "error: " ++ text ++ "\n\n" ++ CommandLine.usage
  | request error => "Error: " ++ error.message

def status : Fault → UInt32
  | usage _ => 2
  | request _ => 1

end Fault

def roleOption? (option : String) : Option Role :=
  Role.all.find? fun role => "--" ++ role.field == option

def withOption (request : Request) (option value : String) : Except Fault Request :=
  match option, roleOption? option with
  | "--type", _ =>
    match Mark.ofText value with
    | .ok mark => .ok { request with mark := some mark }
    | .error e => .error (.usage e.message)
  | "--table", _ => .ok { request with table := value }
  | "--catalog", _ => .ok { request with catalog := some value }
  | _, some role =>
    .ok { request with
          encoding := request.encoding.set role (request.encoding.get role ++ [value]) }
  | _, none => .error (.usage ("unexpected argument '" ++ option ++ "' found"))

def readOptions (request : Request) : List String → Except Fault Request
  | [] => .ok request
  | [option] => .error (.usage ("a value is required for '" ++ option ++ "' but none was supplied"))
  | option :: value :: rest =>
    match withOption request option value with
    | .ok request => readOptions request rest
    | .error fault => .error fault

def read : List String → Except Fault Request
  | "plan" :: options => readOptions {} options
  | command :: _ => .error (.usage ("unrecognized subcommand '" ++ command ++ "'"))
  | [] => .error (.usage "a subcommand is required")

/-- What the command prints. -/
def plan (session : String) (arguments : List String) : Except Fault String := do
  let request ← read arguments
  let mark ← request.validate.mapError Fault.request
  let plan := Reshape.plan mark request.encoding
  let table : TempTable := ⟨.reshape, session, 0⟩
  let source := tableReference request.catalog request.table
  let sql ← (plan.sql source (quoteName table.name)).mapError Fault.request
  return "-- " ++ plan.shape.name ++ " plan\n" ++ sql ++ ";"

end ChartQuery.CommandLine
