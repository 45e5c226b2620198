import ChartQuery.Plan.Names
import ChartQuery.Run.Cancellation
import ChartQuery.Source.Frame
import ChartQuery.Sql.Statement

/-!
# Programs

A program is what a run does, step by step: it takes the name of a temporary
table, looks whether it is cancelled, or sends a statement and goes on with the
reply. It says nothing about the engine, so one program can be run against any
replies, and several programs can be run in turns.

`Program.run` runs a program by itself. The transcript lists its statements
with their replies, in order.
-/

namespace ChartQuery

abbrev Reply := Except Error Frame

inductive Program (α : Type) where
  | done (result : Except Error α)
  | allocate (purpose : TempPurpose) (next : TempTable → Program α)
  | poll (next : Bool → Program α)
  | submit (statement : Statement) (next : Reply → Program α)

namespace Program

variable {α β : Type}

/-- Go on with the value of a program, unless it failed. -/
def bind : Program α → (α → Program β) → Program β
  | done (.ok a), f => f a
  | done (.error e), _ => done (.error e)
  | allocate purpose next, f => allocate purpose fun table => (next table).bind f
  | poll next, f => poll fun cancelled => (next cancelled).bind f
  | submit statement next, f => submit statement fun reply => (next reply).bind f

instance : Monad Program where
  pure a := done (.ok a)
  bind := bind

def temp (purpose : TempPurpose) : Program TempTable :=
  allocate purpose pure

def checkpoint : Program Unit :=
  poll fun cancelled => if cancelled then done (.error .cancelled) else pure ()

def ask (statement : Statement) : Program Frame :=
  submit statement done

/-- The reply to a statement that is sent only if the run is not cancelled. -/
def execute (statement : Statement) : Program Frame := do
  checkpoint
  ask statement

/-- Drop tables in the given order. A refusal does not matter. -/
def dropEach : List TempTable → Program Unit
  | [] => pure ()
  | table :: rest => submit (.drop table.name) fun _ => dropEach rest

/-- A program that at its end, however it ends, drops the tables that it has
taken and those that it held before, the last one first. -/
def withCleanup (held : List TempTable) : Program α → Program α
  | done result => (dropEach held).bind fun _ => done result
  | allocate purpose next => allocate purpose fun table => withCleanup (table :: held) (next table)
  | poll next => poll fun cancelled => withCleanup held (next cancelled)
  | submit statement next => submit statement fun reply => withCleanup held (next reply)

end Program

/-- The side of the engine: its reply to each statement in its place. Drops are
counted by themselves. -/
structure Engine where
  answer : Nat → Statement → Reply
  answerDrop : Nat → Statement → Reply

namespace Engine

def ofReplies (replies : List Reply) (answerDrop : Nat → Reply := fun _ => .ok .empty) :
    Engine where
  answer n _ := replies.getD n (.ok .empty)
  answerDrop n _ := answerDrop n

end Engine

structure Position where
  /-- Statements other than drops that have been answered. -/
  answered : Nat := 0
  drops : Nat := 0
  /-- The number of the next temporary table. -/
  nextTable : Nat := 0
  deriving DecidableEq, Repr

namespace Position

def after (position : Position) (statement : Statement) : Position :=
  if statement.isDrop then { position with drops := position.drops + 1 }
  else { position with answered := position.answered + 1 }

end Position

structure Exchange where
  statement : Statement
  reply : Reply

structure Outcome (α : Type) where
  result : Except Error α
  transcript : List Exchange
  position : Position

namespace Outcome

variable {α : Type}

def statements (outcome : Outcome α) : List Statement :=
  outcome.transcript.map Exchange.statement

end Outcome

structure Setting where
  engine : Engine
  cancellation : Cancellation := .never
  session : String

namespace Setting

def reply (setting : Setting) (position : Position) (statement : Statement) : Reply :=
  if statement.isDrop then setting.engine.answerDrop position.drops statement
  else setting.engine.answer position.answered statement

end Setting

namespace Program

variable {α : Type}

def run (setting : Setting) : Program α → Position → Outcome α
  | done result, position => ⟨result, [], position⟩
  | allocate purpose next, position =>
    (next ⟨purpose, setting.session, position.nextTable⟩).run setting
      { position with nextTable := position.nextTable + 1 }
  | poll next, position =>
    (next (setting.cancellation.isRequested position.answered)).run setting position
  | submit statement next, position =>
    let reply := setting.reply position statement
    let rest := (next reply).run setting (position.after statement)
    { rest with transcript := ⟨statement, reply⟩ :: rest.transcript }

end Program

end ChartQuery
