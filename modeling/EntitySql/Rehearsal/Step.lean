import EntitySql.Driver
import EntitySql.Session.Work

/-!
# Rehearsal steps

A rehearsal drives a manager through a list of steps while the world outside
follows a script: calls fail on demand, results are prepared beforehand, and
a step may be hooked to the next call of some name, to run from inside that
call.
-/

namespace EntitySql.Rehearsal

inductive HandleCall where
  | commit
  | rollback
  | close
  deriving DecidableEq, Repr

inductive ConnectionCall where
  | state
  | live
  | openConnection
  | close
  | dispose
  | begin (level : Value)
  deriving Repr

structure DirectRequest where
  kind : RequestKind
  type : Option EntityType
  sql : String
  parameters : List (String × Value)
  batches : Bool
  inTransaction : Bool
  deriving Repr

/-- What a driver answers next: a failure, or else rows or a count to a
statement and result sets to a batch.  Rows and sets that make no sense are
a fault only when they are asked for. -/
structure Prepared where
  failure : Option String := none
  rows : Option (Except Fault (List Row)) := none
  count : Int := -1
  sets : Except Fault (List ResultSet) := .ok []

/-- A mark set from outside on a driver connection. -/
inductive Mark where
  | closed
  | invalidated
  deriving DecidableEq, Repr

/-- One step of a rehearsal.  A refused one could not be understood. -/
inductive Step where
  | openConnection
  | close
  | begin (level : Value)
  | commit
  | rollback
  | dispose
  | handle (number : Int) (call : HandleCall)
  | withTransaction (level : Value) (steps : List Step)
  | withManager (steps : List Step)
  | work (work : Work)
  | state
  | fail (call : String) (active : Bool)
  | hook (call : String) (step : Step)
  | prepareResult (value : Value)
  | prepareDriver (entries : List Prepared)
  | breakConnection
  | mark (mark : Mark)
  | direct (request : DirectRequest)
  | connection (call : ConnectionCall)
  | refused (fault : Fault)
  deriving Inhabited

/-- A step that was understood, or else the refusal. -/
def Step.ofExcept (step : Except Fault Step) : Step :=
  match step with
  | .ok step => step
  | .error fault => .refused fault

inductive Reply where
  | value (value : Value)
  | handle (number : Nat) (depth : Int)
  | status (state : ConnectionState)
  | stateName (state : ConnectionState)
  | outcomes (outcomes : List (Except Fault Reply))

/-- A call that the world outside has seen with its data. -/
inductive Seen where
  | request (request : Request) (state : ConnectionState)
  | statement (onCursor : Bool) (sql : String) (parameters : List (String × Value))

end EntitySql.Rehearsal
