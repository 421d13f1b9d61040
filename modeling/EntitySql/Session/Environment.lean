import EntitySql.Session.Handle
import EntitySql.Statement

/-!
# Sessions and their environment

A session is a connection manager with all handles it ever gave out, the
warnings it raised, and the world outside.  The environment makes the calls
that leave the manager.  Such a call may fail, and it works on the whole
session, because what is called may call the manager back.
-/

namespace EntitySql

/-- The state of a connection manager.  Live handles are given by their
numbers, the outermost first. -/
structure Manager where
  phase : Phase := .idle
  live : List Nat := []
  ownsConnection : Bool := false
  disposed : Bool := false
  deriving DecidableEq, Repr, Inhabited

/-- A connection manager and everything around it. -/
structure Session (ω : Type) where
  manager : Manager := {}
  handles : List Handle := []
  warnings : List Warning := []
  world : ω

inductive RequestKind where
  | execute
  | query
  | querySingle
  deriving DecidableEq, Repr

/-- A statement for the executor, with the physical transaction it belongs to, if any. -/
structure Request where
  kind : RequestKind
  sql : String
  parameters : List (String × Value)
  type : Option EntityType
  transaction : Option Nat
  deriving Repr

/-- The calls of a manager to its physical connection, to the physical
transactions begun on it and to the executor. -/
structure Environment (ω : Type) where
  connectionState : Session ω → ConnectionState
  openConnection : Action (Session ω) Unit
  closeConnection : Action (Session ω) Unit
  beginTransaction : Option IsolationLevel → Action (Session ω) Nat
  disposeConnection : Action (Session ω) Unit
  commitResource : Nat → Action (Session ω) Unit
  rollbackResource : Nat → Action (Session ω) Unit
  closeResource : Nat → Action (Session ω) Unit
  run : Request → Action (Session ω) Value

end EntitySql
