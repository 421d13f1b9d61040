import EntitySql.Session.Work

/-!
# Runs of a connection manager

A manager is driven by operations, its own ones and those of the handles it
gave out, in any order.  The world outside answers the calls that leave the
manager.  Any of these calls may fail, and between two operations the world
may change by itself, as when a connection breaks.
-/

namespace EntitySql

variable {ω α : Type}

/-- The world outside a manager: what the physical connection reports, and the
calls to the connection, to the physical transactions begun on it and to the
executor.  None of them reaches the manager.  `elapse` is what happens to the
world between two operations. -/
structure Outside (ω : Type) where
  connectionState : ω → ConnectionState
  openConnection : Action ω Unit
  closeConnection : Action ω Unit
  beginTransaction : Option IsolationLevel → Action ω Nat
  disposeConnection : Action ω Unit
  commitResource : Nat → Action ω Unit
  rollbackResource : Nat → Action ω Unit
  closeResource : Nat → Action ω Unit
  run : Request → Action ω Value
  elapse : ω → ω

namespace Session

/-- The session of a manager that has done nothing yet. -/
def fresh (world : ω) : Session ω := { world }

/-- A call that reaches only the world. -/
def outward (call : Action ω α) : Action (Session ω) α := fun session =>
  let (result, world) := call session.world
  (result, { session with world })

end Session

/-- An operation on a manager or on one of the handles it gave out, or a
moment in which the world is left to itself. -/
inductive Operation where
  | openConnection
  | close
  | begin (level : Value)
  | commit
  | rollback
  | dispose
  | commitHandle (number : Nat)
  | rollbackHandle (number : Nat)
  | closeHandle (number : Nat)
  | work (dialect : Dialect) (work : Work)
  | wait
  deriving Repr

namespace Outside

/-- The world as the environment of a manager. -/
def environment (outside : Outside ω) : Environment ω where
  connectionState session := outside.connectionState session.world
  openConnection := Session.outward outside.openConnection
  closeConnection := Session.outward outside.closeConnection
  beginTransaction level := Session.outward (outside.beginTransaction level)
  disposeConnection := Session.outward outside.disposeConnection
  commitResource number := Session.outward (outside.commitResource number)
  rollbackResource number := Session.outward (outside.rollbackResource number)
  closeResource number := Session.outward (outside.closeResource number)
  run request := Session.outward (outside.run request)

/-- The session that a call of a handle reaches.  Only handles that have been
given out can be called. -/
def stepHandle (session : Session ω) (number : Nat) (action : Action (Session ω) Unit) :
    Session ω :=
  if number < session.handles.length then (action session).2 else session

/-- The session that an operation reaches, whether it returns or fails. -/
def step (outside : Outside ω) (session : Session ω) : Operation → Session ω
  | .openConnection => (outside.environment.openIfNeeded session).2
  | .close => (outside.environment.close session).2
  | .begin level => (outside.environment.begin level session).2
  | .commit => (outside.environment.commit session).2
  | .rollback => (outside.environment.rollback session).2
  | .dispose => (outside.environment.dispose session).2
  | .commitHandle number =>
    stepHandle session number (outside.environment.commitHandle number)
  | .rollbackHandle number =>
    stepHandle session number (outside.environment.rollbackHandle number)
  | .closeHandle number =>
    stepHandle session number (outside.environment.closeHandle number)
  | .work dialect work => (outside.environment.perform dialect work session).2
  | .wait => { session with world := outside.elapse session.world }

/-- The session that operations reach one after the other. -/
def after (outside : Outside ω) (session : Session ω) (operations : List Operation) :
    Session ω :=
  operations.foldl outside.step session

/-- A property that every operation keeps is kept by every run. -/
theorem after_induction {outside : Outside ω} {property : Session ω → Prop}
    (kept : ∀ session operation, property session → property (outside.step session operation))
    {session : Session ω} (holds : property session) (operations : List Operation) :
    property (outside.after session operations) := by
  induction operations generalizing session with
  | nil => exact holds
  | cons operation rest ih => exact ih (kept session operation holds)

end Outside

end EntitySql
