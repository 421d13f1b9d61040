import EntitySql.Driver

/-!
# The connection that is held

One connection checked out of the driver at a time.
-/

namespace EntitySql.Driver

variable {σ : Type}

def connectionState (driver : Driver σ) (state : σ) : ConnectionState :=
  match driver.held state with
  | none => .closed
  | some connection =>
    if driver.isClosed state connection then .closed
    else if driver.isInvalidated state connection then .broken
    else .opened

/-- The connection that is held, which has to be open. -/
def live (driver : Driver σ) : Action σ Nat := fun state =>
  match driver.held state with
  | none => (.error (.resource .notOpen), state)
  | some connection =>
    if driver.isClosed state connection then (.error (.resource .notOpen), state)
    else (.ok connection, state)

def openConnection (driver : Driver σ) : Action σ Unit := do
  let connection ← driver.connect
  Action.change (driver.hold (some connection))

def closeConnection (driver : Driver σ) : Action σ Unit := do
  match ← Action.read driver.held with
  | none => return ()
  | some connection =>
    driver.disconnect connection
    Action.change (driver.hold none)

/-- Begins a transaction on the connection, at an isolation level if one is asked for. -/
def beginOn (driver : Driver σ) (level : Option IsolationLevel) : Action σ Nat := do
  let connection ← driver.live
  match level with
  | none => pure ()
  | some level => driver.setIsolation connection level
  driver.beginTransaction connection

end EntitySql.Driver
