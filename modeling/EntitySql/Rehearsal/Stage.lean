import EntitySql.Driver.Running
import EntitySql.Rehearsal.Step

/-!
# The stage

The world of a rehearsal, and the two environments in it: one that plays the
connection and the executor itself, and one that plays only the database
driver underneath.
-/

namespace EntitySql.Rehearsal

structure DriverConnection where
  closed : Bool := false
  invalidated : Bool := false
  inTransaction : Bool := false
  deriving Repr, Inhabited

/-- A cursor of the driver, with the results from the one that it stands on. -/
structure DriverCursor where
  connection : Nat := 0
  results : List ResultSet := []
  deriving Repr, Inhabited

/-- The world of a rehearsal: what has happened, what is going to fail or to
be hooked, and the state of everything that is played. -/
structure Stage where
  events : List String := []
  seen : List Seen := []
  hooked : List (String × Except Fault Reply) := []
  failing : List String := []
  hooks : List (String × Step) := []
  connection : ConnectionState := .closed
  resources : Nat := 0
  results : List Value := []
  held : Option Nat := none
  connections : List DriverConnection := []
  transactions : List Nat := []
  cursors : List DriverCursor := []
  script : List Prepared := []

abbrev Play (α : Type) := Action (Session Stage) α

def onStage (update : Stage → Stage) : Play Unit :=
  Action.change fun session => { session with world := update session.world }

def fromStage {α : Type} (view : Stage → α) : Play α :=
  Action.read fun session => view session.world

def takeHook (call : String) : List (String × Step) → Option (Step × List (String × Step))
  | [] => none
  | hook :: rest =>
    if hook.1 == call then some (hook.2, rest)
    else (takeHook call rest).map fun (step, others) => (step, hook :: others)

/-- A call about to take effect: it fails if it is to fail, runs the first
hook for it, and is then noted down under the name it shows. -/
def event (runHook : Step → Play Reply) (call shown : String) : Play Unit := do
  let failing ← fromStage (·.failing)
  if failing.contains call then Action.fail (.collaborator (call ++ " failed"))
  else
    match takeHook call (← fromStage (·.hooks)) with
    | none => pure ()
    | some (step, rest) =>
      onStage fun stage => { stage with hooks := rest }
      let outcome ← Action.attempt (runHook step)
      onStage fun stage => { stage with hooked := stage.hooked ++ [(call, outcome)] }
    onStage fun stage => { stage with events := stage.events ++ [shown] }

/-- The name under which a level shows in the name of a call. -/
def levelName : IsolationLevel → String
  | .readUncommitted => "READ_UNCOMMITTED"
  | .readCommitted => "READ_COMMITTED"
  | .repeatableRead => "REPEATABLE_READ"
  | .serializable => "SERIALIZABLE"
  | .snapshot => "SNAPSHOT"

/-! ## The connection and the executor -/

/-- The answer to a request for which no result has been prepared. -/
def defaultAnswer : RequestKind → Value
  | .execute => .int 1
  | .query => .list []
  | .querySingle => .null

/-- Plays the connection, its transactions and the executor. -/
def recording (runHook : Step → Play Reply) : Environment Stage where
  connectionState session := session.world.connection
  openConnection := do
    event runHook "open" "open"
    onStage fun stage => { stage with connection := .opened }
  closeConnection := do
    event runHook "close" "close"
    onStage fun stage => { stage with connection := .closed }
  beginTransaction level := do
    event runHook "begin" ("begin" ++ (level.elim "" fun level => ":" ++ levelName level))
    let resource ← fromStage (·.resources)
    onStage fun stage => { stage with resources := stage.resources + 1 }
    return resource
  disposeConnection := event runHook "dispose" "dispose"
  commitResource _ := event runHook "commit" "commit"
  rollbackResource _ := event runHook "rollback" "rollback"
  closeResource _ := event runHook "tx_close" "tx_close"
  run request := do
    let state ← fromStage (·.connection)
    onStage fun stage => { stage with seen := stage.seen ++ [.request request state] }
    event runHook "execute" "execute"
    match ← fromStage (·.results) with
    | [] => return defaultAnswer request.kind
    | value :: rest =>
      onStage fun stage => { stage with results := rest }
      return value

/-! ## The driver -/

def onConnection (number : Nat) (update : DriverConnection → DriverConnection) : Play Unit :=
  onStage fun stage => { stage with connections := stage.connections.modify number update }

def connectionAt (session : Session Stage) (number : Nat) : DriverConnection :=
  (session.world.connections[number]?).getD default

def cursorAt (session : Session Stage) (number : Nat) : DriverCursor :=
  (session.world.cursors[number]?).getD {}

def showResults (number : Nat) (results : List ResultSet) : Play Unit :=
  onStage fun stage =>
    { stage with cursors := stage.cursors.modify number fun cursor => { cursor with results } }

def currentResult (number : Nat) : Play ResultSet := do
  match ← Action.read fun session => (cursorAt session number).results with
  | [] => Action.fail (.outOfRange 0)
  | result :: _ => return result

/-- Moves a cursor to its next result, and says whether there is one. -/
def moveOn (number : Nat) : Play Bool := do
  let rest ← Action.read fun session => (cursorAt session number).results.tail
  showResults number rest
  return !rest.isEmpty

theorem currentResult_reached (number : Nat) (session : Session Stage) :
    (currentResult number session).2 = session := by
  change (Action.andThen (Action.read _) _ session).2 = session
  rw [Action.andThen, Action.read]
  cases (cursorAt session number).results <;> rfl

theorem results_showResults (number : Nat) (results : List ResultSet) (session : Session Stage) :
    (cursorAt (showResults number results session).2 number).results.length ≤ results.length := by
  change (((session.world.cursors.modify number _)[number]?).getD {}).results.length ≤ _
  rw [List.getElem?_modify_eq]
  cases session.world.cursors[number]? <;> simp

theorem results_moveOn (number : Nat) (session : Session Stage)
    (moved : (moveOn number session).1 = .ok true) :
    (cursorAt (moveOn number session).2 number).results.length <
      (cursorAt session number).results.length := by
  have shown : (cursorAt (moveOn number session).2 number).results.length ≤
      (cursorAt session number).results.tail.length :=
    results_showResults number (cursorAt session number).results.tail session
  have left : (!(cursorAt session number).results.tail.isEmpty) = true := Except.ok.inj moved
  cases results : (cursorAt session number).results with
  | nil => simp [results] at left
  | cons result rest =>
      rw [results] at shown
      exact Nat.lt_succ_of_le shown

def setInTransaction (number : Nat) (inTransaction : Bool) : Play Unit :=
  onConnection number fun connection => { connection with inTransaction }

/-- Ends a transaction of the driver under the name of the call. -/
def endTransaction (runHook : Step → Play Reply) (call : String) (number : Nat) : Play Unit := do
  event runHook call call
  match (← fromStage (·.transactions))[number]? with
  | some connection => setInTransaction connection false
  | none => pure ()

/-- The next answer of the driver, after the statement has been noted down. -/
def nextPrepared (connection : Nat) (onCursor : Bool) (sql : String)
    (parameters : List (String × Value)) : Play Prepared := do
  onStage fun stage =>
    { stage with seen := stage.seen ++ [.statement onCursor sql parameters] }
  setInTransaction connection true
  match ← fromStage (·.script) with
  | [] => return { count := 1, sets := .ok [.count 1] }
  | entry :: rest =>
    onStage fun stage => { stage with script := rest }
    return entry

/-- Plays the database driver. -/
def scripted (runHook : Step → Play Reply) : Driver (Session Stage) where
  held session := session.world.held
  hold connection session := { session with world := { session.world with held := connection } }
  isClosed session number := (connectionAt session number).closed
  isInvalidated session number := (connectionAt session number).invalidated
  inTransaction session number := (connectionAt session number).inTransaction
  connect := do
    event runHook "connect" "connect"
    let number ← fromStage (·.connections.length)
    onStage fun stage => { stage with connections := stage.connections ++ [{}] }
    return number
  disconnect number := do
    event runHook "disconnect" "disconnect"
    onConnection number fun connection => { connection with closed := true }
  setIsolation _ level := event runHook "isolation" ("isolation:" ++ level.spelling)
  beginTransaction number := do
    event runHook "begin" "begin"
    setInTransaction number true
    let transaction ← fromStage (·.transactions.length)
    onStage fun stage => { stage with transactions := stage.transactions ++ [number] }
    return transaction
  commitConnection number := do
    event runHook "conn_commit" "conn_commit"
    setInTransaction number false
  rollbackConnection number := do
    event runHook "conn_rollback" "conn_rollback"
    setInTransaction number false
  execute connection sql parameters := do
    let answer ← nextPrepared connection false sql parameters
    match answer.failure, answer.rows with
    | some text, _ => Action.fail (.collaborator text)
    | none, some rows => return .rows (← Action.ofExcept rows)
    | none, none => return .count answer.count
  openCursor connection := do
    event runHook "cursor" "cursor"
    let number ← fromStage (·.cursors.length)
    onStage fun stage => { stage with cursors := stage.cursors ++ [{ connection }] }
    return number
  executeCursor cursor sql parameters := do
    let connection ← Action.read fun session => (cursorAt session cursor).connection
    let answer ← nextPrepared connection true sql parameters
    match answer.failure with
    | some text => Action.fail (.collaborator text)
    | none => showResults cursor (← Action.ofExcept answer.sets)
  readResult := currentResult
  nextResult := moveOn
  closeCursor _ := event runHook "cursor_close" "cursor_close"
  commitTransaction := endTransaction runHook "commit"
  rollbackTransaction := endTransaction runHook "rollback"
  closeTransaction := endTransaction runHook "tx_close"
  pending session cursor := (cursorAt session cursor).results.length
  pending_readResult cursor session := by simp [currentResult_reached]
  pending_nextResult := results_moveOn

end EntitySql.Rehearsal
