import EntitySql.Batch
import EntitySql.Driver.Connection
import EntitySql.Value.Dictionary

/-!
# Running statements

A statement text runs either as one batch on a cursor or split into single
statements.  Outside a transaction the connection is committed after the
last statement, and rolled back if anything fails, so that no transaction
stays open between two calls.
-/

namespace EntitySql

/-- The rows of the last result that had rows, and the number of affected rows. -/
structure Tally where
  rows : Option (List Row) := none
  affected : Int := 0
  deriving Repr

namespace Tally

/-- Adds the number of affected rows, if it is known. -/
def count (tally : Tally) (number : Int) : Tally :=
  if 0 < number then { tally with affected := tally.affected + number } else tally

def add (tally : Tally) (result : StatementResult) : Tally :=
  match result with
  | .rows rows => { tally with rows := some rows }
  | .count number => tally.count number

/-- Adds one result of a batch, whose rows are named by its columns. -/
def addSet (tally : Tally) (result : ResultSet) : Except Fault Tally :=
  match result with
  | .table columns rows => do
    let rows ← rows.mapM fun row => Value.dictionary (columns.zip row)
    .ok { tally with rows := some rows }
  | .count number => .ok (tally.count number)

end Tally

namespace Driver

variable {σ : Type}

def runInTurn (driver : Driver σ) (connection : Nat) (parameters : List (String × Value))
    (tally : Tally) : List String → Action σ Tally
  | [] => return tally
  | statement :: rest => do
    let result ← driver.execute connection statement parameters
    runInTurn driver connection parameters (tally.add result) rest

theorem pending_of_readResult (driver : Driver σ) {cursor : Nat} {result : ResultSet}
    {state reached : σ} (read : driver.readResult cursor state = (.ok result, reached)) :
    driver.pending reached cursor ≤ driver.pending state cursor := by
  simpa [read] using driver.pending_readResult cursor state

theorem pending_of_nextResult (driver : Driver σ) {cursor : Nat} {state reached : σ}
    (moved : driver.nextResult cursor state = (.ok true, reached)) :
    driver.pending reached cursor < driver.pending state cursor := by
  simpa [moved] using driver.pending_nextResult cursor state

/-- Adds up the results of a batch from the one that its cursor stands on. -/
def addResults (driver : Driver σ) (cursor : Nat) (tally : Tally) : Action σ Tally := fun state =>
  match _read : driver.readResult cursor state with
  | (.error fault, reached) => (.error fault, reached)
  | (.ok result, reached) =>
    match tally.addSet result with
    | .error fault => (.error fault, reached)
    | .ok tally =>
      match _moved : driver.nextResult cursor reached with
      | (.error fault, moved) => (.error fault, moved)
      | (.ok false, moved) => (.ok tally, moved)
      | (.ok true, moved) => driver.addResults cursor tally moved
termination_by state => driver.pending state cursor
decreasing_by
  exact Nat.lt_of_lt_of_le (driver.pending_of_nextResult _moved)
    (driver.pending_of_readResult _read)

theorem addResults_eq (driver : Driver σ) (cursor : Nat) (tally : Tally) :
    driver.addResults cursor tally = (do
      let result ← driver.readResult cursor
      let added ← Action.ofExcept (tally.addSet result)
      let more ← driver.nextResult cursor
      if more then driver.addResults cursor added else return added) := by
  funext state
  rw [addResults]
  split
  · rename_i reads
    exact (Action.bind_of_error reads).symm
  · rename_i result reached reads
    rw [Action.bind_of_ok reads]
    split
    · rename_i refused
      rw [refused]
      rfl
    · rename_i added adds
      rw [adds]
      change _ = (driver.nextResult cursor >>= fun more =>
        if more then driver.addResults cursor added else pure added) reached
      split
      · rename_i moves
        exact (Action.bind_of_error moves).symm
      · rename_i moves
        rw [Action.bind_of_ok moves]
        rfl
      · rename_i moves
        rw [Action.bind_of_ok moves]
        rfl

/-- Begins a transaction on a connection that is in none. -/
def beginIfNeeded (driver : Driver σ) (connection : Nat) : Action σ Unit := do
  let begun ← Action.read fun state => driver.inTransaction state connection
  if begun then pure ()
  else
    let _ ← driver.beginTransaction connection
    pure ()

/-- Runs a whole batch on a cursor, which is closed whatever happens. -/
def runOnCursor (driver : Driver σ) (connection : Nat) (sql : String)
    (parameters : List (String × Value)) : Action σ Tally := do
  driver.beginIfNeeded connection
  -- a cursor joins the transaction of the connection only once there is one
  let cursor ← driver.openCursor connection
  Action.ensuring
    (do
      driver.executeCursor cursor sql parameters
      driver.addResults cursor {})
    (driver.closeCursor cursor)

/-- Runs a statement text as one batch or statement by statement. -/
def runStatements (driver : Driver σ) (batches : Bool) (connection : Nat) (sql : String)
    (parameters : List (String × Value)) : Action σ Tally :=
  if batches then driver.runOnCursor connection sql parameters
  else driver.runInTurn connection parameters {} (Batch.split sql)

def runText (driver : Driver σ) (batches : Bool) (sql : String)
    (parameters : List (String × Value)) (inTransaction : Bool) : Action σ Tally := do
  let connection ← driver.live
  Action.onFailure
    (do
      let tally ← driver.runStatements batches connection sql parameters
      Action.whenever (!inTransaction) (driver.commitConnection connection)
      return tally)
    (Action.whenever (!inTransaction) (driver.rollbackConnection connection))

/-- The entities that rows hold.  Their type has to be known even if there are no rows. -/
def entities (type : Option EntityType) (rows : Option (List Row)) :
    Except Fault (List Value) := do
  let type ← EntityType.given type
  let metadata ← type.metadata
  (rows.getD []).mapM fun row => (metadata.entityOfRow type row).map Instance.toValue

def executeText (driver : Driver σ) (batches : Bool) (sql : String)
    (parameters : List (String × Value)) (inTransaction : Bool) : Action σ Int := do
  let tally ← driver.runText batches sql parameters inTransaction
  return tally.affected

def queryText (driver : Driver σ) (batches : Bool) (type : Option EntityType) (sql : String)
    (parameters : List (String × Value)) (inTransaction : Bool) : Action σ (List Value) := do
  let tally ← driver.runText batches sql parameters inTransaction
  Action.ofExcept (entities type tally.rows)

/-- Runs a statement text and gives its only entity, or null if there is none. -/
def querySingleText (driver : Driver σ) (batches : Bool) (type : Option EntityType)
    (sql : String) (parameters : List (String × Value)) (inTransaction : Bool) :
    Action σ Value := do
  let found ← driver.queryText batches type sql parameters inTransaction
  match found with
  | [] => return .null
  | [entity] => return entity
  | several => Action.fail (.manyRows several.length)

def runRequest (driver : Driver σ) (batches : Bool) (request : Request) : Action σ Value :=
  let inTransaction := request.transaction.isSome
  match request.kind with
  | .execute => do
    let affected ←
      driver.executeText batches request.sql request.parameters inTransaction
    return .int affected
  | .query => do
    let found ←
      driver.queryText batches request.type request.sql request.parameters inTransaction
    return .list found
  | .querySingle =>
    driver.querySingleText batches request.type request.sql request.parameters inTransaction

def answerOf (request : Request) (tally : Tally) : Except Fault Value :=
  match request.kind with
  | .execute => .ok (.int tally.affected)
  | .query => (entities request.type tally.rows).map Value.list
  | .querySingle => do
    match ← entities request.type tally.rows with
    | [] => .ok .null
    | [entity] => .ok entity
    | several => .error (.manyRows several.length)

/-- The answer depends on nothing but the tally. -/
theorem runRequest_eq (driver : Driver σ) (batches : Bool) (request : Request) :
    driver.runRequest batches request =
      driver.runText batches request.sql request.parameters request.transaction.isSome >>=
        fun tally => Action.ofExcept (answerOf request tally) := by
  funext state
  rcases ran : driver.runText batches request.sql request.parameters request.transaction.isSome
    state with ⟨fault | tally, reached⟩
  · cases kind : request.kind <;>
      simp [runRequest, kind, executeText, queryText, querySingleText, bind, Action.andThen, ran]
  · cases kind : request.kind with
    | execute =>
        simp [runRequest, answerOf, kind, executeText, bind, Action.andThen, ran, pure,
          Action.answer, Action.ofExcept]
    | query =>
        cases found : entities request.type tally.rows <;>
          simp [runRequest, answerOf, kind, queryText, bind, Action.andThen, ran, pure,
            Action.answer, Action.ofExcept, found, Except.map]
    | querySingle =>
        rcases found : entities request.type tally.rows with fault | _ | ⟨_, _ | _⟩ <;>
          simp [runRequest, answerOf, kind, querySingleText, queryText, bind, Action.andThen,
            ran, pure, Action.answer, Action.ofExcept, found, Except.bind, Action.fail]

/-- A driver as the environment of a connection manager. -/
def environment {ω : Type} (driver : Driver (Session ω)) (batches : Bool) : Environment ω where
  connectionState := driver.connectionState
  openConnection := driver.openConnection
  closeConnection := driver.closeConnection
  beginTransaction := driver.beginOn
  disposeConnection := driver.closeConnection
  commitResource := driver.commitTransaction
  rollbackResource := driver.rollbackTransaction
  closeResource := driver.closeTransaction
  run := driver.runRequest batches

end Driver

end EntitySql
