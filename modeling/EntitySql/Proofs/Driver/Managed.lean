import EntitySql.Driver.Running
import EntitySql.Proofs.Action
import EntitySql.Proofs.Session.Operation

/-!
# Drivers under a manager

A driver whose calls do not reach the manager is a world outside of it: the manager opens and
closes the connection that is held, and statements run on it.
-/

namespace EntitySql

open Session

variable {ω α β : Type}

/-! ## Calls that reach only the world -/

namespace Session

theorem outward_bind (first : Action ω α) (next : α → Action ω β) :
    outward (first >>= next) = outward first >>= fun value => outward (next value) := by
  funext session
  rcases ran : first session.world with ⟨fault | value, reached⟩
  · have outer : outward first session = (.error fault, { session with world := reached }) := by
      simp only [outward, ran]
    rw [Action.bind_of_error outer]
    simp only [outward, Action.bind_of_error ran]
  · have outer : outward first session = (.ok value, { session with world := reached }) := by
      simp only [outward, ran]
    rw [Action.bind_of_ok outer]
    simp only [outward, Action.bind_of_ok ran]

theorem outward_ensuring (action : Action ω α) (cleanup : Action ω Unit) :
    outward (action.ensuring cleanup) = (outward action).ensuring (outward cleanup) := by
  funext session
  rcases ran : action session.world with ⟨result, reached⟩
  rcases cleaned : cleanup reached with ⟨fault | _, last⟩ <;>
    simp only [outward, Action.ensuring, ran, cleaned]

theorem outward_onFailure (action : Action ω α) (recovery : Action ω Unit) :
    outward (action.onFailure recovery) = (outward action).onFailure (outward recovery) := by
  funext session
  rcases ran : action session.world with ⟨fault | value, reached⟩
  · rcases recovered : recovery reached with ⟨other | _, last⟩ <;>
      simp only [outward, Action.onFailure, ran, recovered]
  · simp only [outward, Action.onFailure, ran]

theorem outward_whenever (condition : Bool) (action : Action ω Unit) :
    outward (Action.whenever condition action) = Action.whenever condition (outward action) := by
  cases condition <;> rfl

end Session

namespace Driver

/-- The driver in the world of a session. -/
def onSession (driver : Driver ω) : Driver (Session ω) where
  held session := driver.held session.world
  hold connection session := { session with world := driver.hold connection session.world }
  isClosed session := driver.isClosed session.world
  isInvalidated session := driver.isInvalidated session.world
  inTransaction session := driver.inTransaction session.world
  connect := outward driver.connect
  disconnect connection := outward (driver.disconnect connection)
  setIsolation connection level := outward (driver.setIsolation connection level)
  beginTransaction connection := outward (driver.beginTransaction connection)
  commitConnection connection := outward (driver.commitConnection connection)
  rollbackConnection connection := outward (driver.rollbackConnection connection)
  execute connection sql parameters := outward (driver.execute connection sql parameters)
  openCursor connection := outward (driver.openCursor connection)
  executeCursor cursor sql parameters := outward (driver.executeCursor cursor sql parameters)
  readResult cursor := outward (driver.readResult cursor)
  nextResult cursor := outward (driver.nextResult cursor)
  closeCursor cursor := outward (driver.closeCursor cursor)
  commitTransaction transaction := outward (driver.commitTransaction transaction)
  rollbackTransaction transaction := outward (driver.rollbackTransaction transaction)
  closeTransaction transaction := outward (driver.closeTransaction transaction)
  pending session := driver.pending session.world
  pending_readResult cursor session := driver.pending_readResult cursor session.world
  pending_nextResult cursor session := driver.pending_nextResult cursor session.world

/-- The driver as the world outside of a manager. -/
def outside (driver : Driver ω) (batches : Bool) (elapse : ω → ω) : Outside ω where
  connectionState := driver.connectionState
  openConnection := driver.openConnection
  closeConnection := driver.closeConnection
  beginTransaction := driver.beginOn
  disposeConnection := driver.closeConnection
  commitResource := driver.commitTransaction
  rollbackResource := driver.rollbackTransaction
  closeResource := driver.closeTransaction
  run := driver.runRequest batches
  elapse := elapse

/-! ## A manager on the driver and a manager over the world -/

variable (driver : Driver ω)

theorem live_onSession : driver.onSession.live = outward driver.live := by
  funext session
  cases held : driver.held session.world with
  | none => simp [live, outward, onSession, held]
  | some connection =>
      cases closed : driver.isClosed session.world connection <;>
        simp [live, outward, onSession, held, closed]

theorem openConnection_onSession :
    driver.onSession.openConnection = outward driver.openConnection := by
  unfold openConnection
  rw [outward_bind]
  rfl

theorem closeConnection_onSession :
    driver.onSession.closeConnection = outward driver.closeConnection := by
  unfold closeConnection
  rw [outward_bind]
  refine congrArg (Action.read _ >>= ·) (funext fun held => ?_)
  cases held with
  | none => rfl
  | some connection =>
      exact (outward_bind (driver.disconnect connection)
        fun _ => Action.change (driver.hold none)).symm

theorem beginOn_onSession (level : Option IsolationLevel) :
    driver.onSession.beginOn level = outward (driver.beginOn level) := by
  unfold beginOn
  rw [outward_bind, live_onSession]
  refine congrArg (outward driver.live >>= ·) (funext fun connection => ?_)
  cases level with
  | none => rfl
  | some level =>
      exact (outward_bind (driver.setIsolation connection level)
        fun _ => driver.beginTransaction connection).symm

theorem runInTurn_onSession (connection : Nat) (parameters : List (String × Value))
    (tally : Tally) (statements : List String) :
    driver.onSession.runInTurn connection parameters tally statements =
      outward (driver.runInTurn connection parameters tally statements) := by
  induction statements generalizing tally with
  | nil => rfl
  | cons statement rest ih =>
      unfold runInTurn
      rw [outward_bind]
      exact congrArg (outward (driver.execute connection statement parameters) >>= ·)
        (funext fun result => ih (tally.add result))

theorem addResults_onSession (cursor : Nat) (tally : Tally) :
    driver.onSession.addResults cursor tally = outward (driver.addResults cursor tally) := by
  funext session
  induction left : driver.pending session.world cursor using Nat.strongRecOn
    generalizing tally session with
  | _ pending ih =>
      rw [addResults_eq, addResults_eq driver, outward_bind]
      refine Action.bind_congr rfl fun result reached read => ?_
      rw [outward_bind]
      refine Action.bind_congr rfl fun added same adds => ?_
      rw [outward_bind]
      refine Action.bind_congr rfl fun more moved moves => ?_
      cases more with
      | false => rfl
      | true =>
          obtain rfl : reached = same := congrArg Prod.snd adds
          have fewer : driver.pending moved.world cursor < pending :=
            left ▸ Nat.lt_of_lt_of_le (driver.onSession.pending_of_nextResult moves)
              (driver.onSession.pending_of_readResult read)
          exact ih _ fewer added moved rfl

theorem beginIfNeeded_onSession (connection : Nat) :
    driver.onSession.beginIfNeeded connection = outward (driver.beginIfNeeded connection) := by
  unfold beginIfNeeded
  rw [outward_bind]
  refine congrArg (Action.read _ >>= ·) (funext fun begun => ?_)
  cases begun with
  | true => rfl
  | false => exact (outward_bind (driver.beginTransaction connection) fun _ => pure ()).symm

theorem runOnCursor_onSession (connection : Nat) (sql : String)
    (parameters : List (String × Value)) :
    driver.onSession.runOnCursor connection sql parameters =
      outward (driver.runOnCursor connection sql parameters) := by
  unfold runOnCursor
  rw [outward_bind, beginIfNeeded_onSession]
  refine congrArg (outward (driver.beginIfNeeded connection) >>= ·) (funext fun _ => ?_)
  rw [outward_bind]
  refine congrArg (outward (driver.openCursor connection) >>= ·) (funext fun cursor => ?_)
  rw [outward_ensuring, outward_bind, addResults_onSession]
  rfl

theorem runStatements_onSession (batches : Bool) (connection : Nat) (sql : String)
    (parameters : List (String × Value)) :
    driver.onSession.runStatements batches connection sql parameters =
      outward (driver.runStatements batches connection sql parameters) := by
  cases batches with
  | true => exact driver.runOnCursor_onSession connection sql parameters
  | false => exact driver.runInTurn_onSession connection parameters {} (Batch.split sql)

theorem runText_onSession (batches : Bool) (sql : String) (parameters : List (String × Value))
    (inTransaction : Bool) :
    driver.onSession.runText batches sql parameters inTransaction =
      outward (driver.runText batches sql parameters inTransaction) := by
  unfold runText
  rw [outward_bind, live_onSession]
  refine congrArg (outward driver.live >>= ·) (funext fun connection => ?_)
  rw [outward_onFailure, outward_whenever, outward_bind, runStatements_onSession]
  refine congrArg (Action.onFailure · _) (congrArg (outward _ >>= ·) (funext fun tally => ?_))
  rw [outward_bind, outward_whenever]
  rfl

theorem runRequest_onSession (batches : Bool) (request : Request) :
    driver.onSession.runRequest batches request = outward (driver.runRequest batches request) := by
  rw [runRequest_eq, runRequest_eq, outward_bind, runText_onSession]
  rfl

/-- It makes no difference to a manager whether the driver is a part of its session or the
world outside of it. -/
theorem outside_environment (batches : Bool) (elapse : ω → ω) :
    (driver.outside batches elapse).environment = driver.onSession.environment batches := by
  unfold environment
  rw [openConnection_onSession, closeConnection_onSession,
    funext (driver.beginOn_onSession), funext (driver.runRequest_onSession batches)]
  rfl


end Driver

end EntitySql
