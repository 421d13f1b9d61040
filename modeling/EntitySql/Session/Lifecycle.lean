import EntitySql.Session.Environment

/-!
# The connection manager

A manager owns one physical connection and at most one physical transaction
at a time.  Nested transactions are counted: each nesting level has a handle,
only the end of the outermost level reaches the physical transaction, and a
rollback at any level ends the whole unit of work.

Before the manager ends a transaction itself it leaves the active phase, so
that the notifications of the handles involved pass without effect.
-/

namespace EntitySql

variable {ω : Type}

namespace Session

def handleAt (session : Session ω) (number : Nat) : Handle :=
  (session.handles[number]?).getD default

def adjust (update : Manager → Manager) : Action (Session ω) Unit :=
  Action.change fun session => { session with manager := update session.manager }

def moveTo (phase : Phase) : Action (Session ω) Unit :=
  adjust fun manager => { manager with phase := phase }

def warn (warning : Warning) : Action (Session ω) Unit :=
  Action.change fun session => { session with warnings := session.warnings ++ [warning] }

def refuseIfDisposed : Action (Session ω) Unit := do
  let disposed ← Action.read fun session => session.manager.disposed
  if disposed then Action.fail (.resource .disposed) else return ()

/-- The physical transaction of the unit of work, if one is active. -/
def currentResource (session : Session ω) : Option Nat :=
  session.manager.live.head?.map fun number => (session.handleAt number).resource

/-- Ends the unit of work in the books: every live handle is completed and
none is live any more. -/
def settled (session : Session ω) : Session ω :=
  { session with
    handles := session.manager.live.foldl
      (fun handles number =>
        handles.modify number fun handle => { handle with completed := true })
      session.handles
    manager := { session.manager with phase := .idle, live := [], ownsConnection := false } }

end Session

namespace Environment

open Session

/-! ## The connection -/

/-- Opens the connection if needed and tells whether this call opened it. -/
def openIfNeeded (environment : Environment ω) : Action (Session ω) Bool := do
  refuseIfDisposed
  let before ← Action.read environment.connectionState
  -- whether or not a transaction is active on it
  Action.whenever (before = .broken) do
    warn .brokenConnectionReopening
    environment.closeConnection
  let current ← Action.read environment.connectionState
  if current = .closed then
    environment.openConnection
    return true
  else return false

def closeIfOpen (environment : Environment ω) : Action (Session ω) Unit := do
  refuseIfDisposed
  let current ← Action.read environment.connectionState
  Action.whenever (current ≠ .closed) environment.closeConnection

/-- Closes the connection, which is refused while a transaction is active. -/
def close (environment : Environment ω) : Action (Session ω) Unit := do
  let live ← Action.read fun session => session.manager.live
  if live.isEmpty then environment.closeIfOpen
  else Action.fail (.resource .closeDuringTransaction)

/-- Runs a step with the connection open, and closes the connection
afterwards if it was opened for the step. -/
def withConnection {α : Type} (environment : Environment ω) (body : Action (Session ω) α) :
    Action (Session ω) α := do
  let opened ← environment.openIfNeeded
  Action.ensuring (refuseIfDisposed >>= fun _ => body)
    (Action.whenever opened environment.closeIfOpen)

/-! ## The end of a unit of work -/

/-- Ends the unit of work and closes the connection if the unit of work opened it. -/
def conclude (environment : Environment ω) : Action (Session ω) Unit := do
  let owned ← Action.read fun session => session.manager.ownsConnection
  Action.change settled
  let disposed ← Action.read fun session => session.manager.disposed
  Action.whenever (owned && !disposed) environment.closeIfOpen

def site (environment : Environment ω) (number : Nat) : HandleSite (Session ω) where
  view session := session.handleAt number
  update change session := { session with handles := session.handles.modify number change }
  commitResource := fun session =>
    environment.commitResource (session.handleAt number).resource session
  rollbackResource := fun session =>
    environment.rollbackResource (session.handleAt number).resource session
  closeResource := fun session =>
    environment.closeResource (session.handleAt number).resource session

def afterCommit (environment : Environment ω) (number : Nat) : Action (Session ω) Unit := do
  let phase ← Action.read fun session => session.manager.phase
  -- the manager is ending the transaction itself
  if phase ≠ .active then return ()
  else
    let handle ← Action.read fun session => session.handleAt number
    if handle.isRoot then environment.conclude
    else adjust fun manager => { manager with live := manager.live.erase number }

def afterRollback (environment : Environment ω) : Action (Session ω) Unit := do
  let phase ← Action.read fun session => session.manager.phase
  if phase ≠ .active then return ()
  else
    moveTo .rollingBack
    environment.conclude

def commitHandle (environment : Environment ω) (number : Nat) : Action (Session ω) Unit :=
  (environment.site number).commit (environment.afterCommit number)

def rollbackHandle (environment : Environment ω) (number : Nat) : Action (Session ω) Unit :=
  (environment.site number).rollback environment.afterRollback

/-- Rolls back the whole unit of work. -/
def rollback (environment : Environment ω) : Action (Session ω) Unit := do
  let manager ← Action.read fun session => session.manager
  -- only a rollback under way is left alone, not a commit
  if manager.phase = .rollingBack then return ()
  else
    match manager.live with
    | [] => Action.fail (.resource .nothingToRollBack)
    | root :: _ =>
      moveTo .rollingBack
      Action.ensuring (environment.rollbackHandle root) environment.conclude

/-- What the manager does when a handle has been closed: one that was neither
committed nor rolled back takes the whole unit of work with it. -/
def afterClose (environment : Environment ω) (number : Nat) : Action (Session ω) Unit := do
  let phase ← Action.read fun session => session.manager.phase
  let handle ← Action.read fun session => session.handleAt number
  if phase ≠ .active || handle.completed then return ()
  else if handle.isRoot then
    moveTo .releasing
    environment.conclude
  else
    warn (.transactionAbandoned handle.depth)
    environment.rollback

def closeHandle (environment : Environment ω) (number : Nat) : Action (Session ω) Unit :=
  (environment.site number).close (environment.afterClose number)

/-! ## Transactions -/

/-- The isolation level that a value asks for; an empty value asks for none. -/
def isolationLevel (level : Value) : Except Fault (Option IsolationLevel) :=
  if level.isGiven then
    (Choice.isolationLevel.pick IsolationLevel.ofSpelling level).map some
  else .ok none

def beginResource (environment : Environment ω) (level : Value) : Action (Session ω) Nat := do
  let isolation ← Action.ofExcept (isolationLevel level)
  let opened ← environment.openIfNeeded
  let resource ←
    Action.onFailure (refuseIfDisposed >>= fun _ => environment.beginTransaction isolation)
      (Action.whenever opened environment.closeIfOpen)
  adjust fun manager => { manager with ownsConnection := opened, phase := .active }
  return resource

def pushHandle (resource : Nat) : Action (Session ω) Nat := fun session =>
  let number := session.handles.length
  (.ok number,
    { session with
      handles := session.handles ++ [{ resource, depth := session.manager.live.length + 1 }]
      manager := { session.manager with live := session.manager.live ++ [number] } })

/-- Begins a transaction, or one more nesting level of the active one, and
gives the number of its handle. -/
def begin (environment : Environment ω) (level : Value) : Action (Session ω) Nat := do
  refuseIfDisposed
  let manager ← Action.read fun session => session.manager
  if manager.phase ≠ .idle && manager.phase ≠ .active then
    Action.fail (.resource (.beginDuring manager.phase))
  else
    match manager.live with
    | [] =>
      let resource ← environment.beginResource level
      pushHandle resource
    | root :: _ =>
      -- the level asked for is not even read
      let handle ← Action.read fun session => session.handleAt root
      pushHandle handle.resource

/-- Takes the innermost level off and completes its handle. -/
def popLevel : Action (Session ω) Unit := Action.change fun session =>
  { session with
    handles :=
      match session.manager.live.getLast? with
      | some number =>
        session.handles.modify number fun handle => { handle with completed := true }
      | none => session.handles
    manager := { session.manager with live := session.manager.live.dropLast } }

/-- Commits one nesting level. -/
def commit (environment : Environment ω) : Action (Session ω) Unit := do
  let manager ← Action.read fun session => session.manager
  if manager.phase ≠ .active then return ()
  else
    match manager.live with
    | [] => return ()
    | [root] =>
      moveTo .committing
      -- a commit that fails leaves the transaction as it was
      Action.onFailure (environment.commitHandle root) (moveTo .active)
      environment.conclude
    | _ => popLevel

/-- Releases an active transaction, closes the connection and gives it up. -/
def dispose (environment : Environment ω) : Action (Session ω) Unit := do
  let manager ← Action.read fun session => session.manager
  if manager.disposed then return ()
  else
    Action.ensuring
      (do
        match manager.live with
        | [] => pure ()
        | root :: _ =>
          moveTo .releasing
          Action.ensuring (environment.closeHandle root) environment.conclude
        environment.closeIfOpen
        -- what the calls above set off may have disposed of the manager
        let gone ← Action.read fun session => session.manager.disposed
        if gone then Action.fail (.lacking .connectionGone) else environment.disposeConnection)
      (adjust fun manager => { manager with disposed := true })

end Environment

end EntitySql
