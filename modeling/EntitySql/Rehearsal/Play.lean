import EntitySql.Rehearsal.Stage

/-!
# Playing a rehearsal

Steps are run under an environment.  A hook runs under an environment of one
level less; since every hook runs once, as many levels as there are steps
are enough.
-/

namespace EntitySql.Rehearsal

structure Setting where
  dialect : Dialect
  playsDriver : Bool
  deriving Repr

/-- An environment together with the driver below it. -/
structure Cast where
  setting : Setting
  environment : Environment Stage
  driver : Driver (Session Stage)

/-- The cast in which hooked steps are run by `runHook`. -/
def castWith (setting : Setting) (runHook : Step → Play Reply) : Cast where
  setting := setting
  environment :=
    if setting.playsDriver then (scripted runHook).environment setting.dialect.batches
    else recording runHook
  driver := scripted runHook

/-- Answers a step that has no result of its own. -/
def silently (action : Play Unit) : Play Reply := do
  action
  return .value .null

def runDirect (driver : Driver (Session Stage)) (request : DirectRequest) : Play Reply := do
  let value ← driver.runRequest request.batches {
    kind := request.kind
    sql := request.sql
    parameters := request.parameters
    type := request.type
    transaction := if request.inTransaction then some 0 else none }
  return .value value

def runConnectionCall (driver : Driver (Session Stage)) (call : ConnectionCall) :
    Play Reply := do
  match call with
  | .state => return .stateName (← Action.read driver.connectionState)
  | .live =>
    let _ ← driver.live
    return .value (.bool true)
  | .openConnection => silently driver.openConnection
  | .close => silently driver.closeConnection
  | .dispose => silently driver.closeConnection
  | .begin level =>
    let _ ← driver.live
    let isolation ← Action.ofExcept
      (if level.isNull then .ok none
      else (Choice.isolationLevel.pick IsolationLevel.ofSpelling level).map some)
    let _ ← driver.beginOn isolation
    return .value (.bool true)

def runHandleCall (environment : Environment Stage) (number : Nat) (call : HandleCall) :
    Play Unit :=
  match call with
  | .commit => environment.commitHandle number
  | .rollback => environment.rollbackHandle number
  | .close => environment.closeHandle number

/-- The number of a handle that is counted from the first one or, if it is
negative, from behind the last one. -/
def handleNumber (session : Session Stage) (number : Int) : Except Fault Nat :=
  let count : Int := session.handles.length
  let place := if number < 0 then number + count else number
  if 0 ≤ place && place < count then .ok place.toNat else .error (.outOfRange number)

def Mark.set (mark : Mark) (connection : DriverConnection) : DriverConnection :=
  match mark with
  | .closed => { connection with closed := true }
  | .invalidated => { connection with invalidated := true }

mutual

def runStep (cast : Cast) : Step → Play Reply
  | .openConnection => do
    let opened ← cast.environment.openIfNeeded
    return .value (.bool opened)
  | .close => silently cast.environment.close
  | .begin level => do
    let number ← cast.environment.begin level
    let handle ← Action.read fun session => session.handleAt number
    return .handle number handle.depth
  | .commit => silently cast.environment.commit
  | .rollback => silently cast.environment.rollback
  | .dispose => silently cast.environment.dispose
  | .handle place call => do
    let number ← Action.ofExcept (← Action.read fun session => handleNumber session place)
    silently (runHandleCall cast.environment number call)
  | .withTransaction level steps => do
    let number ← cast.environment.begin level
    let outcomes ← runSteps cast steps
    cast.environment.closeHandle number
    return .outcomes outcomes
  | .withManager steps => do
    let outcomes ← runSteps cast steps
    cast.environment.dispose
    return .outcomes outcomes
  | .work work => do
    let value ← cast.environment.perform cast.setting.dialect work
    return .value value
  | .state => do
    Session.refuseIfDisposed
    return .status (← Action.read cast.environment.connectionState)
  | .fail call active =>
    silently (onStage fun stage =>
      let others := stage.failing.filter (· != call)
      { stage with failing := if active then others ++ [call] else others })
  | .hook call step =>
    silently (onStage fun stage => { stage with hooks := stage.hooks ++ [(call, step)] })
  | .prepareResult value =>
    silently (onStage fun stage => { stage with results := stage.results ++ [value] })
  | .prepareDriver entries =>
    silently (onStage fun stage => { stage with script := stage.script ++ entries })
  | .breakConnection =>
    silently (onStage fun stage => { stage with connection := .broken })
  | .mark mark => do
    match ← fromStage (·.held) with
    | some number => silently (onConnection number mark.set)
    | none => Action.ofExcept (.error (.lacking .connectionGone))
  | .direct request => runDirect cast.driver request
  | .connection call => runConnectionCall cast.driver call
  | .refused fault => Action.ofExcept (.error fault)

/-- Runs steps one after the other; a failing step does not stop the others. -/
def runSteps (cast : Cast) : List Step → Play (List (Except Fault Reply))
  | [] => return []
  | step :: rest => do
    let outcome ← Action.attempt (runStep cast step)
    let outcomes ← runSteps cast rest
    return outcome :: outcomes

end

/-- The cast whose hooks may call back so many levels deep.  At level zero
a hook has no effect. -/
def castAt (setting : Setting) : Nat → Cast
  | 0 => castWith setting fun _ => pure (.value .null)
  | level + 1 => castWith setting (runStep (castAt setting level))

mutual

def hookCount : Step → Nat
  | .hook _ step => 1 + hookCount step
  | .withTransaction _ steps => hookCounts steps
  | .withManager steps => hookCounts steps
  | _ => 0

def hookCounts : List Step → Nat
  | [] => 0
  | step :: rest => hookCount step + hookCounts rest

end

structure Snapshot where
  outcome : Except Fault Reply
  events : List String
  seen : List Seen
  hooked : List (String × Except Fault Reply)
  warnings : List Warning
  connection : ConnectionState
  manager : Manager
  handles : List Handle

/-- The session with a clean log. -/
def cleared (session : Session Stage) : Session Stage :=
  { session with
    warnings := []
    world := { session.world with events := [], seen := [], hooked := [] } }

def snapshot (cast : Cast) (step : Step) (session : Session Stage) :
    Snapshot × Session Stage :=
  let (outcome, reached) := (runStep cast step).run (cleared session)
  ({ outcome
     events := reached.world.events
     seen := reached.world.seen
     hooked := reached.world.hooked
     warnings := reached.warnings
     connection := cast.environment.connectionState reached
     manager := reached.manager
     handles := reached.handles }, reached)

def playFrom (cast : Cast) (session : Session Stage) : List Step → List Snapshot
  | [] => []
  | step :: rest =>
    let (shot, reached) := snapshot cast step session
    shot :: playFrom cast reached rest

def play (setting : Setting) (steps : List Step) : List Snapshot :=
  playFrom (castAt setting (hookCounts steps + 1)) { world := {} } steps

end EntitySql.Rehearsal
