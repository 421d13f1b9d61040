import EntitySql.Session.Handle

/-!
# A handle on its own

A transaction handle without a manager: the physical transaction notes its
calls and may be told to fail, and callbacks note that they were called.
-/

namespace EntitySql.Rehearsal

/-- The operations of a handle that may have a callback. -/
inductive Notice where
  | commit
  | rollback
  | close
  deriving DecidableEq, Repr

def Notice.name : Notice → String
  | commit => "commit"
  | rollback => "rollback"
  | close => "close"

/-- A handle, its callbacks, what is failing and what has happened. -/
structure Solo where
  handle : Handle
  callbacks : List Notice
  failing : List String := []
  events : List String := []
  deriving Repr

inductive SoloStep where
  | commit
  | rollback
  | close
  | complete
  | display
  | enterAndLeave
  | fail (call : String) (active : Bool)
  deriving Repr

inductive SoloReply where
  | nothing
  | passed
  | text (text : String)
  deriving Repr

namespace Solo

def note (event : String) : Action Solo Unit :=
  Action.change fun solo => { solo with events := solo.events ++ [event] }

def resourceCall (call : String) : Action Solo Unit := do
  let failing ← Action.read fun solo => solo.failing
  if failing.contains call then Action.fail (.collaborator (call ++ " failed")) else note call

def notify (notice : Notice) : Action Solo Unit := do
  let solo ← Action.read fun solo => solo
  Action.whenever (solo.callbacks.contains notice)
    (note ("on_" ++ notice.name ++ ":" ++ toString solo.handle.depth))

def site : HandleSite Solo where
  view solo := solo.handle
  update change solo := { solo with handle := change solo.handle }
  commitResource := resourceCall "commit"
  rollbackResource := resourceCall "rollback"
  closeResource := resourceCall "tx_close"

def runStep : SoloStep → Action Solo SoloReply
  | .commit => do
    site.commit (notify .commit)
    return .nothing
  | .rollback => do
    site.rollback (notify .rollback)
    return .nothing
  | .close => do
    site.close (notify .close)
    return .nothing
  | .complete => do
    site.complete
    return .nothing
  | .display => do
    let handle ← Action.read fun solo => solo.handle
    return .text handle.display
  | .enterAndLeave => do
    site.close (notify .close)
    return .passed
  | .fail call active => do
    Action.change fun solo =>
      let others := solo.failing.filter (· != call)
      { solo with failing := if active then others ++ [call] else others }
    return .nothing

/-- Runs a step on a clean log. -/
def perform (step : SoloStep) (solo : Solo) : Except Fault SoloReply × Solo :=
  (runStep step).run { solo with events := [] }

end Solo

end EntitySql.Rehearsal
