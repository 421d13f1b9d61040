import EntitySql.Action

/-!
# Transaction handles

A handle stands for one nesting level of a unit of work.  All handles of a
unit of work share one physical transaction; only the outermost commits or
releases it, but any of them rolls it back.
-/

namespace EntitySql

/-- One nesting level of a unit of work over a physical transaction. -/
structure Handle where
  resource : Nat
  depth : Int
  completed : Bool := false
  closed : Bool := false
  deriving DecidableEq, Repr, Inhabited

namespace Handle

def isRoot (handle : Handle) : Bool := handle.depth == 1

/-- Whether the handle may still commit or roll back. -/
def isUsable (handle : Handle) : Bool := !handle.completed && !handle.closed

def flag (truth : Bool) : String := if truth then "True" else "False"

def display (handle : Handle) : String :=
  "Transaction(depth=" ++ toString handle.depth ++ ", completed=" ++ flag handle.completed ++
    ", closed=" ++ flag handle.closed ++ ")"

end Handle

/-- Where a handle lives in a state, and how its physical transaction is ended. -/
structure HandleSite (σ : Type) where
  view : σ → Handle
  update : (Handle → Handle) → σ → σ
  commitResource : Action σ Unit
  rollbackResource : Action σ Unit
  closeResource : Action σ Unit

namespace HandleSite

variable {σ : Type}

def complete (site : HandleSite σ) : Action σ Unit :=
  Action.change (site.update fun handle => { handle with completed := true })

def requireUsable (site : HandleSite σ) : Action σ Unit := do
  let handle ← Action.read site.view
  if handle.isUsable then return () else Action.fail (.resource .alreadyCompleted)

def commit (site : HandleSite σ) (notify : Action σ Unit) : Action σ Unit := do
  site.requireUsable
  let handle ← Action.read site.view
  Action.whenever handle.isRoot site.commitResource
  site.complete
  notify

def rollback (site : HandleSite σ) (notify : Action σ Unit) : Action σ Unit := do
  site.requireUsable
  site.rollbackResource
  site.complete
  notify

/-- Closes the handle once, releasing the physical transaction if it is the
outermost handle and still open, and then tells the owner. -/
def close (site : HandleSite σ) (notify : Action σ Unit) : Action σ Unit := do
  let handle ← Action.read site.view
  if handle.closed then return ()
  else
    Action.change (site.update fun handle => { handle with closed := true })
    Action.whenever (handle.isRoot && !handle.completed) site.closeResource
    notify

end HandleSite

end EntitySql
