import EntitySql.Proofs.Session.Operation

/-!
# Sample worlds

Small worlds that a manager is run in, of which nothing is left but what the connection
reports.  They differ in the calls that fail.
-/

namespace EntitySql.Outside

/-- A world in which every call succeeds and whose connection breaks whenever it
is left to itself.  All there is to it is what the connection reports. -/
def obliging : Outside ConnectionState where
  connectionState := id
  openConnection := Action.change fun _ => .opened
  closeConnection := Action.change fun _ => .closed
  beginTransaction _ := Action.answer 0
  disposeConnection := Action.answer ()
  commitResource _ := Action.answer ()
  rollbackResource _ := Action.answer ()
  closeResource _ := Action.answer ()
  run _ := Action.answer .null
  elapse _ := .broken

/-- A world like the obliging one, except that it never releases a physical
transaction. -/
def clinging : Outside ConnectionState :=
  { obliging with closeResource := fun _ => Action.fail (.collaborator "tx_close failed") }

/-- A world like the obliging one, except that every statement breaks the connection. -/
def fragile : Outside ConnectionState :=
  { obliging with run := fun _ _ => (.error (.collaborator "server closed the connection"), .broken) }

/-- A world like the obliging one, except that every begin fails and breaks the connection. -/
def reluctant : Outside ConnectionState :=
  { obliging with
    beginTransaction := fun _ _ => (.error (.collaborator "begin failed"), .broken) }

/-- A world like the obliging one, except that no physical transaction can be ended.  An attempt to
commit one breaks the connection. -/
def unyielding : Outside ConnectionState :=
  { obliging with
    commitResource := fun _ _ => (.error (.collaborator "commit failed"), .broken)
    rollbackResource := fun _ => Action.fail (.collaborator "rollback failed") }

end EntitySql.Outside
