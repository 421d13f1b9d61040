import EntitySql.Value

/-!
# States of connections and transactions

The states that a physical connection reports, the phases a unit of work
goes through, and the isolation levels that a transaction may ask for.
-/

namespace EntitySql

inductive ConnectionState where
  | closed
  | opened
  | broken
  deriving DecidableEq, Repr

def ConnectionState.name : ConnectionState → String
  | closed => "closed"
  | opened => "open"
  | broken => "broken"

/-- Where a unit of work stands.  The three phases between `active` and the
return to `idle` last only while the end of the transaction is under way. -/
inductive Phase where
  | idle
  | active
  | committing
  | rollingBack
  | releasing
  deriving DecidableEq, Repr

def Phase.name : Phase → String
  | idle => "idle"
  | active => "active"
  | committing => "committing"
  | rollingBack => "rolling_back"
  | releasing => "releasing"

inductive IsolationLevel where
  | readUncommitted
  | readCommitted
  | repeatableRead
  | serializable
  | snapshot
  deriving DecidableEq, Repr

namespace IsolationLevel

def all : List IsolationLevel :=
  [readUncommitted, readCommitted, repeatableRead, serializable, snapshot]

def spelling : IsolationLevel → String
  | readUncommitted => "READ UNCOMMITTED"
  | readCommitted => "READ COMMITTED"
  | repeatableRead => "REPEATABLE READ"
  | serializable => "SERIALIZABLE"
  | snapshot => "SNAPSHOT"

def ofSpelling (spelling : String) : Option IsolationLevel :=
  all.find? (·.spelling == spelling)

end IsolationLevel

end EntitySql
