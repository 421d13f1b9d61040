import EntitySql.Entity.Row
import EntitySql.Session.Environment

/-!
# Database drivers

The calls that reach a database through its driver.  Connections and
transactions of the driver are given by numbers; the state also keeps the
number of the one connection that is held.
-/

namespace EntitySql

/-- The result of one statement: rows by column name, or the number of
affected rows, which is negative if the driver does not know it. -/
inductive StatementResult where
  | rows (rows : List Row)
  | count (number : Int)
  deriving Repr

/-- One result of a batch as a cursor shows it. -/
inductive ResultSet where
  | table (columns : List Value) (rows : List (List Value))
  | count (number : Int)
  deriving Repr

/-- A database driver.  A batch has finitely many results: `pending` bounds
how many of them a cursor still has to show. -/
structure Driver (σ : Type) where
  held : σ → Option Nat
  hold : Option Nat → σ → σ
  isClosed : σ → Nat → Bool
  isInvalidated : σ → Nat → Bool
  inTransaction : σ → Nat → Bool
  connect : Action σ Nat
  disconnect : Nat → Action σ Unit
  setIsolation : Nat → IsolationLevel → Action σ Unit
  beginTransaction : Nat → Action σ Nat
  commitConnection : Nat → Action σ Unit
  rollbackConnection : Nat → Action σ Unit
  execute : Nat → String → List (String × Value) → Action σ StatementResult
  openCursor : Nat → Action σ Nat
  executeCursor : Nat → String → List (String × Value) → Action σ Unit
  readResult : Nat → Action σ ResultSet
  nextResult : Nat → Action σ Bool
  closeCursor : Nat → Action σ Unit
  commitTransaction : Nat → Action σ Unit
  rollbackTransaction : Nat → Action σ Unit
  closeTransaction : Nat → Action σ Unit
  pending : σ → Nat → Nat
  pending_readResult : ∀ cursor state,
    pending (readResult cursor state).2 cursor ≤ pending state cursor
  pending_nextResult : ∀ cursor state, (nextResult cursor state).1 = .ok true →
    pending (nextResult cursor state).2 cursor < pending state cursor

end EntitySql
