import EntitySql.Proofs.Driver.Settlement

/-!
# Batches and single statements

A cursor that shows the results of a batch one after the other and a
connection that answers its statements one after the other come to the same.
-/

namespace EntitySql.Driver

variable {σ τ : Type}

/-- What a statement comes to: rows under different column names, or a number of affected
rows, which may be negative. -/
inductive Result where
  | table (columns : List String) (distinct : columns.Nodup) (rows : List (List Value))
  | count (number : Int)

namespace Result

/-- The result as the answer to a single statement. -/
def alone : Result → StatementResult
  | table columns _ rows => .rows (rows.map fun row => (columns.map Value.text).zip row)
  | count number => .count number

/-- The result as a cursor shows it. -/
def onCursor : Result → ResultSet
  | table columns _ rows => .table (columns.map Value.text) rows
  | count number => .count number

def named : Result → Option (List Row)
  | table columns _ rows => some (rows.map fun row => (columns.map Value.text).zip row)
  | count _ => none

def affected : Result → Int
  | table .. => 0
  | count number => max number 0

/-- The tally with one more result. -/
def joined (tally : Tally) (result : Result) : Tally where
  rows := result.named.or tally.rows
  affected := tally.affected + result.affected

theorem count_eq_joined (tally : Tally) (number : Int) :
    tally.count number = joined tally (count number) := by
  by_cases positive : 0 < number
  · simp [Tally.count, joined, named, affected, positive, Int.max_eq_left (Int.le_of_lt positive)]
  · simp [Tally.count, joined, named, affected, positive, Int.max_eq_right (Int.not_lt.mp positive)]

theorem add_alone (tally : Tally) (result : Result) :
    tally.add result.alone = joined tally result := by
  cases result with
  | table columns distinct rows => simp [alone, Tally.add, joined, named, affected]
  | count number => exact count_eq_joined tally number

theorem addSet_onCursor (tally : Tally) (result : Result) :
    tally.addSet result.onCursor = .ok (joined tally result) := by
  cases result with
  | table columns distinct rows =>
      have renamed : (rows.mapM fun row => Value.dictionary ((columns.map Value.text).zip row)) =
          .ok (rows.map fun row => (columns.map Value.text).zip row) := by
        simp only [Value.dictionary_of_texts distinct]
        exact List.mapM_pure
      simp [onCursor, Tally.addSet, renamed, bind, Except.bind, joined, named, affected]
  | count number => exact congrArg Except.ok (count_eq_joined tally number)

/-- The rows of the last result that has rows, and the sum of the positive numbers. -/
def tally (results : List Result) : Tally where
  rows := (results.filterMap named).getLast?
  affected := (results.map affected).foldr (· + ·) 0

theorem foldl_joined (results : List Result) (tally : Tally) :
    results.foldl joined tally =
      ⟨(results.filterMap named).getLast?.or tally.rows,
        tally.affected + (results.map affected).foldr (· + ·) 0⟩ := by
  induction results generalizing tally with
  | nil => simp
  | cons result rest ih =>
      rw [List.foldl_cons, ih, joined, List.map_cons, List.foldr_cons, ← Int.add_assoc]
      congr 1
      cases rows : result.named with
      | none => simp [rows]
      | some found =>
          cases last : (rest.filterMap named).getLast? <;>
            simp [rows, List.getLast?_cons, last]

theorem tally_eq_foldl (results : List Result) : tally results = results.foldl joined {} := by
  simp [tally, foldl_joined]

end Result

variable (driver : Driver σ)

/-- The cursor shows the results one after the other. -/
inductive Shows (cursor : Nat) : List Result → σ → σ → Prop
  | last {result : Result} {state read reached : σ}
      (reads : driver.readResult cursor state = (.ok result.onCursor, read))
      (moves : driver.nextResult cursor read = (.ok false, reached)) :
      Shows cursor [result] state reached
  | more {result : Result} {rest : List Result} {state read moved reached : σ}
      (reads : driver.readResult cursor state = (.ok result.onCursor, read))
      (moves : driver.nextResult cursor read = (.ok true, moved))
      (shows : Shows cursor rest moved reached) :
      Shows cursor (result :: rest) state reached

/-- The connection answers the statements by the results one after the other. -/
inductive Answers (connection : Nat) (parameters : List (String × Value)) :
    List String → List Result → σ → σ → Prop
  | nil {state : σ} : Answers connection parameters [] [] state state
  | cons {statement : String} {statements : List String} {result : Result}
      {rest : List Result} {state answered reached : σ}
      (runs : driver.execute connection statement parameters state = (.ok result.alone, answered))
      (answers : Answers connection parameters statements rest answered reached) :
      Answers connection parameters (statement :: statements) (result :: rest) state reached

/-- A batch runs on a cursor that shows the results. -/
inductive Serves (connection : Nat) (sql : String) (parameters : List (String × Value))
    (results : List Result) : σ → σ → Prop
  | mk {cursor : Nat} {state begun opened executed shown closed : σ}
      (begins : driver.beginIfNeeded connection state = (.ok (), begun))
      (opens : driver.openCursor connection begun = (.ok cursor, opened))
      (executes : driver.executeCursor cursor sql parameters opened = (.ok (), executed))
      (shows : driver.Shows cursor results executed shown)
      (closes : driver.closeCursor cursor shown = (.ok (), closed)) :
      Serves connection sql parameters results state closed

variable {driver}

theorem Shows.addResults {cursor : Nat} {results : List Result} {state reached : σ}
    (shows : driver.Shows cursor results state reached) (tally : Tally) :
    driver.addResults cursor tally state = (.ok (results.foldl Result.joined tally), reached) := by
  induction shows generalizing tally with
  | last reads moves =>
      rw [addResults_eq, Action.bind_of_ok reads, Result.addSet_onCursor]
      exact Action.bind_of_ok moves
  | more reads moves shows ih =>
      rw [addResults_eq, Action.bind_of_ok reads, Result.addSet_onCursor]
      exact (Action.bind_of_ok moves).trans (ih _)

theorem Answers.runInTurn {connection : Nat} {parameters : List (String × Value)}
    {statements : List String} {results : List Result} {state reached : σ}
    (answers : driver.Answers connection parameters statements results state reached)
    (tally : Tally) :
    driver.runInTurn connection parameters tally statements state =
      (.ok (results.foldl Result.joined tally), reached) := by
  induction answers generalizing tally with
  | nil => rfl
  | cons runs answers ih =>
      refine (Action.bind_of_ok runs).trans ?_
      rw [Result.add_alone]
      exact ih _

theorem Serves.runOnCursor {connection : Nat} {sql : String} {parameters : List (String × Value)}
    {results : List Result} {state reached : σ}
    (serves : driver.Serves connection sql parameters results state reached) :
    driver.runOnCursor connection sql parameters state =
      (.ok (Result.tally results), reached) := by
  cases serves with
  | mk begins opens executes shows closes =>
      refine (Action.bind_of_ok begins).trans ((Action.bind_of_ok opens).trans ?_)
      refine Action.ensuring_of_ok ?_ closes
      rw [Action.bind_of_ok executes, shows.addResults, Result.tally_eq_foldl]

variable (driver)

/-- What happens to the transaction after statements that went well. -/
def ending (connection : Nat) (inside : Bool) : Action σ Unit :=
  Action.onFailure (Action.whenever (!inside) (driver.commitConnection connection))
    (Action.whenever (!inside) (driver.rollbackConnection connection))

variable {driver}

theorem runText_of_statements {batches inside : Bool} {sql : String}
    {parameters : List (String × Value)} {connection : Nat} {tally : Tally} {state served : σ}
    (live : driver.live state = (.ok connection, state))
    (ran : driver.runStatements batches connection sql parameters state = (.ok tally, served)) :
    (driver.runText batches sql parameters inside state).1 =
      (driver.ending connection inside served).1.map fun _ => tally := by
  rw [runText, Action.bind_of_ok live]
  exact Action.onFailure_bind_fst ran

theorem answer_runRequest (driver : Driver σ) (batches : Bool) (request : Request) (state : σ) :
    (driver.runRequest batches request state).1 =
      (driver.runText batches request.sql request.parameters request.transaction.isSome state).1 >>=
        answerOf request := by
  rw [runRequest_eq]
  rcases ran : driver.runText batches request.sql request.parameters request.transaction.isSome
    state with ⟨fault | tally, reached⟩
  · exact congrArg Prod.fst (Action.bind_of_error ran)
  · exact congrArg Prod.fst (Action.bind_of_ok ran)

/-- A batch and its single statements come to the same rows and the same number of affected
rows, and so does every request, if its transaction ends in the same way. -/
theorem modes_agree {batching : Driver σ} {splitting : Driver τ} {request : Request}
    {results : List Result} {connection other : Nat} {state served : σ} {start answered : τ}
    (live : batching.live state = (.ok connection, state))
    (lives : splitting.live start = (.ok other, start))
    (serves : batching.Serves connection request.sql request.parameters results state served)
    (answers : splitting.Answers other request.parameters (Batch.split request.sql) results
      start answered)
    (ends : (batching.ending connection request.transaction.isSome served).1 =
      (splitting.ending other request.transaction.isSome answered).1) :
    batching.runOnCursor connection request.sql request.parameters state =
        (.ok (Result.tally results), served) ∧
      splitting.runInTurn other request.parameters {} (Batch.split request.sql) start =
        (.ok (Result.tally results), answered) ∧
      (batching.runRequest true request state).1 =
        (splitting.runRequest false request start).1 := by
  have batched : batching.runStatements true connection request.sql request.parameters state =
      (.ok (Result.tally results), served) := serves.runOnCursor
  have split : splitting.runStatements false other request.sql request.parameters start =
      (.ok (Result.tally results), answered) := by
    rw [Result.tally_eq_foldl]
    exact answers.runInTurn {}
  have same : (batching.runText true request.sql request.parameters request.transaction.isSome
        state).1 =
      (splitting.runText false request.sql request.parameters request.transaction.isSome
        start).1 := by
    rw [runText_of_statements live batched, runText_of_statements lives split, ends]
  refine ⟨batched, split, ?_⟩
  rw [answer_runRequest, answer_runRequest, same]

end EntitySql.Driver

namespace EntitySql.Rehearsal

open Driver

/-- Two statements, one of which has rows. -/
theorem removal_modes_agree :
    let removal := execution "DELETE FROM Person; SELECT Id FROM Person"
    let batched := connected [{ sets := .ok [.count 2, .table [.text "Id"] [[.int 3]]] }] []
    let single := connected [{ count := 2 }, { rows := some (.ok [[(.text "Id", .int 3)]]) }] []
    (unhooked.runRequest true removal batched).1 = (unhooked.runRequest false removal single).1 ∧
      (unhooked.runOnCursor 0 removal.sql [] batched).1 =
        .ok { rows := some [[(.text "Id", .int 3)]], affected := 2 } := by
  intro removal batched single
  let results : List Driver.Result := [.count 2, .table ["Id"] (by decide) [[.int 3]]]
  have statements : Batch.split removal.sql = ["DELETE FROM Person", "SELECT Id FROM Person"] := by
    decide
  obtain ⟨served, serves, ended⟩ : ∃ served,
      unhooked.Serves 0 removal.sql [] results batched served ∧
        (unhooked.ending 0 false served).1 = .ok () :=
    ⟨_, .mk rfl rfl rfl (.more rfl rfl (.last rfl rfl)) rfl, rfl⟩
  obtain ⟨answered, answers, finished⟩ : ∃ answered,
      unhooked.Answers 0 [] (Batch.split removal.sql) results single answered ∧
        (unhooked.ending 0 false answered).1 = .ok () := by
    rw [statements]
    exact ⟨_, .cons rfl (.cons rfl .nil), rfl⟩
  obtain ⟨onCursor, -, same⟩ := @modes_agree _ _ unhooked unhooked removal results 0 0 batched
    served single answered rfl rfl serves answers (ended.trans finished.symm)
  exact ⟨same, congrArg Prod.fst onCursor⟩

end EntitySql.Rehearsal
