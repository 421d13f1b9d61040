import EntitySql.Proofs.Driver.Log
import EntitySql.Rehearsal.Stage

/-!
# How a request leaves its connection

Outside of a transaction the statements of a request are followed by a commit,
or by a rollback if a call raised; inside of one nothing is committed or rolled
back.  Either way every cursor that was opened is closed.
-/

namespace EntitySql.Driver

variable {σ α β : Type}

/-- What the last of the failing calls raised. -/
def lastFault (entries : List Entry) : Option Fault :=
  (entries.filterMap Entry.fault).getLast?

/-- The cursors that are open after a call.  A cursor counts as closed even if closing it raises. -/
def Entry.leaving (cursors : List Nat) (entry : Entry) : List Nat :=
  match entry.call.closed with
  | some cursor => cursors.erase cursor
  | none => entry.opened.toList ++ cursors

def leftOpen (cursors : List Nat) (entries : List Entry) : List Nat :=
  entries.foldl Entry.leaving cursors

@[simp]
theorem lastFault_singleton (entry : Entry) : lastFault [entry] = entry.fault := by
  cases fault : entry.fault <;> simp [lastFault, fault]

theorem lastFault_append (first last : List Entry) :
    lastFault (first ++ last) = (lastFault last).or (lastFault first) := by
  rw [lastFault, List.filterMap_append, List.getLast?_append]
  rfl

theorem leftOpen_append (cursors : List Nat) (first last : List Entry) :
    leftOpen cursors (first ++ last) = leftOpen (leftOpen cursors first) last :=
  List.foldl_append

/-! ## The calls of statements -/

/-- Calls that end no transaction and close what they open.  The last fault among them is
what becomes of them. -/
structure Worked (entries : List Entry) (outcome : Option Fault) : Prop where
  fault : lastFault entries = outcome
  quiet : ∀ entry ∈ entries, entry.call.isEnding = false
  cursors : ∀ cursors, leftOpen cursors entries = cursors

namespace Worked

variable {first last entries : List Entry} {before after : Option Fault}

theorem nil : Worked [] none where
  fault := rfl
  quiet _ member := absurd member List.not_mem_nil
  cursors _ := rfl

theorem append (worked : Worked first before) (more : Worked last after) :
    Worked (first ++ last) (after.or before) where
  fault := by rw [lastFault_append, worked.fault, more.fault]
  quiet entry member := (List.mem_append.mp member).elim (worked.quiet entry) (more.quiet entry)
  cursors cursors := by rw [leftOpen_append, worked.cursors, more.cursors]

theorem append_of_faultless (worked : Worked first none) (more : Worked last after) :
    Worked (first ++ last) after := by
  simpa using worked.append more

theorem single {entry : Entry} (quiet : entry.call.isEnding = false)
    (closes : entry.call.closed = none) (opens : entry.opened = none) :
    Worked [entry] entry.fault where
  fault := lastFault_singleton entry
  quiet other member := by rw [List.mem_singleton.mp member, quiet]
  cursors cursors := by simp [leftOpen, Entry.leaving, closes, opens]

theorem onCursor {cursor connection : Nat} {closing : Except Fault Unit}
    (worked : Worked entries before) :
    Worked (.opening connection (.ok cursor) :: (entries ++ [.plain (.closeCursor cursor) closing]))
      ((Fault.raised closing).or before) where
  fault := by
    have opened : (Entry.opening connection (.ok cursor)).fault = none := rfl
    rw [← List.singleton_append, lastFault_append, lastFault_append, worked.fault,
      lastFault_singleton, lastFault_singleton, opened, Option.or_none]
    rfl
  quiet entry member := by
    rcases List.mem_cons.mp member with rfl | rest
    · rfl
    · rcases List.mem_append.mp rest with inside | last
      · exact worked.quiet entry inside
      · rw [List.mem_singleton.mp last]
        rfl
  cursors cursors := by
    rw [← List.singleton_append, leftOpen_append, leftOpen_append, worked.cursors]
    exact List.erase_cons_head cursor cursors

end Worked

/-- The action does what the bare one does, by calls whose last fault is its own. -/
def Works (action : Action (Logged σ) α) (bare : Action σ α) (state : σ) : Prop :=
  Logs action bare state (fun entries _ _ => Worked entries none)
    (fun entries fault _ => Worked entries (some fault))

namespace Works

variable {state : σ}

theorem noted {bare : Action σ α} {call : Call} (quiet : call.isEnding = false)
    (closes : call.closed = none) : Works (noting bare (.plain call)) bare state :=
  Logs.noted (fun _ _ _ => Worked.single quiet closes rfl)
    (fun _ _ _ => Worked.single quiet closes rfl)

theorem answer {value : α} : Works (pure value) (pure value) state :=
  Logs.answer Worked.nil

theorem bind {action : Action (Logged σ) β} {bare : Action σ β}
    {next : β → Action (Logged σ) α} {bareNext : β → Action σ α} (works : Works action bare state)
    (continues : ∀ value reached, bare state = (.ok value, reached) →
      Works (next value) (bareNext value) reached) :
    Works (action >>= next) (bare >>= bareNext) state :=
  Logs.bind <| works.ran.mono
    (fun _ value reached ⟨ran, worked⟩ => (continues value reached ran).mono
      (fun _ _ _ more => worked.append_of_faultless more)
      (fun _ _ _ more => worked.append_of_faultless more))
    (fun _ _ _ worked => worked)

end Works

theorem raised_addSet (tally other : Tally) (result : ResultSet) :
    Fault.raised (tally.addSet result) = Fault.raised (other.addSet result) := by
  cases result with
  | table columns rows =>
      simp only [Tally.addSet]
      cases rows.mapM fun row => Value.dictionary (columns.zip row) <;> rfl
  | count number => rfl

variable (driver : Driver σ)

theorem works_runInTurn (connection : Nat) (parameters : List (String × Value)) (tally : Tally)
    (statements : List String) (state : σ) :
    Works (driver.logged.runInTurn connection parameters tally statements)
      (driver.runInTurn connection parameters tally statements) state := by
  induction statements generalizing tally state with
  | nil => exact Works.answer
  | cons statement rest ih =>
      exact (Works.noted rfl rfl).bind fun result reached _ => ih (tally.add result) reached

/-- The result that a cursor stands on is read and added; the entry for reading it has what
either of the two raises. -/
theorem works_read (cursor : Nat) (tally : Tally) (state : σ)
    {next : Tally → Action (Logged σ) α} {bareNext : Tally → Action σ α}
    (continues : ∀ result added reached, driver.readResult cursor state = (.ok result, reached) →
      Works (next added) (bareNext added) reached) :
    Works
      (driver.logged.readResult cursor >>= fun result =>
        Action.ofExcept (tally.addSet result) >>= next)
      (driver.readResult cursor >>= fun result =>
        Action.ofExcept (tally.addSet result) >>= bareNext) state := by
  refine Logs.bind (Logs.noted (fun result reached ran => ?_) fun fault reached ran =>
    Worked.single rfl rfl rfl)
  have raised : (Entry.reading cursor (.ok result)).fault = Fault.raised (tally.addSet result) :=
    raised_addSet {} tally result
  have read : Worked [.reading cursor (.ok result)] (Fault.raised (tally.addSet result)) :=
    raised ▸ Worked.single rfl rfl rfl
  refine Logs.bind (Logs.ofExcept (fun added adds => ?_) fun fault adds => ?_)
  · rw [adds] at read
    exact (continues result added reached ran).mono
      (fun _ _ _ more => read.append_of_faultless more)
      (fun _ _ _ more => read.append_of_faultless more)
  · rw [adds] at read
    exact read

theorem works_addResults (cursor : Nat) (tally : Tally) (state : σ) :
    Works (driver.logged.addResults cursor tally) (driver.addResults cursor tally) state := by
  induction left : driver.pending state cursor using Nat.strongRecOn
    generalizing tally state with
  | _ pending ih =>
      rw [addResults_eq driver.logged, addResults_eq driver]
      refine driver.works_read cursor tally state fun result added reached read => ?_
      refine (Works.noted rfl rfl).bind fun more moved moves => ?_
      cases more with
      | false => exact Works.answer
      | true =>
          have fewer : driver.pending moved cursor < pending :=
            left ▸ Nat.lt_of_lt_of_le (driver.pending_of_nextResult moves)
              (driver.pending_of_readResult read)
          exact ih _ fewer added moved rfl

theorem works_beginIfNeeded (connection : Nat) (state : σ) :
    Works (driver.logged.beginIfNeeded connection) (driver.beginIfNeeded connection) state := by
  refine Logs.known (driver.inTransaction state connection) rfl (fun _ => rfl) ?_
  cases driver.inTransaction state connection with
  | true => exact Works.answer
  | false => exact Works.bind (.noted rfl rfl) fun _ _ _ => Works.answer

theorem works_runOnCursor (connection : Nat) (sql : String) (parameters : List (String × Value))
    (state : σ) :
    Works (driver.logged.runOnCursor connection sql parameters)
      (driver.runOnCursor connection sql parameters) state := by
  refine (driver.works_beginIfNeeded connection state).bind fun _ begun _ => ?_
  refine Logs.bind (Logs.noted (fun cursor opened _ => ?_) fun _ _ _ =>
    Worked.single rfl rfl rfl)
  have executes : Works (driver.logged.executeCursor cursor sql parameters)
      (driver.executeCursor cursor sql parameters) opened := .noted rfl rfl
  have reads := executes.bind fun _ executed _ => driver.works_addResults cursor {} executed
  refine Logs.ensuring (reads.mono (fun entries tally reached worked => ?_)
    fun entries fault reached worked => ?_)
  · exact Logs.noted (fun _ _ _ => worked.onCursor) fun _ _ _ => worked.onCursor
  · exact Logs.noted (fun _ _ _ => worked.onCursor) fun _ _ _ => worked.onCursor

theorem works_runStatements (batches : Bool) (connection : Nat) (sql : String)
    (parameters : List (String × Value)) (state : σ) :
    Works (driver.logged.runStatements batches connection sql parameters)
      (driver.runStatements batches connection sql parameters) state := by
  cases batches with
  | true => exact driver.works_runOnCursor connection sql parameters state
  | false => exact driver.works_runInTurn connection parameters {} (Batch.split sql) state

/-! ## The end of a request -/

/-- A commit or a rollback of a connection that succeeds leaves it in no transaction. -/
structure EndsTransactions : Prop where
  commit : ∀ connection state reached,
    driver.commitConnection connection state = (.ok (), reached) →
      driver.inTransaction reached connection = false
  rollback : ∀ connection state reached,
    driver.rollbackConnection connection state = (.ok (), reached) →
      driver.inTransaction reached connection = false

/-- The calls of a request and its answer, by whether it is inside of a transaction.  A fault
of the rollback takes the place of the one that led to it. -/
inductive Settled (connection : Nat) : Bool → List Entry → Except Fault α → Prop
  | kept {work : List Entry} {outcome : Option Fault} {answer : Except Fault α}
      (worked : Worked work outcome)
      (raises : ∀ fault, outcome = some fault → answer = .error fault) :
      Settled connection true work answer
  | committed {work : List Entry} {answer : Except Fault α} (worked : Worked work none) :
      Settled connection false (work ++ [.plain (.commit connection) (.ok ())]) answer
  | rolledBack {work : List Entry} {fault : Fault} {rollback : Except Fault Unit}
      (worked : Worked work (some fault)) :
      Settled connection false (work ++ [.plain (.rollback connection) rollback])
        (.error ((Fault.raised rollback).getD fault))
  | refused {work : List Entry} {fault : Fault} {rollback : Except Fault Unit}
      (worked : Worked work none) :
      Settled connection false
        (work ++ [.plain (.commit connection) (.error fault),
          .plain (.rollback connection) rollback])
        (.error ((Fault.raised rollback).getD fault))

theorem Settled.cursors {connection : Nat} {inside : Bool} {entries : List Entry}
    {answer : Except Fault α} (settled : Settled connection inside entries answer)
    (cursors : List Nat) : leftOpen cursors entries = cursors := by
  cases settled with
  | kept worked raises => exact worked.cursors cursors
  | committed worked | rolledBack worked | refused worked =>
      rw [leftOpen_append, worked.cursors]
      rfl

/-- The request has settled, and if nothing went wrong in ending its transaction, it has ended. -/
structure Rests (connection : Nat) (inside : Bool) (entries : List Entry)
    (answer : Except Fault α) (reached : σ) : Prop where
  settled : Settled connection inside entries answer
  ended : inside = false → driver.EndsTransactions →
    (∀ last ∈ entries.getLast?, last.fault = none) →
      driver.inTransaction reached connection = false

theorem live_cases (state : σ) :
    (∃ fault, driver.live state = (.error fault, state) ∧
      ∀ log, driver.logged.live ⟨state, log⟩ = (.error fault, ⟨state, log⟩)) ∨
    ∃ connection, driver.live state = (.ok connection, state) ∧
      ∀ log, driver.logged.live ⟨state, log⟩ = (.ok connection, ⟨state, log⟩) := by
  cases held : driver.held state with
  | none => exact .inl ⟨.resource .notOpen, by simp [live, logged, held]⟩
  | some connection =>
      cases closed : driver.isClosed state connection with
      | true => exact .inl ⟨.resource .notOpen, by simp [live, logged, held, closed]⟩
      | false => exact .inr ⟨connection, by simp [live, logged, held, closed]⟩

theorem rests_rollback {connection : Nat} {entries : List Entry} {fault : Fault} {state : σ}
    (settles : ∀ rollback : Except Fault Unit, Settled connection false
      (entries ++ [.plain (.rollback connection) rollback])
      (.error ((Fault.raised rollback).getD fault) : Except Fault α)) :
    Logs (driver.logged.rollbackConnection connection) (driver.rollbackConnection connection) state
      (fun later _ reached => driver.Rests connection false (entries ++ later)
        (.error fault : Except Fault α) reached)
      (fun later other reached => driver.Rests connection false (entries ++ later)
        (.error other : Except Fault α) reached) := by
  refine Logs.noted (fun value reached ran => ⟨settles (.ok ()), fun _ ends _ => ?_⟩)
    fun other reached ran => ⟨settles (.error other), fun _ _ faultless => ?_⟩
  · exact ends.rollback connection state reached ran
  · have raised : some other = none := faultless _ List.getLast?_concat
    cases raised

theorem rests_runText (batches inside : Bool) (sql : String) (parameters : List (String × Value))
    {state : σ} {connection : Nat} (live : driver.live state = (.ok connection, state))
    (liveLogged : ∀ log, driver.logged.live ⟨state, log⟩ = (.ok connection, ⟨state, log⟩)) :
    Logs (driver.logged.runText batches sql parameters inside)
      (driver.runText batches sql parameters inside) state
      (fun entries _ reached => ∀ answer : Except Fault α,
        driver.Rests connection inside entries answer reached)
      (fun entries fault reached =>
        driver.Rests connection inside entries (.error fault : Except Fault α) reached) := by
  refine Logs.known connection live liveLogged (Logs.onFailure (Logs.bind
    ((driver.works_runStatements batches connection sql parameters state).mono
      (fun work tally worked faultless => ?_) fun work fault failed faulty => ?_)))
  · cases inside with
    | true =>
        refine Logs.answer fun answer => ?_
        rw [List.append_nil]
        exact ⟨.kept faultless nofun, nofun⟩
    | false =>
        refine Logs.bind (Logs.noted (fun _ committed ran => ?_) fun fault refused _ => ?_)
        · refine Logs.answer fun answer => ⟨.committed faultless, fun _ ends _ => ?_⟩
          exact ends.commit connection worked committed ran
        · refine driver.rests_rollback fun rollback => ?_
          rw [List.append_assoc]
          exact .refused faultless
  · cases inside with
    | true =>
        refine Logs.answer ?_
        rw [List.append_nil]
        exact ⟨.kept faulty fun _ same => by rw [Option.some.inj same], nofun⟩
    | false => exact driver.rests_rollback fun rollback => .rolledBack faulty

/-- What is made of the tally of the statements makes no more calls. -/
theorem rests_runRequest (batches : Bool) (request : Request) {state : σ} {connection : Nat}
    (live : driver.live state = (.ok connection, state))
    (liveLogged : ∀ log, driver.logged.live ⟨state, log⟩ = (.ok connection, ⟨state, log⟩)) :
    Logs (driver.logged.runRequest batches request) (driver.runRequest batches request) state
      (fun entries value reached =>
        driver.Rests connection request.transaction.isSome entries (.ok value) reached)
      (fun entries fault reached =>
        driver.Rests connection request.transaction.isSome entries
          (.error fault : Except Fault Value) reached) := by
  rw [runRequest_eq, runRequest_eq]
  refine Logs.bind ((driver.rests_runText batches request.transaction.isSome request.sql
    request.parameters live liveLogged).mono (fun entries tally reached rests => ?_)
    fun _ _ _ rests => rests)
  refine Logs.ofExcept (fun value _ => ?_) fun fault _ => ?_
  · rw [List.append_nil]
    exact rests (.ok value)
  · rw [List.append_nil]
    exact rests (.error fault)

theorem runRequest_of_not_live (batches : Bool) (request : Request) {state reached : σ}
    {fault : Fault} (live : driver.live state = (.error fault, reached)) :
    driver.runRequest batches request state = (.error fault, reached) := by
  have refused : driver.runText batches request.sql request.parameters
      request.transaction.isSome state = (.error fault, reached) := Action.bind_of_error live
  rw [runRequest_eq]
  exact Action.bind_of_error refused

/-- A request makes no call without an open connection, and else settles on it.  All cursors
that it opened are closed, and outside of a transaction the connection is left in none unless
ending it raised. -/
theorem request_settles (batches : Bool) (request : Request) (state : σ) (log : List Entry) :
    ∃ entries,
      driver.logged.runRequest batches request ⟨state, log⟩ =
        ((driver.runRequest batches request state).1,
          ⟨(driver.runRequest batches request state).2, log ++ entries⟩) ∧
      match (driver.live state).1 with
      | .error fault =>
        entries = [] ∧ driver.runRequest batches request state = (.error fault, state)
      | .ok connection =>
        Settled connection request.transaction.isSome entries
          (driver.runRequest batches request state).1 ∧
        leftOpen [] entries = [] ∧
        (request.transaction = none → driver.EndsTransactions →
          (∀ last ∈ entries.getLast?, last.fault = none) →
            driver.inTransaction (driver.runRequest batches request state).2 connection =
              false) := by
  rcases driver.live_cases state with ⟨fault, live, liveLogged⟩ | ⟨connection, live, liveLogged⟩
  · have refused := driver.runRequest_of_not_live batches request live
    refine ⟨[], ?_, ?_⟩
    · rw [refused, driver.logged.runRequest_of_not_live batches request (liveLogged log),
        List.append_nil]
    · rw [live]
      exact ⟨rfl, refused⟩
  · obtain ⟨entries, ran, holds⟩ := driver.rests_runRequest batches request live liveLogged log
    have rests : driver.Rests connection request.transaction.isSome entries
        (driver.runRequest batches request state).1
        (driver.runRequest batches request state).2 := by
      rcases answered : driver.runRequest batches request state with ⟨fault | value, reached⟩
      · rw [answered] at holds
        exact holds
      · rw [answered] at holds
        exact holds
    refine ⟨entries, ran, ?_⟩
    rw [live]
    exact ⟨rests.settled, rests.settled.cursors [],
      fun outside => rests.ended
        (Option.isSome_eq_false_iff.mpr (Option.isNone_iff_eq_none.mpr outside))⟩

end EntitySql.Driver

namespace EntitySql.Rehearsal

open Driver

theorem setInTransaction_reached {number : Nat} {session reached : Session Stage}
    {result : Except Fault Unit} (ran : setInTransaction number false session = (result, reached)) :
    (connectionAt reached number).inTransaction = false := by
  obtain rfl : _ = reached := congrArg Prod.snd ran
  change (((session.world.connections.modify number _)[number]?).getD default).inTransaction = _
  rw [List.getElem?_modify_eq]
  cases session.world.connections[number]? <;> rfl

theorem scripted_endsTransactions (runHook : Step → Play Reply) :
    (scripted runHook).EndsTransactions where
  commit number session reached ran := by
    obtain ⟨_, _, _, set⟩ := Action.bind_eq_ok.mp ran
    exact setInTransaction_reached set
  rollback number session reached ran := by
    obtain ⟨_, _, _, set⟩ := Action.bind_eq_ok.mp ran
    exact setInTransaction_reached set

/-- A driver that no hook takes part in. -/
def unhooked : Driver (Session Stage) :=
  scripted fun _ => Action.fail (.collaborator "no hook")

/-- A session that holds the only connection of the driver, with the answers that it gives. -/
def connected (script : List Prepared) (failing : List String) : Session Stage where
  world := { held := some 0, connections := [{}], script, failing }

def execution (sql : String) : Request where
  kind := .execute
  sql
  parameters := []
  type := none
  transaction := none

/-- A statement that raises is followed by the rollback. -/
theorem failed_statement_settles :
    ∃ reached entries,
      unhooked.logged.runRequest false (execution "DELETE FROM Person")
          ⟨connected [{ failure := some "boom" }] [], []⟩ =
        (.error (.collaborator "boom"), ⟨reached, entries⟩) ∧
      entries.map Entry.call = [.execute 0 "DELETE FROM Person", .rollback 0] ∧
      Settled 0 false entries (.error (.collaborator "boom") : Except Fault Value) ∧
      leftOpen [] entries = [] ∧ unhooked.inTransaction reached 0 = false := by
  obtain ⟨entries, ran, settled, closed, ended⟩ := unhooked.request_settles false
    (execution "DELETE FROM Person") (connected [{ failure := some "boom" }] []) []
  have noted : entries = [
      .plain (.execute 0 "DELETE FROM Person") (.error (.collaborator "boom") : Except Fault Unit),
      .plain (.rollback 0) (.ok ())] :=
    (congrArg (fun outcome => outcome.2.log) ran).symm
  subst noted
  exact ⟨_, _, ran, rfl, settled, closed, ended rfl (scripted_endsTransactions _)
    fun last among => by obtain rfl := Option.some.inj among; rfl⟩

/-- The rollback raises after a statement did: what the statement raised is not what the
request raises, and the transaction stays open. -/
theorem failed_rollback_hides_fault :
    ∃ reached entries,
      unhooked.logged.runRequest false (execution "DELETE FROM Person")
          ⟨connected [{ failure := some "boom" }] ["conn_rollback"], []⟩ =
        (.error (.collaborator "conn_rollback failed"), ⟨reached, entries⟩) ∧
      entries.map Entry.fault =
        [some (.collaborator "boom"), some (.collaborator "conn_rollback failed")] ∧
      unhooked.inTransaction reached 0 = true :=
  ⟨_, _, rfl, rfl, rfl⟩

end EntitySql.Rehearsal
