import EntitySql.Proofs.Driver.Managed
import EntitySql.Proofs.Session.Preservation

/-!
# Drivers under attendance

Any driver can be made to remember what was done with its connections, and every moment in
which one of its calls was made.  The connection that is held is then kept beside the world
of the driver: no call of the driver reaches it.
-/

namespace EntitySql

open Session

variable {ω α : Type}

namespace Driver

/-- What was done with a connection, or on it. -/
inductive Deed where
  | connected (connection : Nat)
  | disconnected (connection : Nat)
  | isolated (connection : Nat) (level : IsolationLevel)
  | begun (transaction connection : Nat)
  deriving DecidableEq, Repr

end Driver

open Driver (Deed)

/-- The world of a driver, the connection that is held, and all that was done so far. -/
structure Moment (ω : Type) where
  world : ω
  held : Option Nat := none
  deeds : List Deed := []

/-- The present moment, and the moments in which a call was made, the latest first. -/
structure Attended (ω : Type) where
  now : Moment ω
  past : List (Moment ω) := []

namespace Attended

/-- All moments so far. -/
def moments (state : Attended ω) : List (Moment ω) := state.now :: state.past

/-- A property of every moment so far. -/
def Throughout (property : Moment ω → Prop) (state : Attended ω) : Prop :=
  ∀ moment ∈ state.moments, property moment

/-- The state as the world moves on. -/
def movedOn (state : Attended ω) (world : ω) (deeds : List Deed) : Attended ω where
  now := { state.now with world, deeds := state.now.deeds ++ deeds }
  past := state.moments

/-- The present moment with another connection held. -/
def holding (connection : Option Nat) (state : Attended ω) : Attended ω :=
  { state with now := { state.now with held := connection } }

theorem Throughout.next {property : Moment ω → Prop} {state reached : Attended ω}
    (throughout : state.Throughout property) (past : reached.past = state.moments)
    (holds : property reached.now) : reached.Throughout property := by
  intro moment member
  rcases List.mem_cons.mp member with rfl | earlier
  · exact holds
  · exact throughout moment (past ▸ earlier)

end Attended

namespace Driver

/-- Makes a call, which leaves a moment behind and does some deeds if it answers. -/
def attend (call : Action ω α) (deeds : α → List Deed) : Action (Attended ω) α := fun state =>
  let (result, world) := call state.now.world
  (result, state.movedOn world (result.toOption.elim [] deeds))

theorem attend_of_ok {call : Action ω α} {deeds : α → List Deed} {state : Attended ω} {value : α}
    {world : ω} (ran : call state.now.world = (.ok value, world)) :
    attend call deeds state = (.ok value, state.movedOn world (deeds value)) := by
  simp only [attend, ran, Except.toOption, Option.elim]

theorem attend_of_error {call : Action ω α} {deeds : α → List Deed} {state : Attended ω}
    {fault : Fault} {world : ω} (ran : call state.now.world = (.error fault, world)) :
    attend call deeds state = (.error fault, state.movedOn world []) := by
  simp only [attend, ran, Except.toOption, Option.elim]

theorem attend_eq_ok {call : Action ω α} {deeds : α → List Deed} {state reached : Attended ω}
    {value : α} :
    attend call deeds state = (.ok value, reached) ↔
      ∃ world, call state.now.world = (.ok value, world) ∧
        state.movedOn world (deeds value) = reached := by
  rcases ran : call state.now.world with ⟨fault | other, world⟩
  · simp [attend_of_error ran]
  · rw [attend_of_ok ran]
    constructor
    · intro ended
      cases ended
      exact ⟨world, rfl, rfl⟩
    · rintro ⟨_, same, rfl⟩
      cases same
      rfl

/-- The same driver under attendance. -/
def attended (driver : Driver ω) : Driver (Attended ω) where
  held state := state.now.held
  hold := Attended.holding
  isClosed state := driver.isClosed state.now.world
  isInvalidated state := driver.isInvalidated state.now.world
  inTransaction state := driver.inTransaction state.now.world
  connect := attend driver.connect fun connection => [.connected connection]
  disconnect connection := attend (driver.disconnect connection) fun _ => [.disconnected connection]
  setIsolation connection level :=
    attend (driver.setIsolation connection level) fun _ => [.isolated connection level]
  beginTransaction connection :=
    attend (driver.beginTransaction connection) fun transaction => [.begun transaction connection]
  commitConnection connection := attend (driver.commitConnection connection) fun _ => []
  rollbackConnection connection := attend (driver.rollbackConnection connection) fun _ => []
  execute connection sql parameters :=
    attend (driver.execute connection sql parameters) fun _ => []
  openCursor connection := attend (driver.openCursor connection) fun _ => []
  executeCursor cursor sql parameters :=
    attend (driver.executeCursor cursor sql parameters) fun _ => []
  readResult cursor := attend (driver.readResult cursor) fun _ => []
  nextResult cursor := attend (driver.nextResult cursor) fun _ => []
  closeCursor cursor := attend (driver.closeCursor cursor) fun _ => []
  commitTransaction transaction := attend (driver.commitTransaction transaction) fun _ => []
  rollbackTransaction transaction := attend (driver.rollbackTransaction transaction) fun _ => []
  closeTransaction transaction := attend (driver.closeTransaction transaction) fun _ => []
  pending state := driver.pending state.now.world
  pending_readResult cursor state := driver.pending_readResult cursor state.now.world
  pending_nextResult cursor state := driver.pending_nextResult cursor state.now.world

/-- The driver under attendance as the world outside of a manager.  When the world is left to
itself, that too leaves a moment behind. -/
def attendance (driver : Driver ω) (batches : Bool) (elapse : ω → ω) : Outside (Attended ω) :=
  driver.attended.outside batches fun state => state.movedOn (elapse state.now.world) []

/-- The session that a run from the start reaches, with no connection checked out before it. -/
def attendedAfter (driver : Driver ω) (batches : Bool) (elapse : ω → ω) (world : ω)
    (operations : List Operation) : Session (Attended ω) :=
  (driver.attendance batches elapse).after (fresh { now := { world } }) operations

/-! ## The connection that is held -/

section

variable (driver : Driver ω) (state : Attended ω)

/-- Either a connection is checked out and held, or nothing is done. -/
theorem openConnection_cases :
    (∃ connection world, driver.connect state.now.world = (.ok connection, world) ∧
      driver.attended.openConnection state =
        (.ok (), (state.movedOn world [.connected connection]).holding (some connection))) ∨
    ∃ fault world, driver.connect state.now.world = (.error fault, world) ∧
      driver.attended.openConnection state = (.error fault, state.movedOn world []) := by
  rcases ran : driver.connect state.now.world with ⟨fault | connection, world⟩
  · exact .inr ⟨fault, world, rfl, Action.bind_of_error (attend_of_error ran)⟩
  · exact .inl ⟨connection, world, rfl, Action.bind_of_ok (attend_of_ok ran)⟩

/-- Either there is nothing to give back, or a connection is given back and no longer held, or
nothing is done. -/
theorem closeConnection_cases :
    (state.now.held = none ∧ driver.attended.closeConnection state = (.ok (), state)) ∨
    (∃ connection world, state.now.held = some connection ∧
      driver.disconnect connection state.now.world = (.ok (), world) ∧
      driver.attended.closeConnection state =
        (.ok (), (state.movedOn world [.disconnected connection]).holding none)) ∨
    ∃ connection fault world, state.now.held = some connection ∧
      driver.disconnect connection state.now.world = (.error fault, world) ∧
      driver.attended.closeConnection state = (.error fault, state.movedOn world []) := by
  have reads : ∀ held, state.now.held = held →
      Action.read driver.attended.held state = (.ok held, state) := by
    rintro _ rfl
    rfl
  cases held : state.now.held with
  | none => exact .inl ⟨rfl, Action.bind_of_ok (reads none held)⟩
  | some connection =>
      rcases ran : driver.disconnect connection state.now.world with ⟨fault | _, world⟩
      · exact .inr (.inr ⟨connection, fault, world, rfl, ran,
          (Action.bind_of_ok (reads _ held)).trans (Action.bind_of_error (attend_of_error ran))⟩)
      · exact .inr (.inl ⟨connection, world, rfl, ran,
          (Action.bind_of_ok (reads _ held)).trans (Action.bind_of_ok (attend_of_ok ran))⟩)

end

/-! ## The calls that statements and transactions come to -/

/-- The calls of a driver other than those that check a connection out, give it back or set
its isolation level. -/
inductive Runs (driver : Driver ω) : {α : Type} → Action ω α → Prop
  | begin (connection : Nat) : driver.Runs (driver.beginTransaction connection)
  | commit (connection : Nat) : driver.Runs (driver.commitConnection connection)
  | rollback (connection : Nat) : driver.Runs (driver.rollbackConnection connection)
  | execute (connection : Nat) (sql : String) (parameters : List (String × Value)) :
      driver.Runs (driver.execute connection sql parameters)
  | openCursor (connection : Nat) : driver.Runs (driver.openCursor connection)
  | executeCursor (cursor : Nat) (sql : String) (parameters : List (String × Value)) :
      driver.Runs (driver.executeCursor cursor sql parameters)
  | readResult (cursor : Nat) : driver.Runs (driver.readResult cursor)
  | nextResult (cursor : Nat) : driver.Runs (driver.nextResult cursor)
  | closeCursor (cursor : Nat) : driver.Runs (driver.closeCursor cursor)
  | commitTransaction (transaction : Nat) : driver.Runs (driver.commitTransaction transaction)
  | rollbackTransaction (transaction : Nat) : driver.Runs (driver.rollbackTransaction transaction)
  | closeTransaction (transaction : Nat) : driver.Runs (driver.closeTransaction transaction)

section

variable {driver : Driver ω} {property : ω → Prop}
variable (kept : ∀ {α : Type} (call : Action ω α), driver.Runs call → call.Preserves property)

theorem live_preserves (driver : Driver ω) : driver.live.Preserves property := by
  intro state holds
  unfold live
  split
  · exact holds
  · split <;> exact holds

include kept

theorem runInTurn_preserves (connection : Nat) (parameters : List (String × Value)) (tally : Tally)
    (statements : List String) :
    (driver.runInTurn connection parameters tally statements).Preserves property := by
  induction statements generalizing tally with
  | nil => exact .answer tally
  | cons statement rest ih =>
      exact .bind (kept _ (.execute connection statement parameters)) fun result =>
        ih (tally.add result)

theorem addResults_preserves (cursor : Nat) (tally : Tally) :
    (driver.addResults cursor tally).Preserves property := by
  have reads := kept _ (.readResult cursor)
  have moves := kept _ (.nextResult cursor)
  intro state holds
  fun_induction driver.addResults cursor tally state with
  | case1 tally state fault reached read => exact reads.reached read holds
  | case2 tally state result reached read fault refused => exact reads.reached read holds
  | case3 tally state result reached read added adds fault moved moving
  | case4 tally state result reached read added adds moved moving =>
      exact moves.reached moving (reads.reached read holds)
  | case5 tally state result reached read added adds moved moving ih =>
      exact ih (moves.reached moving (reads.reached read holds))

theorem runOnCursor_preserves (connection : Nat) (sql : String)
    (parameters : List (String × Value)) :
    (driver.runOnCursor connection sql parameters).Preserves property := by
  refine .bind (.bind (.read _) fun begun => ?_) fun _ =>
    .bind (kept _ (.openCursor connection)) fun cursor =>
      .ensuring (.bind (kept _ (.executeCursor cursor sql parameters)) fun _ =>
        addResults_preserves kept cursor {}) (kept _ (.closeCursor cursor))
  cases begun with
  | true => exact .answer ()
  | false => exact .bind (kept _ (.begin connection)) fun _ => .answer ()

theorem runRequest_preserves (batches : Bool) (request : Request) :
    (driver.runRequest batches request).Preserves property := by
  rw [runRequest_eq]
  refine .bind (.bind (live_preserves driver) fun connection => .onFailure
    (.bind ?_ fun tally => .bind (.whenever (kept _ (.commit connection))) fun _ => .answer tally)
    (.whenever (kept _ (.rollback connection)))) fun tally => .ofExcept _
  cases batches with
  | true => exact runOnCursor_preserves kept connection request.sql request.parameters
  | false =>
      exact runInTurn_preserves kept connection request.parameters {} (Batch.split request.sql)

end

/-- A call of the driver under attendance is one of the driver, and the only deed that it may
do is to begin a transaction. -/
theorem attended_preserves {driver : Driver ω} {property : Attended ω → Prop}
    (kept : ∀ {α : Type} (bare : Action ω α) (deeds : α → List Deed), driver.Runs bare →
      (∀ value, ∀ deed ∈ deeds value, ∃ transaction connection,
        deed = .begun transaction connection) → (attend bare deeds).Preserves property)
    {call : Action (Attended ω) α} (runs : driver.attended.Runs call) :
    call.Preserves property := by
  cases runs with
  | begin connection => exact kept _ _ (.begin connection) (by simp)
  | commit connection => exact kept _ _ (.commit connection) (by simp)
  | rollback connection => exact kept _ _ (.rollback connection) (by simp)
  | execute connection sql parameters =>
      exact kept _ _ (.execute connection sql parameters) (by simp)
  | openCursor connection => exact kept _ _ (.openCursor connection) (by simp)
  | executeCursor cursor sql parameters =>
      exact kept _ _ (.executeCursor cursor sql parameters) (by simp)
  | readResult cursor => exact kept _ _ (.readResult cursor) (by simp)
  | nextResult cursor => exact kept _ _ (.nextResult cursor) (by simp)
  | closeCursor cursor => exact kept _ _ (.closeCursor cursor) (by simp)
  | commitTransaction transaction => exact kept _ _ (.commitTransaction transaction) (by simp)
  | rollbackTransaction transaction => exact kept _ _ (.rollbackTransaction transaction) (by simp)
  | closeTransaction transaction => exact kept _ _ (.closeTransaction transaction) (by simp)

/-- What the calls of the driver under attendance preserve, as far as a manager makes them in an
operation. -/
theorem attendance_preserves {driver : Driver ω} {batches : Bool} {elapse : ω → ω}
    {operation : Operation} {property : Attended ω → Prop}
    (opens : ∀ state, driver.attended.connectionState state = .closed → property state →
      property (driver.attended.openConnection state).2)
    (closes : driver.attended.closeConnection.Preserves property)
    (isolates : ∀ connection level, operation.asked = some (some level) →
      (driver.attended.setIsolation connection level).Preserves property)
    (runs : ∀ {α : Type} (call : Action (Attended ω) α), driver.attended.Runs call →
      call.Preserves property)
    (elapses : ∀ state, property state → property (state.movedOn (elapse state.now.world) [])) :
    (driver.attendance batches elapse).Preserves operation property where
  openConnection := opens
  closeConnection := closes
  beginTransaction level asked := by
    refine .bind (live_preserves driver.attended) fun connection => ?_
    cases level with
    | none => exact runs _ (.begin connection)
    | some level =>
        exact .bind (isolates connection level asked) fun _ => runs _ (.begin connection)
  disposeConnection := closes
  commitResource resource := runs _ (.commitTransaction resource)
  rollbackResource resource := runs _ (.rollbackTransaction resource)
  closeResource resource := runs _ (.closeTransaction resource)
  run request := runRequest_preserves runs batches request
  elapse := elapses

end Driver

end EntitySql
