import EntitySql.Proofs.Driver.Attended

/-!
# Connections that are held or closed

A manager checks a connection out only where the one that is held is closed, and lets go of
one only after it has been closed.  So whatever fails and whatever breaks, all connections
but the one that is held are closed.
-/

namespace EntitySql

open Session

variable {ω : Type}

namespace Driver

/-- Giving a connection back closes it, if that does not fail, and whatever happens a closed
connection stays closed. -/
structure ClosesForGood (driver : Driver ω) (elapse : ω → ω) : Prop where
  closes : ∀ connection state reached, driver.disconnect connection state = (.ok (), reached) →
    driver.isClosed reached connection = true
  connect : ∀ connection, driver.connect.Preserves (driver.isClosed · connection = true)
  disconnect : ∀ other connection,
    (driver.disconnect other).Preserves (driver.isClosed · connection = true)
  setIsolation : ∀ other level connection,
    (driver.setIsolation other level).Preserves (driver.isClosed · connection = true)
  runs : ∀ {α : Type} (call : Action ω α), driver.Runs call → ∀ connection,
    call.Preserves (driver.isClosed · connection = true)
  elapse : ∀ state connection, driver.isClosed state connection = true →
    driver.isClosed (elapse state) connection = true

theorem isClosed_of_held (driver : Driver ω) {state : ω} {connection : Nat}
    (closed : driver.connectionState state = .closed) (held : driver.held state = some connection) :
    driver.isClosed state connection = true := by
  unfold connectionState at closed
  rw [held] at closed
  by_contra live
  rw [Bool.not_eq_true] at live
  simp only [live, Bool.false_eq_true, if_false] at closed
  split at closed <;> cases closed

/-- Every connection that was checked out is held or closed. -/
def Kept (driver : Driver ω) (moment : Moment ω) : Prop :=
  ∀ connection, .connected connection ∈ moment.deeds →
    moment.held = some connection ∨ driver.isClosed moment.world connection = true

variable {driver : Driver ω} {state : Attended ω}

/-- As long as closed connections stay closed and none is checked out, all of them are kept. -/
theorem Kept.movedOn (kept : driver.Kept state.now) {world : ω} {deeds : List Deed}
    (stays : ∀ connection, driver.isClosed state.now.world connection = true →
      driver.isClosed world connection = true)
    (none : ∀ connection, .connected connection ∉ deeds) :
    driver.Kept (state.movedOn world deeds).now := by
  intro connection connected
  rcases List.mem_append.mp connected with before | new
  · exact (kept connection before).imp_right (stays connection)
  · exact absurd new (none connection)

theorem attend_keeps {α : Type} {call : Action ω α} {deeds : α → List Deed}
    (stays : ∀ connection, call.Preserves (driver.isClosed · connection = true))
    (none : ∀ value connection, .connected connection ∉ deeds value) :
    (attend call deeds).Preserves (Attended.Throughout driver.Kept) := by
  intro state throughout
  have kept := throughout state.now List.mem_cons_self
  rcases ran : call state.now.world with ⟨fault | value, world⟩
  · rw [attend_of_error ran]
    exact throughout.next rfl <| kept.movedOn (fun connection closed =>
      (stays connection).reached ran closed) (by simp)
  · rw [attend_of_ok ran]
    exact throughout.next rfl <| kept.movedOn (fun connection closed =>
      (stays connection).reached ran closed) (none value)

namespace ClosesForGood

variable {elapse : ω → ω} (sound : driver.ClosesForGood elapse)

include sound

/-- A connection is checked out where the one that was held is closed. -/
theorem openConnection_keeps (closed : driver.attended.connectionState state = .closed)
    (throughout : state.Throughout driver.Kept) :
    (driver.attended.openConnection state).2.Throughout driver.Kept := by
  have kept := throughout state.now List.mem_cons_self
  rcases driver.openConnection_cases state with ⟨connection, world, ran, opened⟩ |
    ⟨fault, world, ran, failed⟩
  · rw [opened]
    refine throughout.next rfl fun other connected => ?_
    rcases List.mem_append.mp connected with before | new
    · have gone : driver.isClosed state.now.world other = true :=
        (kept other before).elim (driver.attended.isClosed_of_held closed) id
      exact .inr ((sound.connect other).reached ran gone)
    · rw [Deed.connected.inj (List.mem_singleton.mp new)]
      exact .inl rfl
  · rw [failed]
    exact throughout.next rfl <| kept.movedOn (fun other gone =>
      (sound.connect other).reached ran gone) (by simp)

/-- A connection is let go of after it has been closed. -/
theorem closeConnection_keeps :
    driver.attended.closeConnection.Preserves (Attended.Throughout driver.Kept) := by
  intro state throughout
  have kept := throughout state.now List.mem_cons_self
  rcases driver.closeConnection_cases state with ⟨_, unchanged⟩ |
    ⟨connection, world, held, ran, closed⟩ | ⟨connection, fault, world, _, ran, failed⟩
  · rw [unchanged]
    exact throughout
  · rw [closed]
    refine throughout.next rfl fun other connected => .inr ?_
    rcases List.mem_append.mp connected with before | new
    · rcases kept other before with holds | gone
      · rw [held] at holds
        exact Option.some.inj holds ▸ sound.closes connection _ _ ran
      · exact (sound.disconnect connection other).reached ran gone
    · cases List.mem_singleton.mp new
  · rw [failed]
    exact throughout.next rfl <| kept.movedOn (fun other gone =>
      (sound.disconnect connection other).reached ran gone) (by simp)

theorem runs_keeps {α : Type} {call : Action (Attended ω) α} (runs : driver.attended.Runs call) :
    call.Preserves (Attended.Throughout driver.Kept) := by
  refine attended_preserves (fun bare deeds runs begins => ?_) runs
  refine attend_keeps (sound.runs bare runs) fun value connection connected => ?_
  obtain ⟨_, _, same⟩ := begins value _ connected
  cases same

theorem preserves (batches : Bool) (operation : Operation) :
    (driver.attendance batches elapse).Preserves operation (Attended.Throughout driver.Kept) :=
  attendance_preserves (fun _ => sound.openConnection_keeps) sound.closeConnection_keeps
    (fun connection level _ => attend_keeps (sound.setIsolation connection level) (by simp))
    (fun _ => sound.runs_keeps) fun state throughout => throughout.next rfl <|
      (throughout state.now List.mem_cons_self).movedOn (sound.elapse state.now.world) (by simp)

end ClosesForGood

/-- In every moment of a run, each connection that was ever checked out is closed unless it is
the one that is held, so that at most one of them is open. -/
theorem connections_held_or_closed {elapse : ω → ω} (sound : driver.ClosesForGood elapse)
    (batches : Bool) (world : ω) (operations : List Operation) (moment : Moment ω)
    (member : moment ∈ (driver.attendedAfter batches elapse world operations).world.moments) :
    (∀ connection, .connected connection ∈ moment.deeds → moment.held ≠ some connection →
      driver.isClosed moment.world connection = true) ∧
    ∀ first second, .connected first ∈ moment.deeds → .connected second ∈ moment.deeds →
      driver.isClosed moment.world first = false → driver.isClosed moment.world second = false →
        first = second := by
  have start : Attended.Throughout driver.Kept { now := { world } } := by
    intro moment member connection connected
    rw [List.mem_singleton.mp member] at connected
    cases connected
  have kept : driver.Kept moment := Outside.run_preserves (Attended.Throughout driver.Kept) start
    (fun operation _ => sound.preserves batches operation) moment member
  refine ⟨fun connection connected other => (kept connection connected).resolve_left other, ?_⟩
  -- a connection that is open is the one that is held
  intro first second firstConnected secondConnected firstOpen secondOpen
  have held : ∀ connection, .connected connection ∈ moment.deeds →
      driver.isClosed moment.world connection = false → moment.held = some connection :=
    fun connection connected live => (kept connection connected).resolve_right (by simp [live])
  exact Option.some.inj <|
    (held first firstConnected firstOpen).symm.trans (held second secondConnected secondOpen)

/-! ## A driver that never fails -/

/-- How many connections were checked out, and which of them are closed or broken. -/
structure Ledger where
  count : Nat := 0
  closed : List Nat := []
  broken : List Nat := []

/-- A driver whose calls all answer, and to which nothing but its connections matters. -/
def obliging : Driver Ledger where
  held _ := none
  hold _ := id
  isClosed ledger connection := ledger.closed.contains connection
  isInvalidated ledger connection := ledger.broken.contains connection
  inTransaction _ _ := true
  connect ledger := (.ok ledger.count, { ledger with count := ledger.count + 1 })
  disconnect connection := Action.change fun ledger =>
    { ledger with closed := connection :: ledger.closed }
  setIsolation _ _ := Action.answer ()
  beginTransaction _ := Action.answer 0
  commitConnection _ := Action.answer ()
  rollbackConnection _ := Action.answer ()
  execute _ _ _ := Action.answer (.count 0)
  openCursor _ := Action.answer 0
  executeCursor _ _ _ := Action.answer ()
  readResult _ := Action.answer (.count 0)
  nextResult _ := Action.answer false
  closeCursor _ := Action.answer ()
  commitTransaction _ := Action.answer ()
  rollbackTransaction _ := Action.answer ()
  closeTransaction _ := Action.answer ()
  pending _ _ := 0
  pending_readResult _ _ := Nat.le_refl 0
  pending_nextResult _ _ := nofun

/-- All connections that were checked out break. -/
def Ledger.severed (ledger : Ledger) : Ledger :=
  { ledger with broken := List.range ledger.count }

theorem obliging_closesForGood : obliging.ClosesForGood Ledger.severed where
  closes connection ledger reached ran := by
    obtain rfl : _ = reached := congrArg Prod.snd ran
    exact List.contains_iff_mem.mpr List.mem_cons_self
  connect _ _ closed := closed
  disconnect _ _ _ closed :=
    List.contains_iff_mem.mpr (List.mem_cons_of_mem _ (List.contains_iff_mem.mp closed))
  setIsolation _ _ _ _ closed := closed
  runs _ runs _ _ closed := by cases runs <;> exact closed
  elapse _ _ closed := closed

/-- A connection that broke is closed before another one is checked out in its place. -/
theorem broken_connection_closed :
    let moment := (obliging.attendedAfter false Ledger.severed {}
      [.openConnection, .wait, .begin .null]).world.now
    moment.deeds = [.connected 0, .disconnected 0, .connected 1, .begun 0 1] ∧
      moment.held = some 1 ∧ obliging.isClosed moment.world 0 = true := by
  refine ⟨rfl, rfl, ?_⟩
  exact (connections_held_or_closed obliging_closesForGood false {}
    [.openConnection, .wait, .begin .null] _ List.mem_cons_self).1 0 (by decide) (by decide)

end Driver

end EntitySql
