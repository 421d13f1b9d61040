import EntitySql.Proofs.Session.Attendance

/-!
# Beginnings that fail

A begin may fail before it makes any call, while it opens the connection, or while it begins the
physical transaction.  The books are as before in each case, and a connection that the begin has
opened is closed again.  A connection that was open already is left as the failed call leaves it.
A begin of one more level makes no call at all.
-/

namespace EntitySql

open Session

variable {ω : Type}

/-- The connection obeys, and a closed one that cannot be opened is not open. -/
structure Outside.Candid (outside : Outside ω) : Prop extends outside.Obeys where
  staysClosed : ∀ world, outside.connectionState world = .closed →
    (outside.openConnection world).1.isOk = false →
      outside.connectionState (outside.openConnection world).2 ≠ .opened

namespace Outside

variable {outside : Outside ω} {session reached : Session ω} {entries : List Entry}

theorem Candid.journaled (candid : outside.Candid) : outside.journaled.Candid where
  toObeys := candid.toObeys.journaled
  staysClosed state := candid.staysClosed state.world

theorem Candid.not_opened_last (candid : outside.Candid) {before after : ω}
    (closed : outside.connectionState before = .closed)
    (made : outside.Made before (.opened false) after) :
    outside.connectionState after ≠ .opened := by
  cases made with
  | opened ran => exact ran.reached_eq ▸ candid.staysClosed before closed ran.isOk_eq

theorem Candid.not_opened_of_cannotOpen (candid : outside.Candid) {before after : ω}
    (cannot : CannotOpen (outside.connectionState before) entries)
    (trail : outside.Trail before entries after) (closes : Entry.closed false ∉ entries) :
    outside.connectionState after ≠ .opened := by
  generalize reported : outside.connectionState before = state at cannot
  cases cannot with
  | cannotOpen => exact candid.not_opened_last reported trail.made
  | cannotClose => exact absurd (List.mem_singleton_self _) closes
  | cannotReopen =>
      cases trail with
      | cons made trail =>
          exact candid.not_opened_last (candid.closed_last [] made.trail) trail.made

/-- A connection that was not open is not open after a begin that failed, and one that was open
has seen no other call than the failed begin. -/
theorem Candid.connection_of_failsToBegin (candid : outside.Candid)
    (fails : FailsToBegin (Account.trail outside) outside session entries reached)
    (trail : outside.Trail session.world entries reached.world)
    (closes : Entry.closed false ∉ entries) :
    (outside.connectionState session.world ≠ .opened →
        outside.connectionState reached.world ≠ .opened) ∧
      (outside.connectionState session.world = .opened →
        entries = [.beginFailed] ∧ outside.Made session.world .beginFailed reached.world) := by
  cases fails with
  | cannotOpen cannot _ =>
      refine ⟨fun _ => candid.not_opened_of_cannotOpen cannot trail closes, fun already => ?_⟩
      rw [already] at cannot
      cases cannot
  | @notBegun earlier later opened given first middle _ opens opening notClosed beginning givesBack
      beside =>
      constructor
      · intro notOpened
        have done : ∀ entry ∈ later, entry.done = true :=
          givesBack.done_of_not_mem fun member => closes (by simp [member])
        rw [candid.reported_of_scope opens opening notClosed givesBack trail done,
          if_neg notOpened]
        nofun
      · intro already
        rw [already] at opens
        cases opens
        obtain rfl : later = [] := givesBack.nil_of_spared rfl
        exact ⟨rfl, trail.made⟩

/-- A begin of one more level makes no call. -/
theorem silent_of_nested (coherent : session.Coherent) (live : session.manager.live ≠ [])
    (level : Value) :
    outside.Trail session.world [] (outside.step session (.begin level)).world := by
  have silent : (Account.trail outside).Leaves (outside.environment.begin level) session
      fun entries _ => entries = [] := by
    apply (Account.trail_keeps outside).begin_leads coherent
    · exact fun _ _ => rfl
    · exact fun _ noneLive => absurd noneLive live
    · exact fun _ noneLive => absurd noneLive live
    · exact fun _ _ _ _ => rfl
  obtain ⟨entries, trail, rfl⟩ := silent.reached
  exact trail

/-- A begin that fails does nothing at all, or fails on the way. -/
theorem course_of_failedBegin (coherent : session.Coherent) {level : Value}
    (failed : (outside.environment.begin level session).1.isOk = false) :
    ∃ entries, outside.Trail session.world entries (outside.step session (.begin level)).world ∧
      ((entries = [] ∧ outside.step session (.begin level) = session) ∨
        FailsToBegin (Account.trail outside) outside session entries
          (outside.step session (.begin level))) := by
  have begins : (Account.trail outside).Leads (outside.environment.begin level) session
      (fun _ _ _ => True) fun entries _ last => (entries = [] ∧ last = session) ∨
        FailsToBegin (Account.trail outside) outside session entries last := by
    apply (Account.trail_keeps outside).begin_leads coherent
    · exact fun _ _ => .inl ⟨rfl, rfl⟩
    · exact fun _ _ _ _ _ fails => .inr fails
    · exact fun _ _ _ _ _ _ _ _ _ _ => trivial
    · exact fun _ _ _ _ => trivial
  rcases begins.ends with ⟨_, _, _, ran, _, _⟩ | ⟨entries, _, last, ran, trail, course⟩
  · rw [ran] at failed
    cases failed
  · obtain rfl : outside.step session (.begin level) = last := congrArg Prod.snd ran
    exact ⟨entries, trail, course⟩

/-- A begin of one more level makes no call.  A begin that fails on a manager without a
transaction leaves the books as they were: no level is live, the manager is idle and owns
nothing, and no handle has been added.  If no close fails on the way, a connection that was not
open is not open afterwards, and one that was open is as it was, or as the failed begin of the
physical transaction left it. -/
theorem failed_begin_undone (outside : Outside ω) (candid : outside.Candid) (world : ω)
    (operations : List Operation) (level : Value) :
    let session := outside.journaledAfter world operations
    let reached := outside.journaledAfter world (operations ++ [.begin level])
    let calls := outside.callsOf world operations (.begin level)
    (session.manager.live ≠ [] → calls = []) ∧
      (session.manager.live = [] →
        (outside.journaled.environment.begin level session).1.isOk = false →
          (reached.manager = session.manager ∧ reached.handles = session.handles) ∧
          (reached.manager.live = [] ∧ reached.manager.phase = .idle ∧
            reached.manager.ownsConnection = false) ∧
          (Entry.closed false ∉ calls →
            (outside.connectionState session.world.world ≠ .opened →
              outside.connectionState reached.world.world ≠ .opened) ∧
            (outside.connectionState session.world.world = .opened →
              (calls = [] ∧ reached = session) ∨
                (calls = [.beginFailed] ∧
                  outside.journaled.Made session.world .beginFailed reached.world)))) := by
  intro session reached calls
  have step_eq : reached = outside.journaled.step session (.begin level) :=
    outside.journaledAfter_snoc world operations _
  have coherent : session.Coherent := (outside.journaled_numbered world operations).1
  refine ⟨fun live => ?_, fun noneLive failed => ?_⟩
  · exact callsOf_step (Trail.journal_eq (silent_of_nested coherent live level))
  · have finished : session.Finished session := coherent.finished_of_idle noneLive
    obtain ⟨entries, trail, course⟩ := course_of_failedBegin coherent failed
    obtain rfl : calls = entries := callsOf_step (Trail.journal_eq trail)
    rw [← step_eq] at trail course
    rcases course with ⟨silent, unchanged⟩ | fails
    · rw [unchanged]
      exact ⟨⟨rfl, rfl⟩, ⟨noneLive, finished.phase_eq, finished.owns_eq⟩,
        fun _ => ⟨id, fun _ => .inl ⟨silent, rfl⟩⟩⟩
    · rw [fails.beside.manager_eq]
      refine ⟨⟨rfl, fails.beside.handles_eq⟩, ⟨noneLive, finished.phase_eq, finished.owns_eq⟩,
        fun closes => ?_⟩
      obtain ⟨stillClosed, asLeft⟩ :=
        candid.journaled.connection_of_failsToBegin fails trail closes
      exact ⟨stillClosed, fun already => .inr (asLeft already)⟩

theorem reluctant_candid : reluctant.Candid where
  opens _ _ := rfl
  closes _ _ := rfl
  staysClosed _ _ cannot := nomatch cannot

/-- A connection that has broken is reopened for the begin, and closed again when that fails. -/
theorem reluctant_begin_undone :
    let operations := [.openConnection, .wait]
    let session := reluctant.journaledAfter .closed operations
    let reached := reluctant.journaledAfter .closed (operations ++ [.begin (.text "SERIALIZABLE")])
    reluctant.callsOf .closed operations (.begin (.text "SERIALIZABLE")) =
        [.closed true, .opened true, .beginFailed, .closed true] ∧
      reached.manager = session.manager ∧ reached.handles = session.handles ∧
      reached.manager.phase = .idle ∧
      reluctant.connectionState session.world.world = .broken ∧
      reluctant.connectionState reached.world.world ≠ .opened := by
  intro operations session reached
  have calls : reluctant.callsOf .closed operations (.begin (.text "SERIALIZABLE")) =
      [.closed true, .opened true, .beginFailed, .closed true] := rfl
  have noneFailed : Entry.closed false ∉
      reluctant.callsOf .closed operations (.begin (.text "SERIALIZABLE")) := by
    simp [calls]
  have undone := (failed_begin_undone reluctant reluctant_candid .closed operations
    (.text "SERIALIZABLE")).2 (by decide +kernel) (by decide +kernel)
  obtain ⟨⟨manager_eq, handles_eq⟩, ⟨_, idle, _⟩, connection⟩ := undone
  obtain ⟨stillClosed, _⟩ := connection noneFailed
  have broken : reluctant.connectionState session.world.world = .broken := by decide +kernel
  exact ⟨calls, manager_eq, handles_eq, idle, broken, stillClosed (by rw [broken]; decide)⟩

/-- A connection that was open is not open any more after a begin that has failed, although it
is candid. -/
theorem failed_begin_leaves_connection_broken :
    let operations := [.openConnection]
    let session := reluctant.journaledAfter .closed operations
    let reached := reluctant.journaledAfter .closed (operations ++ [.begin (.text "SERIALIZABLE")])
    reluctant.Candid ∧ session.manager.disposed = false ∧ session.manager.live = [] ∧
      (reluctant.journaled.environment.begin (.text "SERIALIZABLE") session).1.isOk = false ∧
      reluctant.callsOf .closed operations (.begin (.text "SERIALIZABLE")) = [.beginFailed] ∧
      reluctant.connectionState session.world.world = .opened ∧
      reluctant.connectionState reached.world.world ≠ .opened :=
  ⟨reluctant_candid, by decide +kernel, by decide +kernel, by decide +kernel, rfl,
    by decide +kernel, by decide +kernel⟩

end Outside

end EntitySql
