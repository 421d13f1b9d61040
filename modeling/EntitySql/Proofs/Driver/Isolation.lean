import EntitySql.Proofs.Driver.Attended
import EntitySql.Proofs.Driver.Settlement
import EntitySql.Proofs.Session.Attendance

/-!
# Isolation levels in force

A level that was set on a connection stays in force on it until another one is set or the
connection is given back.  So a transaction that asks for no level runs at the one that an
earlier transaction left behind, unless the connection was checked out for it.
-/

namespace EntitySql

open Session

variable {ω α : Type}

/-! ## The begin of a unit of work -/

namespace Outside

variable {outside : Outside ω} {session : Session ω} {level : Value} {transaction : Nat}

/-- A physical transaction that was not there before has been begun at the level asked for,
after the connection was opened if it was not open. -/
theorem begin_trail (coherent : session.Coherent) (idle : session.currentResource = none)
    (begun : (outside.step session (.begin level)).currentResource = some transaction) :
    ∃ entries owns asked middle,
      Opens (outside.connectionState session.world) entries owns ∧
      (outside.cautious (.begin level)).Trail session.world entries middle ∧
      Environment.isolationLevel level = .ok asked ∧
      outside.beginTransaction asked middle =
        (.ok transaction, (outside.step session (.begin level)).world) := by
  have leaves : (Account.trail (outside.cautious (.begin level))).Leaves
      ((outside.cautious (.begin level)).environment.begin level) session
      fun entries reached => reached.currentResource = some transaction →
        ∃ opening owns, Opens (outside.connectionState session.world) opening owns ∧
          entries = opening ++ [.begun transaction] := by
    -- of all that a begin may come to, only a start brings a transaction where there was none
    refine (Account.trail_keeps _).begin_leads coherent ?_ ?_ ?_ ?_
    · intro _ _ current
      rw [idle] at current
      cases current
    · intro _ _ _ _ _ fails current
      rw [fails.beside.currentResource_eq, idle] at current
      cases current
    · intro _ noneLive _ opening owns resource _ reached opens beside current
      have same : ((reached.activated owns).pushed resource).currentResource = some resource := by
        have noneLive : reached.manager.live = [] := beside.manager_eq ▸ noneLive
        rw [currentResource_eq, outermost_started noneLive]
        rfl
      rw [same] at current
      cases current
      exact ⟨opening, owns, opens, rfl⟩
    · intro _ resource _ current
      rw [idle] at current
      cases current
  rw [begin_cautious] at leaves
  obtain ⟨entries, trail, holds⟩ := leaves.reached
  obtain ⟨opening, owns, opens, rfl⟩ := holds begun
  obtain ⟨middle, earlier, made⟩ := trail.of_snoc
  cases made with
  | begun ran =>
      obtain ⟨asked, ran⟩ := outside.cautious_begins _ ran
      obtain ⟨_, same, asked⟩ := Operation.asked_eq_some.mp asked
      cases same
      exact ⟨opening, owns, _, middle, opens, earlier, asked, ran⟩

end Outside

namespace Driver

/-! ## Levels -/

/-- What a deed does to the level in force on a connection. -/
def Deed.effect (connection : Nat) (level : Option IsolationLevel) : Deed → Option IsolationLevel
  | .connected other | .disconnected other => if other = connection then none else level
  | .isolated other set => if other = connection then some set else level
  | .begun _ _ => level

/-- The level in force on a connection, which is none until one is set. -/
def levelOn (connection : Nat) (deeds : List Deed) : Option IsolationLevel :=
  deeds.foldl (Deed.effect connection) none

theorem levelOn_append (connection : Nat) (deeds later : List Deed) :
    levelOn connection (deeds ++ later) =
      later.foldl (Deed.effect connection) (levelOn connection deeds) :=
  List.foldl_append

theorem levelOn_connected (connection : Nat) (deeds : List Deed) :
    levelOn connection (deeds ++ [.connected connection]) = none := by
  simp [levelOn_append, Deed.effect]

theorem levelOn_begun (transaction connection : Nat) (asked : Option IsolationLevel)
    (deeds : List Deed) :
    levelOn connection
        (deeds ++ (asked.toList.map (.isolated connection) ++ [.begun transaction connection])) =
      asked.or (levelOn connection deeds) := by
  cases asked <;> simp [levelOn_append, Deed.effect]

theorem isolated_of_levelOn {connection : Nat} {deeds : List Deed} {level : IsolationLevel}
    (inForce : levelOn connection deeds = some level) : .isolated connection level ∈ deeds := by
  induction deeds using List.reverseRecOn with
  | nil => cases inForce
  | append_singleton deeds deed ih =>
      rw [levelOn_append, List.foldl_cons, List.foldl_nil] at inForce
      rw [List.mem_append]
      cases deed with
      | connected other | disconnected other =>
          simp only [Deed.effect] at inForce
          split at inForce
          · cases inForce
          · exact .inl (ih inForce)
      | isolated other set =>
          simp only [Deed.effect] at inForce
          split at inForce
          · rename_i same
            cases inForce
            exact .inr (by simp [same])
          · exact .inl (ih inForce)
      | begun transaction other => exact .inl (ih inForce)

/-! ## The deeds of a begin -/

variable {driver : Driver ω} {batches : Bool} {elapse : ω → ω}

theorem live_eq_ok {state reached : ω} {connection : Nat}
    (ran : driver.live state = (.ok connection, reached)) :
    driver.held state = some connection ∧ reached = state := by
  unfold live at ran
  split at ran
  · cases ran
  · rename_i held
    split at ran
    · cases ran
    · cases ran
      exact ⟨held, rfl⟩

theorem beginOn_deeds {asked : Option IsolationLevel} {transaction : Nat}
    {state reached : Attended ω}
    (ran : driver.attended.beginOn asked state = (.ok transaction, reached)) :
    ∃ connection, state.now.held = some connection ∧ reached.now.deeds = state.now.deeds ++
      (asked.toList.map (.isolated connection) ++ [.begun transaction connection]) := by
  obtain ⟨connection, _, lives, continues⟩ := Action.bind_eq_ok.mp ran
  obtain ⟨held, rfl⟩ := live_eq_ok lives
  refine ⟨connection, held, ?_⟩
  cases asked with
  | none =>
      obtain ⟨world, _, rfl⟩ := attend_eq_ok.mp continues
      rfl
  | some level =>
      obtain ⟨_, isolated, sets, begins⟩ := Action.bind_eq_ok.mp continues
      obtain ⟨_, _, rfl⟩ := attend_eq_ok.mp sets
      obtain ⟨_, _, rfl⟩ := attend_eq_ok.mp begins
      exact List.append_assoc _ _ _

theorem opened_deeds {operation : Operation} {before after : Attended ω}
    (made : ((driver.attendance batches elapse).cautious operation).Made before
      (.opened true) after) :
    ∃ connection, after.now.held = some connection ∧
      after.now.deeds = before.now.deeds ++ [.connected connection] := by
  cases made with
  | opened ran =>
      obtain ⟨_, opened⟩ := ran.answered
      obtain ⟨_, ran⟩ := Outside.cautious_opens _ _ opened
      rcases driver.openConnection_cases before with ⟨connection, world, _, opens⟩ |
        ⟨fault, world, _, fails⟩
      · cases opens.symm.trans ran
        exact ⟨connection, rfl, rfl⟩
      · cases fails.symm.trans ran

theorem closed_deeds {operation : Operation} {before after : Attended ω}
    (made : ((driver.attendance batches elapse).cautious operation).Made before
      (.closed true) after) :
    after.now.held = none ∧ ∃ closing, after.now.deeds = before.now.deeds ++ closing := by
  cases made with
  | closed ran =>
      obtain ⟨_, ran⟩ := ran.answered
      rcases driver.closeConnection_cases before with ⟨held, same⟩ |
        ⟨connection, world, _, _, closes⟩ | ⟨connection, fault, world, _, _, fails⟩
      · cases same.symm.trans ran
        exact ⟨held, [], (List.append_nil _).symm⟩
      · cases closes.symm.trans ran
        exact ⟨rfl, [.disconnected connection], rfl⟩
      · cases fails.symm.trans ran

/-- A connection that is held after it was opened if needed carries the level that it had, or
else none because it was checked out just now. -/
theorem opening_deeds {operation : Operation} {state : ConnectionState}
    {entries : List EntitySql.Entry} {owns : Bool} {before after : Attended ω} {connection : Nat}
    (opens : Opens state entries owns)
    (trail : ((driver.attendance batches elapse).cautious operation).Trail before entries after)
    (held : after.now.held = some connection) :
    ∃ opening, after.now.deeds = before.now.deeds ++ opening ∧
      levelOn connection after.now.deeds =
        if .connected connection ∈ opening then none
        else levelOn connection before.now.deeds := by
  cases opens with
  | already =>
      cases trail
      exact ⟨[], (List.append_nil _).symm, rfl⟩
  | opened =>
      obtain ⟨other, holds, deeds_eq⟩ := opened_deeds trail.made
      cases holds.symm.trans held
      exact ⟨_, deeds_eq, by rw [deeds_eq, levelOn_connected, if_pos List.mem_cons_self]⟩
  | reopened =>
      have inTurn : ((driver.attendance batches elapse).cautious operation).Trail before
          ([.closed true] ++ [.opened true]) after := trail
      obtain ⟨middle, closes, opens⟩ := inTurn.of_snoc
      obtain ⟨_, closing, closed_eq⟩ := closed_deeds closes.made
      obtain ⟨other, holds, deeds_eq⟩ := opened_deeds opens
      cases holds.symm.trans held
      refine ⟨closing ++ [.connected connection], ?_, ?_⟩
      · rw [deeds_eq, closed_eq, List.append_assoc]
      · rw [deeds_eq, levelOn_connected, if_pos (by simp)]
  | stillOpen =>
      -- no connection is held after one was given back
      have nothing := (closed_deeds trail.made).1
      rw [nothing] at held
      cases held

/-! ## Where levels come from -/

/-- Every level that was set on a connection was asked for by one of the operations. -/
def AskedBy (operations : List Operation) (deeds : List Deed) : Prop :=
  ∀ connection level, .isolated connection level ∈ deeds →
    ∃ value, .begin value ∈ operations ∧ Environment.isolationLevel value = .ok (some level)

variable {operations : List Operation}

theorem AskedBy.append {deeds later : List Deed} (asked : AskedBy operations deeds)
    (new : AskedBy operations later) : AskedBy operations (deeds ++ later) := by
  intro connection level isolated
  rcases List.mem_append.mp isolated with before | after
  · exact asked connection level before
  · exact new connection level after

theorem askedBy_of_none {deeds : List Deed}
    (none : ∀ connection level, .isolated connection level ∉ deeds) : AskedBy operations deeds :=
  fun connection level isolated => absurd isolated (none connection level)

theorem attend_askedBy {call : Action ω α} {deeds : α → List Deed}
    (new : ∀ result, AskedBy operations (deeds result)) :
    (attend call deeds).Preserves (AskedBy operations ·.now.deeds) := by
  intro state asked
  rcases ran : call state.now.world with ⟨fault | result, world⟩
  · rw [attend_of_error ran]
    exact asked.append (askedBy_of_none (by simp))
  · rw [attend_of_ok ran]
    exact asked.append (new result)

theorem openConnection_askedBy :
    driver.attended.openConnection.Preserves (AskedBy operations ·.now.deeds) := by
  intro state asked
  rcases driver.openConnection_cases state with ⟨connection, world, _, opens⟩ |
    ⟨fault, world, _, fails⟩
  · rw [opens]
    exact asked.append (askedBy_of_none (by simp))
  · rw [fails]
    exact asked.append (askedBy_of_none (by simp))

theorem closeConnection_askedBy :
    driver.attended.closeConnection.Preserves (AskedBy operations ·.now.deeds) := by
  intro state asked
  rcases driver.closeConnection_cases state with ⟨_, same⟩ | ⟨connection, world, _, _, closes⟩ |
    ⟨connection, fault, world, _, _, fails⟩
  · rw [same]
    exact asked
  · rw [closes]
    exact asked.append (askedBy_of_none (by simp))
  · rw [fails]
    exact asked.append (askedBy_of_none (by simp))

theorem runs_askedBy {call : Action (Attended ω) α} (runs : driver.attended.Runs call) :
    call.Preserves (AskedBy operations ·.now.deeds) := by
  refine attended_preserves (fun bare deeds _ begins => attend_askedBy fun value =>
    askedBy_of_none fun connection level isolated => ?_) runs
  obtain ⟨_, _, same⟩ := begins value _ isolated
  cases same

theorem attendance_askedBy {operation : Operation} (member : operation ∈ operations) :
    (driver.attendance batches elapse).Preserves operation (AskedBy operations ·.now.deeds) := by
  refine attendance_preserves (fun state _ => openConnection_askedBy state) closeConnection_askedBy
    (fun connection level asked => attend_askedBy fun _ other set isolated => ?_)
    (fun _ => runs_askedBy) fun state asked => asked.append (askedBy_of_none (by simp))
  obtain ⟨value, rfl, known⟩ := Operation.asked_eq_some.mp asked
  cases List.mem_singleton.mp isolated
  exact ⟨value, member, known⟩

theorem run_askedBy (driver : Driver ω) (batches : Bool) (elapse : ω → ω) (world : ω)
    (operations : List Operation) :
    AskedBy operations (driver.attendedAfter batches elapse world operations).world.now.deeds :=
  Outside.run_preserves (fun state : Attended ω => AskedBy operations state.now.deeds)
    (askedBy_of_none fun _ _ => List.not_mem_nil) fun _ member => attendance_askedBy member

/-! ## The level of a physical transaction -/

/-- A physical transaction runs at the level that its begin asked for.  If none was asked for,
it runs at the one that an earlier begin of the run left on its connection, unless the
connection was checked out for it or no level was ever set on it. -/
theorem level_in_force (driver : Driver ω) (batches : Bool) (elapse : ω → ω) (world : ω)
    (earlier : List Operation) {level : Value} {transaction : Nat}
    (idle : (driver.attendedAfter batches elapse world earlier).currentResource = none)
    (begun : (driver.attendedAfter batches elapse world
      (earlier ++ [.begin level])).currentResource = some transaction) :
    let before := (driver.attendedAfter batches elapse world earlier).world.now.deeds
    let after :=
      (driver.attendedAfter batches elapse world (earlier ++ [.begin level])).world.now.deeds
    ∃ asked connection opening,
      Environment.isolationLevel level = .ok asked ∧
      after = before ++ opening ++
        (asked.toList.map (.isolated connection) ++ [.begun transaction connection]) ∧
      levelOn connection after =
        asked.or (if .connected connection ∈ opening then none else levelOn connection before) ∧
      ∀ carried, levelOn connection before = some carried →
        ∃ value, .begin value ∈ earlier ∧
          Environment.isolationLevel value = .ok (some carried) := by
  intro before after
  have coherent := (driver.attendance batches elapse).run_coherent { now := { world } } earlier
  have snoc : driver.attendedAfter batches elapse world (earlier ++ [.begin level]) =
      (driver.attendance batches elapse).step
        (driver.attendedAfter batches elapse world earlier) (.begin level) :=
    Outside.after_snoc _ _ earlier (.begin level)
  rw [snoc] at begun
  obtain ⟨entries, owns, asked, middle, opens, trail, known, begins⟩ :=
    Outside.begin_trail coherent idle begun
  obtain ⟨connection, held, deeds_eq⟩ := beginOn_deeds begins
  obtain ⟨opening, opening_eq, carried_eq⟩ := opening_deeds opens trail held
  have after_eq : after = middle.now.deeds ++
      (asked.toList.map (.isolated connection) ++ [.begun transaction connection]) :=
    (congrArg (·.world.now.deeds) snoc).trans deeds_eq
  refine ⟨asked, connection, opening, known, ?_, ?_, ?_⟩
  · rw [after_eq, opening_eq]
    rfl
  · rw [after_eq, levelOn_begun, carried_eq]
    rfl
  · intro carried inForce
    exact driver.run_askedBy batches elapse world earlier connection carried
      (isolated_of_levelOn inForce)

end Driver

namespace Rehearsal

open Driver

/-- A run from the start over a driver without hooks. -/
def unhookedAfter (operations : List Operation) : Session (Attended (Session Stage)) :=
  unhooked.attendedAfter false id { world := {} } operations

/-- A transaction at a level, on a connection that the caller keeps open. -/
def committed (level : Value) : List Operation := [.openConnection, .begin level, .commit]

/-- A transaction that asks for no level runs at the one that the transaction before it asked
for. -/
theorem serializable_left_behind :
    levelOn 0 (unhookedAfter (committed (.text "SERIALIZABLE") ++ [.begin .null])).world.now.deeds =
        some .serializable ∧
      ∃ value, Operation.begin value ∈ committed (.text "SERIALIZABLE") ∧
        Environment.isolationLevel value = .ok (some .serializable) := by
  obtain ⟨asked, connection, opening, known, deeds_eq, inForce, source⟩ :=
    level_in_force unhooked false id { world := {} } (committed (.text "SERIALIZABLE"))
      rfl (rfl : Session.currentResource
        (unhookedAfter (committed (.text "SERIALIZABLE") ++ [.begin .null])) = some 1)
  obtain rfl : none = asked := Except.ok.inj known
  have deeds : [Deed.connected 0, .isolated 0 .serializable, .begun 0 0, .begun 1 0] =
      [.connected 0, .isolated 0 .serializable, .begun 0 0] ++ opening ++ [.begun 1 connection] :=
    deeds_eq
  obtain ⟨rfl, rfl⟩ : opening = [] ∧ connection = 0 := by
    simpa [List.append_eq_singleton_iff, eq_comm] using deeds
  exact ⟨inForce, source .serializable rfl⟩

/-- Two runs end with the same begin and differ only in the level that an earlier transaction
asked for.  The transactions they end with run at different levels. -/
theorem level_depends_on_earlier_transaction :
    Environment.isolationLevel .null = .ok none ∧
      (unhookedAfter (committed .null ++ [.begin .null])).world.now.deeds =
        [.connected 0, .begun 0 0, .begun 1 0] ∧
      (unhookedAfter (committed (.text "SERIALIZABLE") ++ [.begin .null])).world.now.deeds =
        [.connected 0, .isolated 0 .serializable, .begun 0 0, .begun 1 0] ∧
      levelOn 0 [.connected 0, .begun 0 0, .begun 1 0] = none ∧
      levelOn 0 [.connected 0, .isolated 0 .serializable, .begun 0 0, .begun 1 0] =
        some .serializable :=
  ⟨rfl, rfl, rfl, rfl, rfl⟩

end Rehearsal

end EntitySql
