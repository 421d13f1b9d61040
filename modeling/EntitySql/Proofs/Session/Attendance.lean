import EntitySql.Samples
import EntitySql.Proofs.Session.Erasure
import EntitySql.Proofs.Session.Samples
import EntitySql.Proofs.Session.Trail

/-!
# Statements and the connection they run on

An entry point that reads or writes entities compiles its statement before it
asks for the connection, hands the statement over once while the connection is
open, and closes the connection again if it had to open it.  What the executor
does to a connection that was open already is not undone.
-/

namespace EntitySql

open Session

variable {ω : Type}

/-- The connection is open when it has been opened and closed when it has been closed. -/
structure Outside.Obeys (outside : Outside ω) : Prop where
  opens : ∀ world, (outside.openConnection world).1.isOk = true →
    outside.connectionState (outside.openConnection world).2 = .opened
  closes : ∀ world, (outside.closeConnection world).1.isOk = true →
    outside.connectionState (outside.closeConnection world).2 = .closed

namespace Outside

variable {outside : Outside ω} {before after : ω} {entries : List Entry}

theorem Trail.of_snoc {entry : Entry} (trail : outside.Trail before (entries ++ [entry]) after) :
    ∃ middle, outside.Trail before entries middle ∧ outside.Made middle entry after := by
  induction entries generalizing before with
  | nil => exact ⟨before, .nil, trail.made⟩
  | cons first rest ih =>
      cases trail with
      | cons made trail =>
          obtain ⟨middle, earlier, last⟩ := ih trail
          exact ⟨middle, .cons made earlier, last⟩

namespace Obeys

theorem journaled (obeys : outside.Obeys) : outside.journaled.Obeys where
  opens state := obeys.opens state.world
  closes state := obeys.closes state.world

theorem opened_last (obeys : outside.Obeys) (earlier : List Entry)
    (trail : outside.Trail before (earlier ++ [.opened true]) after) :
    outside.connectionState after = .opened := by
  obtain ⟨middle, _, made⟩ := trail.of_snoc
  cases made with
  | opened ran => exact ran.reached_eq ▸ obeys.opens middle ran.isOk_eq

theorem closed_last (obeys : outside.Obeys) (earlier : List Entry)
    (trail : outside.Trail before (earlier ++ [.closed true]) after) :
    outside.connectionState after = .closed := by
  obtain ⟨middle, _, made⟩ := trail.of_snoc
  cases made with
  | closed ran => exact ran.reached_eq ▸ obeys.closes middle ran.isOk_eq

/-- The connection is open once it has been asked for, and had to be opened
exactly if it was not open. -/
theorem opened_of_opens (obeys : outside.Obeys) {opened : Bool}
    (opens : Opens (outside.connectionState before) entries opened)
    (trail : outside.Trail before entries after)
    (notClosed : opened = false → outside.connectionState after ≠ .closed) :
    outside.connectionState after = .opened ∧
      (opened = true ↔ outside.connectionState before ≠ .opened) := by
  generalize reported : outside.connectionState before = state at opens
  cases opens with
  | already =>
      cases trail
      exact ⟨reported, by simp⟩
  | opened => exact ⟨obeys.opened_last [] trail, by simp⟩
  | reopened => exact ⟨obeys.opened_last [.closed true] trail, by simp⟩
  | stillOpen => exact absurd (obeys.closed_last [] trail) (notClosed rfl)

/-- A connection that was taken is closed afterwards, and any other is left alone. -/
theorem reported_of_givesBack (obeys : outside.Obeys) {taken given : Bool} {middle : ω}
    {later : List Entry}
    (back : GivesBack taken (outside.connectionState middle) middle later given after)
    (trail : outside.Trail before (entries ++ later) after)
    (closes : ∀ entry ∈ later, entry.done = true) :
    outside.connectionState after =
      if taken = true then .closed else outside.connectionState middle := by
  cases back with
  | spared notTaken => simp [notTaken]
  | already closed => simp [closed]
  | closed isTaken _ =>
      obtain rfl : given = true := closes _ (List.mem_singleton_self _)
      rw [if_pos isTaken]
      exact obeys.closed_last _ trail

/-- A connection that was open is left as the call between taking and giving back leaves it, and
any other is closed. -/
theorem reported_of_scope (obeys : outside.Obeys) {opened given : Bool} {first middle : ω}
    {entry : Entry} {later : List Entry}
    (opens : Opens (outside.connectionState before) entries opened)
    (opening : outside.Trail before entries first)
    (notClosed : opened = false → outside.connectionState first ≠ .closed)
    (back : GivesBack opened (outside.connectionState middle) middle later given after)
    (trail : outside.Trail before (entries ++ entry :: later) after)
    (done : ∀ entry ∈ later, entry.done = true) :
    outside.connectionState after =
      if outside.connectionState before = .opened then outside.connectionState middle
      else .closed := by
  rw [← List.singleton_append, ← List.append_assoc] at trail
  obtain ⟨_, opened_iff⟩ := obeys.opened_of_opens opens opening notClosed
  rw [obeys.reported_of_givesBack back trail done]
  -- the connection was taken exactly if it was not open before
  by_cases already : outside.connectionState before = .opened
  · have untaken : opened ≠ true := fun taken => opened_iff.mp taken already
    rw [if_neg untaken, if_pos already]
  · rw [if_pos (opened_iff.mpr already), if_neg already]

end Obeys

/-- A statement is handed over once, on an open connection, between calls to the
connection alone.  A connection that was open is left as the executor leaves it,
and any other is closed again, unless it cannot be closed. -/
inductive ServesOnce (outside : Outside ω) (request : Request) (before after : ω) :
    List Entry → Prop where
  | served {earlier later : List Entry} {done : Bool} {first middle : ω}
      (taking : ConnectionOnly earlier) (approach : outside.Trail before earlier first)
      (opened : outside.connectionState first = .opened)
      (executes : outside.Made first (.executed request done) middle)
      (givingBack : ConnectionOnly later)
      (reported : (∀ entry ∈ later, entry.done = true) →
        outside.connectionState after =
          if outside.connectionState before = .opened then outside.connectionState middle
          else .closed) :
      ServesOnce outside request before after (earlier ++ .executed request done :: later)

/-- A statement that has been compiled is served once, if the connection can be opened. -/
theorem Obeys.servesOnce (obeys : outside.Obeys) {session reached : Session ω} {plan : Plan}
    (serves : Serves (Account.trail outside) outside session plan entries reached)
    (trail : outside.Trail session.world entries reached.world) :
    CannotOpen (outside.connectionState session.world) entries ∨
      outside.ServesOnce (plan.request session) session.world reached.world entries := by
  cases serves with
  | cannotOpen cannot _ => exact .inl cannot
  | @served earlier later opened given done first middle _ opens opening notClosed running
      givesBack _ =>
      obtain ⟨isOpen, _⟩ := obeys.opened_of_opens opens opening notClosed
      exact .inr (.served opens.connectionOnly opening isOpen running.made
        givesBack.connectionOnly (obeys.reported_of_scope opens opening notClosed givesBack trail))

/-- A manager that is there does nothing about a call whose statement cannot be
compiled.  Any other statement it hands over once, on an open connection and with
the transaction that is active, if one is, unless the connection cannot be opened.
The books do not change.  A connection that was open is left as the executor
leaves it, and any other ends closed, unless it cannot be closed. -/
theorem statement_served_once (outside : Outside ω) (obeys : outside.Obeys) (world : ω)
    (operations : List Operation) (dialect : Dialect) (work : Work)
    (there : (outside.journaledAfter world operations).manager.disposed = false) :
    let session := outside.journaledAfter world operations
    let reached := outside.journaledAfter world (operations ++ [.work dialect work])
    let calls := outside.callsOf world operations (.work dialect work)
    reached.manager = session.manager ∧ reached.handles = session.handles ∧
      (session.currentResource.isSome = true ↔ session.manager.phase = .active) ∧
      match work.plan dialect with
      | .error _ => calls = [] ∧ reached = session
      | .ok plan => CannotOpen (outside.connectionState session.world.world) calls ∨
          outside.journaled.ServesOnce (plan.request session) session.world reached.world
            calls := by
  intro session reached calls
  have step_eq : reached = outside.journaled.step session (.work dialect work) :=
    outside.journaledAfter_snoc world operations _
  have coherent : session.Coherent := (outside.journaled_numbered world operations).1
  have active_iff : session.currentResource.isSome = true ↔ session.manager.phase = .active := by
    rw [currentResource, Option.isSome_map, List.isSome_head?]
    exact ⟨coherent.active, coherent.live_of_active⟩
  cases planned : work.plan dialect with
  | error fault =>
      have unchanged : reached = session :=
        step_eq.trans (congrArg Prod.snd (Account.Keeps.perform_of_error planned))
      have silent : calls = [] := callsOf_step (by
        rw [← step_eq, unchanged, List.append_nil])
      rw [unchanged]
      exact ⟨rfl, rfl, active_iff, silent, rfl⟩
  | ok plan =>
      obtain ⟨entries, trail, serves⟩ :=
        ((Account.trail_keeps outside.journaled).work_serves planned there).reached
      have calls_eq : calls = entries := callsOf_step (Trail.journal_eq trail)
      have beside : session.Beside reached := by
        rw [step_eq]
        exact serves.attends.beside
      refine ⟨beside.manager_eq, beside.handles_eq, active_iff, ?_⟩
      rw [calls_eq, step_eq]
      exact obeys.journaled.servesOnce serves trail

theorem obliging_obeys : obliging.Obeys where
  opens _ _ := rfl
  closes _ _ := rfl

/-- An insert in a transaction whose connection has broken goes to the transaction
all the same, and leaves the connection closed. -/
theorem insert_served_once :
    let operations := [.begin .null, .wait]
    let insertion := Work.insert ⟨Samples.auditEntry, [("Message", .text "kept")]⟩ {} none
    let session := obliging.journaledAfter .closed operations
    let reached := obliging.journaledAfter .closed (operations ++
      [.work ⟨.sqlite, .colon⟩ insertion])
    session.manager.phase = .active ∧ obliging.connectionState session.world.world = .broken ∧
      reached.manager = session.manager ∧
      ∃ plan, insertion.plan ⟨.sqlite, .colon⟩ = .ok plan ∧
        (plan.request session).transaction = some 0 ∧
        obliging.journaled.ServesOnce (plan.request session) session.world reached.world
          (obliging.callsOf .closed operations (.work ⟨.sqlite, .colon⟩ insertion)) ∧
        obliging.connectionState reached.world.world = .closed := by
  intro operations insertion session reached
  have there : session.manager.disposed = false := by decide +kernel
  have compiles : (insertion.plan ⟨.sqlite, .colon⟩).isOk = true := by decide +kernel
  have done : ∀ entry ∈ obliging.callsOf .closed operations (.work ⟨.sqlite, .colon⟩ insertion),
      entry.done = true := by
    decide +kernel
  have current : session.currentResource = some 0 := by decide +kernel
  have served := statement_served_once obliging obliging_obeys .closed operations
    ⟨.sqlite, .colon⟩ insertion there
  obtain ⟨manager_eq, _, _, outcome⟩ := served
  cases planned : insertion.plan ⟨.sqlite, .colon⟩ with
  | error fault =>
      rw [planned] at compiles
      cases compiles
  | ok plan =>
      rw [planned] at outcome
      rcases outcome with cannot | once
      · obtain ⟨entry, member, undone⟩ := cannot.failed
        exact absurd ((done entry member).symm.trans undone) nofun
      · exact ⟨by decide +kernel, by decide +kernel, manager_eq, plan, rfl, current, once,
          by decide +kernel⟩

/-- A connection that was open is not open any more after a statement that broke it,
although it obeys. -/
theorem statement_leaves_connection_broken :
    let statement := .work ⟨.sqlite, .colon⟩ (.query (.start ⟨.sqlite, .colon⟩
      (some Samples.auditEntry)) none {})
    fragile.Obeys ∧
      fragile.connectionState (fragile.after (fresh .closed) [.openConnection]).world = .opened ∧
      fragile.connectionState
        (fragile.after (fresh .closed) [.openConnection, statement]).world ≠ .opened ∧
      ∀ entry ∈ fragile.callsOf .closed [.openConnection] statement,
        entry.toConnection = true → entry.done = true :=
  ⟨⟨fun _ _ => rfl, fun _ _ => rfl⟩, by decide +kernel, by decide +kernel, by decide +kernel⟩

end Outside

end EntitySql
