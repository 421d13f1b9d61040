import EntitySql.Proofs.Session.Erasure
import EntitySql.Proofs.Session.Samples

/-!
# Nested transactions as a counter

As long as no call fails, a manager with all its handles does the same as a
counter of levels: the physical transaction begins with the first level and
ends with the last one or with the first rollback.  The counter knows which
handles stand for its levels, and nothing else.
-/

namespace EntitySql

open Session

variable {ω : Type}

/-! ## The counter -/

/-- What happens to physical transactions. -/
inductive Event where
  | begun
  | ended (ending : Ending)
  deriving DecidableEq, Repr

/-- The event that a call brings about. -/
def Entry.event : Entry → Option Event
  | .begun _ => some .begun
  | .ended ending _ _ => some (.ended ending)
  | _ => none

/-- A counter of levels: the numbers of the handles that stand for them, the
outermost first, how many handles there are, and the events so far. -/
structure Counter where
  levels : List Nat := []
  issued : Nat := 0
  disposed : Bool := false
  events : List Event := []
  deriving DecidableEq, Repr

namespace Counter

/-- The number of levels. -/
def depth (counter : Counter) : Nat := counter.levels.length

/-- The counter after a move. -/
def make (counter : Counter) : Move → Counter
  | .stay | .ask | .retire => counter
  | .start =>
    { counter with
      levels := [counter.issued]
      issued := counter.issued + 1
      events := counter.events ++ [.begun] }
  | .nest =>
    { counter with
      levels := counter.levels ++ [counter.issued]
      issued := counter.issued + 1 }
  | .leave number => { counter with levels := counter.levels.erase number }
  | .finish ending =>
    { counter with levels := [], events := counter.events ++ [.ended ending] }

/-- The counter after an operation. -/
def step (counter : Counter) (operation : Operation) : Counter :=
  { counter.make (operation.move counter.levels counter.disposed) with
    disposed := counter.disposed || operation.disposes }

/-- The counter after operations from the start. -/
def after (operations : List Operation) : Counter := operations.foldl step {}

theorem after_snoc (earlier : List Operation) (operation : Operation) :
    after (earlier ++ [operation]) = (after earlier).step operation := by
  simp [after]

end Counter

/-! ## The simulation -/

/-- A counter stands for a session and its journal. -/
structure Counts (counter : Counter) (journal : List Entry) (session : Session ω) : Prop where
  levels_eq : session.manager.live = counter.levels
  issued_eq : session.handles.length = counter.issued
  disposed_eq : session.manager.disposed = counter.disposed
  events_eq : journal.filterMap Entry.event = counter.events
  rootOpen : ¬session.RootShut

/-- Calls to the connection bring about no event. -/
theorem ConnectionOnly.events {entries : List Entry} (only : ConnectionOnly entries) :
    entries.filterMap Entry.event = [] := by
  refine List.filterMap_eq_nil_iff.mpr fun entry member => ?_
  have connection := only entry member
  cases entry <;> first | rfl | cases connection

theorem Visit.events {outside : Outside ω} {session : Session ω} {entries : List Entry}
    (visit : Visit outside session entries) : entries.filterMap Entry.event = [] := by
  cases visit with
  | connection only _ => exact only.events
  | statement opens _ only _ =>
      rw [List.filterMap_append, opens.connectionOnly.events]
      exact only.events

/-- Without failures, an outcome does what the counter does at its move. -/
theorem Outcome.counted {outside : Outside ω} {session reached : Session ω} {move : Move}
    {entries : List Entry} {counter : Counter} {journal : List Entry}
    (outcome : Outcome outside session move entries reached)
    (counts : Counts counter journal session)
    (undisturbed : ∀ entry ∈ entries, entry.done = true) :
    reached.manager.live = (counter.make move).levels ∧
      reached.handles.length = (counter.make move).issued ∧
      (journal ++ entries).filterMap Entry.event = (counter.make move).events := by
  have failure : ∀ entry ∈ entries, entry.done = false → False := by
    intro entry member failed
    rw [undisturbed entry member] at failed
    cases failed
  rw [List.filterMap_append, counts.events_eq]
  cases outcome with
  | stayed beside =>
      rw [beside.manager_eq, beside.handles_eq]
      exact ⟨counts.levels_eq, counts.issued_eq, List.append_nil _⟩
  | shut _ =>
      rw [marked_manager, marked_length]
      exact ⟨counts.levels_eq, counts.issued_eq, List.append_nil _⟩
  | asked visit beside =>
      rw [beside.manager_eq, beside.handles_eq, visit.events]
      exact ⟨counts.levels_eq, counts.issued_eq, List.append_nil _⟩
  | notStarted _ _ failed _ =>
      obtain ⟨entry, member, failed⟩ := failed
      exact (failure entry member failed).elim
  | @started _ reached resource owns _ noneLive only beside =>
      have levels : ((reached.activated owns).pushed resource).manager.live =
          [session.handles.length] := by
        simp [pushed, activated, beside.manager_eq, beside.handles_eq, noneLive]
      have length : ((reached.activated owns).pushed resource).handles.length =
          session.handles.length + 1 := by
        rw [pushed_length]
        exact congrArg (·.length + 1) beside.handles_eq
      rw [levels, length, List.filterMap_append, only.events, counts.issued_eq]
      exact ⟨rfl, rfl, rfl⟩
  | @nested resource _ =>
      have levels : (session.pushed resource).manager.live =
          session.manager.live ++ [session.handles.length] := rfl
      rw [levels, pushed_length, counts.levels_eq, counts.issued_eq]
      exact ⟨rfl, rfl, List.append_nil _⟩
  | @left number _ =>
      have levels : (session.left number).manager.live = session.manager.live.erase number := rfl
      have length : (session.left number).handles.length = session.handles.length :=
        marked_length number Handle.complete session
      rw [levels, length, counts.levels_eq]
      exact ⟨rfl, counts.issued_eq, List.append_nil _⟩
  | notEnded _ _ _ => exact (failure _ (List.mem_singleton_self _) rfl).elim
  | notReleased _ _ => exact (failure _ (List.mem_singleton_self _) rfl).elim
  | refused isRoot closed _ => exact (counts.rootOpen ⟨_, outermost_root isRoot, closed⟩).elim
  | @ended ending resource done later reached _ _ only finished =>
      have event : (Entry.ended ending resource done).event = some (.ended ending) := rfl
      rw [finished.live_eq, finished.length_eq, List.filterMap_cons_some event, only.events]
      exact ⟨rfl, counts.issued_eq, rfl⟩
  | abandoned isRoot closed _ _ => exact (counts.rootOpen ⟨_, outermost_root isRoot, closed⟩).elim
  | retired noneLive only finished =>
      rw [finished.live_eq, finished.length_eq, only.events, ← noneLive]
      exact ⟨counts.levels_eq, counts.issued_eq, List.append_nil _⟩

/-- An operation whose calls succeed does what the counter does. -/
theorem Outside.Turn.counted {outside : Outside ω} {operation : Operation}
    {session reached : Session (Journaled ω)} {entries : List Entry} {counter : Counter}
    (turn : outside.Turn operation session entries reached)
    (counts : Counts counter session.world.journal session)
    (undisturbed : ∀ entry ∈ entries, entry.done = true) :
    Counts (counter.step operation) (session.world.journal ++ entries) reached := by
  have outcome := turn.performed.outcome
  obtain ⟨levels_eq, issued_eq, events_eq⟩ := outcome.counted counts undisturbed
  rw [counts.levels_eq, counts.disposed_eq] at levels_eq issued_eq events_eq
  refine ⟨levels_eq, issued_eq, ?_, events_eq, fun shut => ?_⟩
  · rw [turn.performed.disposed_eq, counts.disposed_eq]
    rfl
  · rcases outcome.rootShut turn.coherent shut with already | ⟨entry, member, fails⟩
    · exact counts.rootOpen already
    · have done := undisturbed entry member
      cases entry <;> simp_all [Entry.failsToEnd, Entry.done]

theorem run_counted (outside : Outside ω) (world : ω) (operations : List Operation)
    (undisturbed : ∀ entry ∈ outside.journalOf world operations, entry.done = true) :
    Counts (Counter.after operations) (outside.journalOf world operations)
      (outside.journaledAfter world operations) := by
  refine Outside.journaled_induction
    (fun operations journal session => (∀ entry ∈ journal, entry.done = true) →
      Counts (Counter.after operations) journal session) ?_ ?_ operations undisturbed
  · intro _
    refine ⟨rfl, rfl, rfl, rfl, ?_⟩
    rintro ⟨handle, isOutermost, _⟩
    cases isOutermost
  · intro earlier operation session entries reached turn counts undisturbed
    rw [Counter.after_snoc]
    have before : ∀ entry ∈ session.world.journal, entry.done = true :=
      fun entry member => undisturbed entry (List.mem_append_left _ member)
    exact turn.counted (counts before)
      fun entry member => undisturbed entry (List.mem_append_right _ member)

/-- A run without failures has as many levels as the counter and brings about
the same events in the same order. -/
theorem levels_refine_counter (outside : Outside ω) (world : ω) (operations : List Operation)
    (undisturbed : ∀ entry ∈ outside.journalOf world operations, entry.done = true) :
    (outside.after (fresh world) operations).manager.live.length =
        (Counter.after operations).depth ∧
      (outside.journalOf world operations).filterMap Entry.event =
        (Counter.after operations).events := by
  have counts := run_counted outside world operations undisturbed
  rw [← outside.journaledAfter_manager]
  exact ⟨congrArg List.length counts.levels_eq, counts.events_eq⟩

/-- Two levels, of which the inner one is left through its handle, and a rollback. -/
theorem levels_refine_counter_obliging :
    let operations : List Operation :=
      [.begin .null, .begin .null, .commitHandle 1, .begin .null, .rollbackHandle 2]
    (∀ entry ∈ Outside.obliging.journalOf .closed operations, entry.done = true) ∧
      (Outside.obliging.after (fresh .closed) operations).manager.live.length =
        (Counter.after operations).depth ∧
      (Outside.obliging.journalOf .closed operations).filterMap Entry.event =
        (Counter.after operations).events := by
  intro operations
  have undisturbed : ∀ entry ∈ Outside.obliging.journalOf .closed operations,
      entry.done = true := by decide
  exact ⟨undisturbed, levels_refine_counter Outside.obliging .closed operations undisturbed⟩

end EntitySql
