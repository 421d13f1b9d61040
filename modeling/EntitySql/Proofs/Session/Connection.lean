import EntitySql.Proofs.Session.Resource
import EntitySql.Proofs.Session.Samples
import EntitySql.Samples

/-!
# Statements and connection sessions

A physical transaction lives on the session of the physical connection on
which it was begun.  The manager closes and reopens a connection that is not
reported open whenever it is asked for it, also during a transaction, so a
statement may reach another session than its transaction.  This file says
exactly when: as long as the connection is reported open when it is asked for,
statements and transactions stay together.
-/

namespace EntitySql

open Session

variable {ω : Type}

/-! ## Journals and connection sessions -/

namespace Entry

/-- Whether the call began or ended a session of the connection. -/
def reconnects : Entry → Bool
  | .opened done | .closed done => done
  | _ => false

/-- The physical transaction of a statement that was handed over. -/
def used : Entry → Option Nat
  | .executed request _ => request.transaction
  | _ => none

/-- The physical transactions begun on the session of the connection, after one more call. -/
def attach (attached : List Nat) : Entry → List Nat
  | .opened true | .closed true => []
  | .begun resource => resource :: attached
  | _ => attached

end Entry

/-- The physical transactions begun on the session that a journal ends with. -/
def attachedIn (journal : List Entry) : List Nat := journal.foldl Entry.attach []

/-- From a session with the given physical transactions on, every statement
reaches the session of its transaction. -/
def FaithfulFrom : List Nat → List Entry → Prop
  | _, [] => True
  | attached, entry :: rest =>
    (∀ resource ∈ entry.used, resource ∈ attached) ∧ FaithfulFrom (entry.attach attached) rest

instance decidableFaithfulFrom :
    (attached : List Nat) → (journal : List Entry) → Decidable (FaithfulFrom attached journal)
  | _, [] => isTrue trivial
  | attached, entry :: rest =>
    have := decidableFaithfulFrom (entry.attach attached) rest
    inferInstanceAs (Decidable ((∀ resource ∈ entry.used, resource ∈ attached) ∧
      FaithfulFrom (entry.attach attached) rest))

/-- Every statement handed over with a physical transaction reaches the session
on which the transaction was begun. -/
def Faithful (journal : List Entry) : Prop := FaithfulFrom [] journal

instance decidableFaithful (journal : List Entry) : Decidable (Faithful journal) :=
  decidableFaithfulFrom [] journal

theorem faithfulFrom_append (attached : List Nat) (first second : List Entry) :
    FaithfulFrom attached (first ++ second) ↔
      FaithfulFrom attached first ∧ FaithfulFrom (first.foldl Entry.attach attached) second := by
  induction first generalizing attached with
  | nil => simp [FaithfulFrom]
  | cons entry rest ih => simp [FaithfulFrom, ih, and_assoc]

theorem faithfulFrom_of_unused {entries : List Entry} (unused : ∀ entry ∈ entries, entry.used = none)
    (attached : List Nat) : FaithfulFrom attached entries := by
  induction entries generalizing attached with
  | nil => trivial
  | cons entry rest ih =>
      refine ⟨?_, ih (fun other member => unused other (List.mem_cons_of_mem _ member)) _⟩
      simp [unused entry List.mem_cons_self]

section Statement

variable {before after : List Entry} {request : Request} {done : Bool}

/-- Among calls that use no physical transaction, a statement uses its own. -/
theorem exists_used_iff (unusedBefore : ∀ entry ∈ before, entry.used = none)
    (unusedAfter : ∀ entry ∈ after, entry.used = none) (resource : Nat) :
    (∃ entry ∈ before ++ .executed request done :: after, entry.used = some resource) ↔
      request.transaction = some resource := by
  constructor
  · rintro ⟨entry, member, uses⟩
    rcases List.mem_append.mp member with early | late
    · rw [unusedBefore entry early] at uses
      cases uses
    · rcases List.mem_cons.mp late with rfl | later
      · exact uses
      · rw [unusedAfter entry later] at uses
        cases uses
  · exact fun uses => ⟨.executed request done, by simp, uses⟩

theorem faithfulFrom_statement (unusedBefore : ∀ entry ∈ before, entry.used = none)
    (unusedAfter : ∀ entry ∈ after, entry.used = none) (attached : List Nat) :
    FaithfulFrom attached (before ++ .executed request done :: after) ↔
      ∀ resource, request.transaction = some resource →
        resource ∈ before.foldl Entry.attach attached := by
  rw [faithfulFrom_append]
  constructor
  · exact fun faithful => faithful.2.1
  · exact fun reaches => ⟨faithfulFrom_of_unused unusedBefore attached, reaches,
      faithfulFrom_of_unused unusedAfter _⟩

end Statement

theorem mem_attach {entry : Entry} {attached : List Nat} {resource : Nat}
    (keeps : entry.reconnects = false) (member : resource ∈ attached) :
    resource ∈ entry.attach attached := by
  cases entry with
  | opened done =>
      obtain rfl : done = false := keeps
      exact member
  | closed done =>
      obtain rfl : done = false := keeps
      exact member
  | begun other => exact List.mem_cons_of_mem other member
  | _ => exact member

/-- As long as the connection is left alone, physical transactions stay attached. -/
theorem mem_foldl_attach {entries : List Entry} {attached : List Nat} {resource : Nat}
    (keeps : ∀ entry ∈ entries, entry.reconnects = false) (member : resource ∈ attached) :
    resource ∈ entries.foldl Entry.attach attached := by
  induction entries generalizing attached with
  | nil => exact member
  | cons entry rest ih =>
      apply ih (fun other later => keeps other (List.mem_cons_of_mem _ later))
      exact mem_attach (keeps entry List.mem_cons_self) member

/-- Opening the connection leaves a physical transaction attached only if there
was nothing to open. -/
theorem Opens.attached_iff {state : ConnectionState} {entries : List Entry} {opened : Bool}
    (opens : Opens state entries opened) (attached : List Nat) (resource : Nat) :
    resource ∈ entries.foldl Entry.attach attached ↔ resource ∈ attached ∧ state = .opened := by
  cases opens <;> simp [Entry.attach]

/-! ## What one operation does -/

theorem Quiet.unused {entries : List Entry} (quiet : Quiet entries) :
    ∀ entry ∈ entries, entry.used = none := by
  intro entry member
  rcases quiet entry member with connection | rfl
  · cases entry <;> first | rfl | cases connection
  · rfl

theorem live_of_currentResource {session : Session ω} {resource : Nat}
    (current : session.currentResource = some resource) : session.manager.live ≠ [] := by
  intro noneLive
  rw [currentResource_eq, outermost_idle noneLive] at current
  cases current

/-- The statement of a visit reaches the session of its transaction exactly if
that is still the session of the connection and the connection is reported open. -/
theorem Visit.faithful_iff {outside : Outside ω} {session : Session ω} {entries : List Entry}
    (visit : Visit outside session entries) (attached : List Nat) :
    FaithfulFrom attached entries ↔
      ∀ resource, (∃ entry ∈ entries, entry.used = some resource) →
        resource ∈ attached ∧ outside.connectionState session.world = .opened := by
  cases visit with
  | connection only _ =>
      have unused := only.quiet.unused
      refine iff_of_true (faithfulFrom_of_unused unused attached) ?_
      rintro resource ⟨entry, member, uses⟩
      rw [unused entry member] at uses
      cases uses
  | @statement before after opened request done opens _ only _ =>
      have unusedBefore := opens.connectionOnly.quiet.unused
      have unusedAfter := only.quiet.unused
      rw [faithfulFrom_statement unusedBefore unusedAfter]
      refine forall_congr' fun resource => ?_
      rw [exists_used_iff unusedBefore unusedAfter, opens.attached_iff]

/-- Only a visit hands a statement over. -/
theorem Outcome.unused {outside : Outside ω} {session reached : Session ω} {move : Move}
    {entries : List Entry} (outcome : Outcome outside session move entries reached)
    (unasked : move ≠ .ask) : ∀ entry ∈ entries, entry.used = none := by
  cases outcome with
  | asked _ _ => exact absurd rfl unasked
  | stayed _ => exact List.forall_mem_nil _
  | shut _ => exact List.forall_mem_nil _
  | notStarted _ preparing _ _ => exact Quiet.unused preparing
  | started _ _ only _ =>
      intro entry member
      rcases List.mem_append.mp member with early | begin
      · exact only.quiet.unused entry early
      · rw [List.mem_singleton.mp begin]
        rfl
  | nested _ => exact List.forall_mem_nil _
  | left _ => exact List.forall_mem_nil _
  | notEnded _ _ _ => exact List.forall_mem_singleton.mpr rfl
  | notReleased _ _ => exact List.forall_mem_singleton.mpr rfl
  | refused _ _ _ => exact List.forall_mem_nil _
  | ended _ _ only _ =>
      intro entry member
      rcases List.mem_cons.mp member with rfl | later
      · rfl
      · exact only.quiet.unused entry later
  | abandoned _ _ only _ => exact only.quiet.unused
  | retired _ only _ => exact only.quiet.unused

theorem Outcome.faithful_iff {outside : Outside ω} {session reached : Session ω} {move : Move}
    {entries : List Entry} (outcome : Outcome outside session move entries reached)
    (attached : List Nat) :
    FaithfulFrom attached entries ↔
      ∀ resource, (∃ entry ∈ entries, entry.used = some resource) →
        resource ∈ attached ∧ outside.connectionState session.world = .opened := by
  by_cases asks : move = .ask
  · subst asks
    cases outcome with
    | asked visit _ => exact visit.faithful_iff attached
  · have unused := outcome.unused asks
    refine iff_of_true (faithfulFrom_of_unused unused attached) ?_
    rintro resource ⟨entry, member, uses⟩
    rw [unused entry member] at uses
    cases uses

/-- A statement is handed over with no other physical transaction than that of
the unit of work, by an operation that asks for the connection. -/
theorem Outcome.used {outside : Outside ω} {session reached : Session ω} {move : Move}
    {entries : List Entry} (outcome : Outcome outside session move entries reached)
    {entry : Entry} (member : entry ∈ entries) {resource : Nat}
    (uses : entry.used = some resource) :
    move = .ask ∧ session.currentResource = some resource := by
  by_cases asks : move = .ask
  · subst asks
    refine ⟨rfl, ?_⟩
    cases outcome with
    | asked visit _ =>
        cases visit with
        | connection only _ =>
            rw [only.quiet.unused entry member] at uses
            cases uses
        | statement opens bound only _ =>
            rcases List.mem_append.mp member with early | late
            · rw [opens.connectionOnly.quiet.unused entry early] at uses
              cases uses
            · rcases List.mem_cons.mp late with rfl | later
              · exact bound.symm.trans uses
              · rw [only.quiet.unused entry later] at uses
                cases uses
  · rw [outcome.unused asks entry member] at uses
    cases uses

/-- An operation that leaves the unit of work in progress leaves the connection
alone, unless it asks for the connection while this is not reported open. -/
theorem Outcome.steady {outside : Outside ω} {session reached : Session ω} {move : Move}
    {entries : List Entry} (outcome : Outcome outside session move entries reached)
    (live : session.manager.live ≠ []) (stillLive : reached.manager.live ≠ [])
    (reported : move = .ask → outside.connectionState session.world = .opened) :
    ∀ entry ∈ entries, entry.reconnects = false := by
  cases outcome with
  | asked visit _ =>
      cases visit with
      | connection _ steady =>
          rw [steady live (reported rfl)]
          exact List.forall_mem_nil _
      | @statement before after opened request done opens _ _ steady =>
          rw [reported rfl] at opens
          cases opens
          rw [steady rfl]
          exact List.forall_mem_singleton.mpr rfl
  | stayed _ => exact List.forall_mem_nil _
  | shut _ => exact List.forall_mem_nil _
  | notStarted noneLive _ _ _ => exact absurd noneLive live
  | started _ noneLive _ _ => exact absurd noneLive live
  | nested _ => exact List.forall_mem_nil _
  | left _ => exact List.forall_mem_nil _
  | notEnded _ _ _ => exact List.forall_mem_singleton.mpr rfl
  | notReleased _ _ => exact List.forall_mem_singleton.mpr rfl
  | refused _ _ _ => exact List.forall_mem_nil _
  | ended _ _ _ finished => exact absurd finished.live_eq stillLive
  | abandoned _ _ _ finished => exact absurd finished.live_eq stillLive
  | retired noneLive _ _ => exact absurd noneLive live

/-- The physical transaction of a unit of work stays attached to the connection
as long as this is reported open when it is asked for. -/
theorem Outcome.attached {outside : Outside ω} {session reached : Session ω} {move : Move}
    {entries : List Entry} {attached : List Nat}
    (outcome : Outcome outside session move entries reached) (coherent : session.Coherent)
    (reported : session.manager.live ≠ [] → move = .ask →
      outside.connectionState session.world = .opened)
    (before : ∀ resource, session.currentResource = some resource → resource ∈ attached)
    {resource : Nat} (current : reached.currentResource = some resource) :
    resource ∈ entries.foldl Entry.attach attached := by
  have kept : session.currentResource = some resource →
      resource ∈ entries.foldl Entry.attach attached := by
    intro same
    have live := live_of_currentResource same
    have alone := outcome.steady live (live_of_currentResource current) (reported live)
    exact mem_foldl_attach alone (before resource same)
  -- the effect tells which physical transaction the unit of work has afterwards
  have effect := outcome.effect coherent
  generalize reached.currentResource = next at effect current
  cases effect with
  | none _ => exact kept current
  | used _ _ _ => exact kept current
  | begun _ _ =>
      cases current
      rw [List.foldl_append]
      exact List.mem_cons_self
  | survived same => exact kept (same.trans current)
  | ended _ _ => cases current
  | abandoned _ _ => cases current

/-! ## Runs -/

namespace Outside

/-- The connection is reported open whenever it is asked for during a transaction. -/
def Steady (outside : Outside ω) (world : ω) (operations : List Operation) : Prop :=
  ∀ earlier operation later, operations = earlier ++ operation :: later →
    let session := outside.after (fresh world) earlier
    session.manager.live ≠ [] →
      operation.move session.manager.live session.manager.disposed = .ask →
        outside.connectionState session.world = .opened

theorem Steady.earlier {outside : Outside ω} {world : ω} {earlier later : List Operation}
    (steady : outside.Steady world (earlier ++ later)) : outside.Steady world earlier := by
  intro first operation rest split
  apply steady first operation (rest ++ later)
  rw [split, List.append_assoc, List.cons_append]

/-- In a steady run, statements reach the sessions of their transactions. -/
theorem Steady.faithful {outside : Outside ω} {world : ω} {operations : List Operation}
    (steady : outside.Steady world operations) :
    Faithful (outside.journalOf world operations) ∧
      ∀ resource, (outside.journaledAfter world operations).currentResource = some resource →
        resource ∈ attachedIn (outside.journalOf world operations) := by
  induction operations using List.reverseRecOn with
  | nil =>
      refine ⟨trivial, fun resource current => ?_⟩
      cases current
  | append_singleton earlier operation ih =>
      obtain ⟨faithful, attached⟩ := ih steady.earlier
      obtain ⟨entries, turn⟩ := outside.turn world earlier operation
      have outcome := turn.performed.outcome
      have reported := steady earlier operation [] rfl
      simp only [← outside.journaledAfter_manager, ← outside.journaledAfter_world] at reported
      rw [turn.journalOf_eq]
      constructor
      · refine (faithfulFrom_append _ _ _).mpr ⟨faithful, (outcome.faithful_iff _).mpr ?_⟩
        rintro resource ⟨entry, member, uses⟩
        obtain ⟨asks, current⟩ := outcome.used member uses
        exact ⟨attached resource current, reported (live_of_currentResource current) asks⟩
      · intro resource current
        rw [attachedIn, List.foldl_append]
        exact outcome.attached turn.coherent reported attached current

/-- Statements reach the sessions of their transactions as long as the
connection is reported open whenever it is asked for during a transaction: then
no operation but the ones that end the transaction opens or closes it.  The
next statement of a transaction stays with it exactly if the session of the
transaction is still there and the connection is reported open. -/
theorem statements_keep_session (outside : Outside ω) (world : ω) (operations : List Operation) :
    let session := outside.after (fresh world) operations
    let journal := outside.journalOf world operations
    let reported := outside.connectionState session.world
    (outside.Steady world operations → Faithful journal) ∧
      ∀ operation,
        (session.manager.live ≠ [] → reported = .opened →
          (outside.after (fresh world) (operations ++ [operation])).manager.live ≠ [] →
            ∀ entry ∈ outside.callsOf world operations operation, entry.reconnects = false) ∧
        (Faithful (outside.journalOf world (operations ++ [operation])) ↔
          Faithful journal ∧
            ∀ resource,
              (∃ entry ∈ outside.callsOf world operations operation,
                entry.used = some resource) →
              resource ∈ attachedIn journal ∧ reported = .opened) := by
  intro session journal reported
  refine ⟨fun steady => steady.faithful.1, fun operation => ?_⟩
  obtain ⟨entries, turn⟩ := outside.turn world operations operation
  have calls : outside.callsOf world operations operation = entries := by
    rw [callsOf, turn.journalOf_eq, List.drop_left]
  have outcome := turn.performed.outcome
  have reported_eq :
      outside.connectionState (outside.journaledAfter world operations).world.world = reported :=
    congrArg outside.connectionState (outside.journaledAfter_world world operations)
  rw [calls, turn.journalOf_eq, ← reported_eq, ← outside.journaledAfter_manager world operations,
    ← outside.journaledAfter_manager world (operations ++ [operation])]
  constructor
  · exact fun live isOpen stillLive => outcome.steady live stillLive fun _ => isOpen
  · rw [Faithful, faithfulFrom_append]
    exact and_congr_right fun _ => outcome.faithful_iff (attachedIn journal)

/-- When the connection breaks during a transaction, an insert in the
transaction is carried out on a new session of the connection. -/
theorem insert_leaves_session :
    ¬Faithful (obliging.journalOf .closed [.begin .null, .wait,
      .work ⟨.sqlite, .colon⟩ (.insert
        ⟨Samples.auditEntry, [("Message", .text "kept"), ("Level", .int 1)]⟩ {} none)]) := by
  decide +kernel

end Outside

end EntitySql
