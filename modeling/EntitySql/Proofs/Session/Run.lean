import EntitySql.Proofs.Session.Handles
import EntitySql.Proofs.Session.Journal
import Mathlib.Data.List.Induction

/-!
# Runs from the start

A run starts with a manager that has done nothing and performs operations one
after the other.  Its books are coherent after each of them, and its journal
grows with each of them by the calls of one outcome.
-/

namespace EntitySql

open Session

variable {ω : Type}

/-- Physical transactions with numbers in the order of a journal are begun once. -/
theorem Journaled.Numbered.nodup {state : Journaled ω} (numbered : state.Numbered) :
    (begunIn state.journal).Nodup := by
  rw [numbered]
  exact List.nodup_range

namespace Outside

theorem after_snoc (outside : Outside ω) (session : Session ω) (earlier : List Operation)
    (operation : Operation) :
    outside.after session (earlier ++ [operation]) =
      outside.step (outside.after session earlier) operation := by
  simp [after]

theorem step_coherent {session : Session ω} (outside : Outside ω) (operation : Operation)
    (coherent : session.Coherent) : (outside.step session operation).Coherent := by
  obtain ⟨_, _, performed⟩ := Account.step_performed (Account.silent_keeps outside)
    (fun _ => trivial) coherent operation
  exact performed.outcome.coherent coherent

theorem after_coherent {session : Session ω} (outside : Outside ω) (coherent : session.Coherent)
    (operations : List Operation) : (outside.after session operations).Coherent :=
  after_induction (fun _ operation => outside.step_coherent operation) coherent operations

/-- Whatever operations are performed and whichever calls fail, the books of a
manager are coherent afterwards. -/
theorem run_coherent (outside : Outside ω) (world : ω) (operations : List Operation) :
    (outside.after (fresh world) operations).Coherent :=
  outside.after_coherent (coherent_fresh world) operations

/-- A manager is disposed of exactly if an operation of the run disposes of it. -/
theorem run_disposed (outside : Outside ω) (world : ω) (operations : List Operation) :
    (outside.after (fresh world) operations).manager.disposed =
      operations.any Operation.disposes := by
  induction operations using List.reverseRecOn with
  | nil => rfl
  | append_singleton earlier operation ih =>
      obtain ⟨_, _, performed⟩ := Account.step_performed (Account.silent_keeps outside)
        (fun _ => trivial) (outside.run_coherent world earlier) operation
      rw [after_snoc, performed.disposed_eq, ih]
      simp

/-- The session that a journaled run from the start reaches. -/
def journaledAfter (outside : Outside ω) (world : ω) (operations : List Operation) :
    Session (Journaled ω) :=
  outside.journaled.after (fresh { world }) operations

theorem journaledAfter_snoc (outside : Outside ω) (world : ω) (earlier : List Operation)
    (operation : Operation) :
    outside.journaledAfter world (earlier ++ [operation]) =
      outside.journaled.step (outside.journaledAfter world earlier) operation :=
  outside.journaled.after_snoc (fresh { world }) earlier operation

/-- What is known before an operation of a journaled run, and of the operation. -/
structure Turn (outside : Outside ω) (operation : Operation) (session : Session (Journaled ω))
    (entries : List Entry) (reached : Session (Journaled ω)) : Prop where
  coherent : session.Coherent
  journal_eq : reached.world.journal = session.world.journal ++ entries
  nodup : (begunIn (session.world.journal ++ entries)).Nodup
  performed : Performed outside.journaled operation session entries reached

theorem journaled_numbered (outside : Outside ω) (world : ω) (operations : List Operation) :
    (outside.journaledAfter world operations).Coherent ∧
      (outside.journaledAfter world operations).world.Numbered := by
  induction operations using List.reverseRecOn with
  | nil => exact ⟨coherent_fresh _, rfl⟩
  | append_singleton earlier operation ih =>
      obtain ⟨coherent, numbered⟩ := ih
      obtain ⟨_, ⟨_, numbers⟩, performed⟩ := Account.step_performed
        (Journaled.account_keeps outside) (fun _ => ⟨(List.append_nil _).symm, id⟩)
        coherent operation
      rw [journaledAfter_snoc]
      exact ⟨performed.outcome.coherent coherent, numbers numbered⟩

/-- Every operation of a journaled run is a turn. -/
theorem turn (outside : Outside ω) (world : ω) (earlier : List Operation)
    (operation : Operation) :
    ∃ entries, outside.Turn operation (outside.journaledAfter world earlier) entries
      (outside.journaledAfter world (earlier ++ [operation])) := by
  obtain ⟨coherent, _⟩ := outside.journaled_numbered world earlier
  have nodup := (outside.journaled_numbered world (earlier ++ [operation])).2.nodup
  obtain ⟨entries, ⟨journal_eq, _⟩, performed⟩ := Account.step_performed
    (Journaled.account_keeps outside) (fun _ => ⟨(List.append_nil _).symm, id⟩)
    coherent operation
  rw [← journaledAfter_snoc] at journal_eq performed
  rw [journal_eq] at nodup
  exact ⟨entries, coherent, journal_eq, nodup, performed⟩

theorem Turn.journalOf_eq {outside : Outside ω} {world : ω} {earlier : List Operation}
    {operation : Operation} {entries : List Entry}
    (turn : outside.Turn operation (outside.journaledAfter world earlier) entries
      (outside.journaledAfter world (earlier ++ [operation]))) :
    outside.journalOf world (earlier ++ [operation]) =
      outside.journalOf world earlier ++ entries :=
  turn.journal_eq

/-- What a run has written down stays there. -/
theorem journalOf_append (outside : Outside ω) (world : ω) (earlier later : List Operation) :
    ∃ entries, outside.journalOf world (earlier ++ later) =
      outside.journalOf world earlier ++ entries := by
  induction later using List.reverseRecOn with
  | nil => exact ⟨[], by rw [List.append_nil, List.append_nil]⟩
  | append_singleton between operation ih =>
      obtain ⟨entries, journal_eq⟩ := ih
      obtain ⟨more, turn⟩ := outside.turn world (earlier ++ between) operation
      refine ⟨entries ++ more, ?_⟩
      rw [← List.append_assoc, turn.journalOf_eq, journal_eq, List.append_assoc]

/-- The calls that one more operation makes. -/
def callsOf (outside : Outside ω) (world : ω) (earlier : List Operation) (operation : Operation) :
    List Entry :=
  (outside.journalOf world (earlier ++ [operation])).drop (outside.journalOf world earlier).length

theorem callsOf_eq {outside : Outside ω} {world : ω} {earlier : List Operation}
    {operation : Operation} {entries : List Entry}
    (journal_eq : outside.journalOf world (earlier ++ [operation]) =
      outside.journalOf world earlier ++ entries) :
    outside.callsOf world earlier operation = entries := by
  rw [callsOf, journal_eq, List.drop_left]

theorem callsOf_step {outside : Outside ω} {world : ω} {earlier : List Operation}
    {operation : Operation} {entries : List Entry}
    (journal_eq :
      (outside.journaled.step (outside.journaledAfter world earlier) operation).world.journal =
        (outside.journaledAfter world earlier).world.journal ++ entries) :
    outside.callsOf world earlier operation = entries := by
  apply callsOf_eq
  rw [journalOf, after_snoc]
  exact journal_eq

/-- What holds at the start of a journaled run and is kept by every turn holds
after the run. -/
theorem journaled_induction {outside : Outside ω} {world : ω}
    (property : List Operation → List Entry → Session (Journaled ω) → Prop)
    (start : property [] [] (fresh { world }))
    (kept : ∀ earlier operation session entries reached,
      Turn outside operation session entries reached →
        property earlier session.world.journal session →
          property (earlier ++ [operation]) (session.world.journal ++ entries) reached)
    (operations : List Operation) :
    property operations (outside.journalOf world operations)
      (outside.journaledAfter world operations) := by
  induction operations using List.reverseRecOn with
  | nil => exact start
  | append_singleton earlier operation ih =>
      obtain ⟨entries, turn⟩ := outside.turn world earlier operation
      rw [turn.journalOf_eq]
      exact kept earlier operation _ entries _ turn ih

end Outside

end EntitySql
