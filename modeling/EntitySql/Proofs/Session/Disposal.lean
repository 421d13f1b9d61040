import EntitySql.Proofs.Session.Stale
import EntitySql.Proofs.Session.Trail

/-!
# Giving a manager up

The disposal of a manager releases the transaction, closes the connection and
gives it up, one after the other.  In the books the manager is disposed of in
any case.  Outside, a call that fails keeps the later ones from being made;
only a unit of work that has taken the connection gives it back all the same.
So the connection stays open if the transaction could not be released on a
connection that was open before the unit of work.
-/

namespace EntitySql

open Session

variable {ω : Type}

namespace Entry

/-- Whether the call failed to end a physical transaction or to close the connection. -/
def obstructs : Entry → Bool
  | .ended _ _ done | .closed done => !done
  | _ => false

end Entry

/-! ## The connection is given up at most once -/

theorem GivesUp.countP_isDisposal {reported : ConnectionState} {entries : List Entry}
    (givesUp : GivesUp reported entries) :
    entries.countP Entry.isDisposal = if entries.any Entry.obstructs then 0 else 1 := by
  cases givesUp <;> rfl

/-- Until the connection is given up, a call obstructs the disposal exactly if it fails. -/
theorem Ends.obstructs_eq {account : Account ω} {outside : Outside ω}
    {session reached : Session ω} {ending : Ending} {first later : List Entry} {given : Bool}
    {middle : ω} (ends : Ends account session ending first middle)
    (concludes : session.Concludes outside middle later given reached) :
    ∀ entry ∈ first ++ later, entry.obstructs = !entry.done := by
  have ending : ∀ entry ∈ first, entry.obstructs = !entry.done := by
    cases ends with
    | called _ _ _ => simp [Entry.obstructs, Entry.done]
    | skipped _ _ => simp
  have giving : ∀ entry ∈ later, entry.obstructs = !entry.done := by
    cases concludes.givesBack <;> simp [Entry.obstructs, Entry.done]
  exact List.forall_mem_append.mpr ⟨ending, giving⟩

theorem Ends.countP_isDisposal {account : Account ω} {outside : Outside ω}
    {session reached : Session ω} {ending : Ending} {first later : List Entry} {given : Bool}
    {middle : ω} (ends : Ends account session ending first middle)
    (concludes : session.Concludes outside middle later given reached) :
    (first ++ later).countP Entry.isDisposal = 0 := by
  refine List.countP_eq_zero.mpr fun entry member => ?_
  rcases List.mem_append.mp member with early | late
  · simp [ends.noDisposal entry early]
  · simp [concludes.givesBack.noDisposal entry late]

theorem Disposal.countP_isDisposal {account : Account ω} {outside : Outside ω}
    {session reached : Session ω} {entries : List Entry}
    (disposal : Disposal account outside session entries reached) :
    entries.countP Entry.isDisposal = if entries.any Entry.obstructs then 0 else 1 := by
  cases disposal with
  | retired _ givesUp _ => exact givesUp.countP_isDisposal
  | @stopped first later _ _ _ ends concludes failed =>
      have obstructed : (first ++ later).any Entry.obstructs = true := by
        obtain ⟨entry, member, undone⟩ := failed
        refine List.any_eq_true.mpr ⟨entry, member, ?_⟩
        rw [ends.obstructs_eq concludes entry member, undone, Bool.not_false]
      rw [ends.countP_isDisposal concludes, obstructed, if_pos rfl]
  | @released first later last _ _ _ _ ends concludes done givesUp _ =>
      have free : (first ++ later).any Entry.obstructs = false := by
        refine List.any_eq_false.mpr fun entry member => ?_
        simp [ends.obstructs_eq concludes entry member, done entry member]
      rw [List.countP_append, List.any_append, ends.countP_isDisposal concludes, free,
        Nat.zero_add, Bool.false_or]
      exact givesUp.countP_isDisposal

/-! ## The connection is closed -/

/-- The connection is not closed, nor does it close when the physical transaction
of the unit of work is released. -/
structure Session.StaysOpen (outside : Outside ω) (session : Session ω) : Prop where
  before : outside.connectionState session.world ≠ .closed
  after : ∀ resource, session.currentResource = some resource →
    outside.connectionState (outside.closeResource resource session.world).2 ≠ .closed

theorem Ends.notClosed {outside : Outside ω} {session : Session ω} {entries : List Entry}
    {middle : ω} (ends : Ends (.trail outside) session .release entries middle)
    (stays : session.StaysOpen outside) : outside.connectionState middle ≠ .closed := by
  cases ends with
  | called current _ reaches =>
      cases Outside.Trail.made reaches with
      | released ran =>
          rw [← ran.reached_eq]
          exact stays.after _ current
  | skipped _ _ => exact stays.before

theorem Ends.noClose {account : Account ω} {session : Session ω} {ending : Ending}
    {entries : List Entry} {middle : ω} (ends : Ends account session ending entries middle)
    (done : Bool) : Entry.closed done ∉ entries := by
  cases ends with
  | called _ _ _ => simp
  | skipped _ _ => simp

theorem Ends.unreleased {account : Account ω} {session : Session ω} {ending : Ending}
    {entries : List Entry} {middle : ω} (ends : Ends account session ending entries middle)
    (failed : ∃ entry ∈ entries, entry.done = false) :
    ∃ resource, Entry.ended ending resource false ∈ entries := by
  obtain ⟨entry, member, undone⟩ := failed
  cases ends with
  | @called resource done _ _ _ _ =>
      obtain rfl := List.mem_singleton.mp member
      obtain rfl : done = false := undone
      exact ⟨resource, member⟩
  | skipped _ _ => cases member

theorem GivesUp.closes {reported : ConnectionState} {entries : List Entry}
    (givesUp : GivesUp reported entries) (notClosed : reported ≠ .closed) :
    ∃ done, Entry.closed done ∈ entries := by
  cases givesUp with
  | already closed => exact absurd closed notClosed
  | closed _ => exact ⟨true, by simp⟩
  | cannotClose _ => exact ⟨false, by simp⟩

/-- An open connection is closed unless it does not belong to the unit of work and
the physical transaction could not be released. -/
theorem Disposal.closes_iff {outside : Outside ω} {session reached : Session ω}
    {entries : List Entry} (disposal : Disposal (.trail outside) outside session entries reached)
    (stays : session.StaysOpen outside) :
    (∃ done, Entry.closed done ∈ entries) ↔
      session.manager.ownsConnection = true ∨
        ∀ resource, Entry.ended .release resource false ∉ entries := by
  cases disposal with
  | retired _ givesUp _ =>
      refine iff_of_true (givesUp.closes stays.before) (.inr fun resource member => ?_)
      cases givesUp.connectionOnly _ member
  | @stopped first later given middle reached ends concludes failed =>
      have notClosed := ends.notClosed stays
      obtain ⟨_, back⟩ := concludes
      generalize reached.world = world at back
      cases back with
      | spared notTaken =>
          -- nothing is given back, so the call that failed is the release
          rw [List.append_nil] at failed ⊢
          obtain ⟨resource, member⟩ := ends.unreleased failed
          refine iff_of_false (fun ⟨done, closing⟩ => ends.noClose done closing) ?_
          rintro (owned | released)
          · rw [notTaken] at owned
            cases owned
          · exact released resource member
      | already closed => exact absurd closed notClosed
      | closed isTaken _ => exact iff_of_true ⟨given, by simp⟩ (.inl isTaken)
  | @released first later last given middle concluded reached ends concludes done givesUp _ =>
      have notClosed := ends.notClosed stays
      have noneFailed : ∀ resource, Entry.ended .release resource false ∉ first ++ later ++ last := by
        intro resource member
        rcases List.mem_append.mp member with early | late
        · cases done _ early
        · cases givesUp.connectionOnly _ late
      refine iff_of_true ?_ (.inr noneFailed)
      obtain ⟨_, back⟩ := concludes
      generalize concluded.world = world at back givesUp
      cases back with
      | spared _ =>
          obtain ⟨done, member⟩ := givesUp.closes notClosed
          exact ⟨done, List.mem_append_right _ member⟩
      | already closed => exact absurd closed notClosed
      | closed _ _ => exact ⟨given, by simp⟩

/-! ## Disposal in a run -/

/-- What the manager and the journal make of the world is what the world is. -/
theorem Session.StaysOpen.journaled {outside : Outside ω} {session : Session (Journaled ω)}
    (stays : session.erased.StaysOpen outside) (known : session.Known) :
    session.StaysOpen outside.journaled where
  before := stays.before
  after resource current := by
    have named : session.erased.currentResource = some (session.world.nameOf resource) := by
      rw [currentResource_erased known, current, Option.map_some]
    exact stays.after _ named

namespace Outside

/-- Disposing of a manager leaves it disposed of and idle, and doing so again
makes no call.  The connection is given up exactly once if the transaction has
been released and the connection closed as far as needed, and not at all
otherwise.  An open connection is closed, or this is at least tried, unless the
transaction could not be released and the connection was open before it. -/
theorem dispose_gives_up (outside : Outside ω) (world : ω) (operations : List Operation)
    (there : (outside.after (fresh world) operations).manager.disposed = false) :
    let session := outside.after (fresh world) operations
    let calls := outside.callsOf world operations .dispose
    let reached := outside.after (fresh world) (operations ++ [.dispose])
    (reached.manager.disposed = true ∧ reached.manager.live = [] ∧
      reached.manager.phase = .idle) ∧
    (∀ later, outside.callsOf world (operations ++ .dispose :: later) .dispose = []) ∧
    calls.countP Entry.isDisposal = (if calls.any Entry.obstructs then 0 else 1) ∧
    (session.StaysOpen outside →
      ((∃ done, Entry.closed done ∈ calls) ↔
        session.manager.ownsConnection = true ∨
          ∀ resource, Entry.ended .release resource false ∉ calls)) := by
  intro session calls reached
  have coherent := (outside.journaled_numbered world operations).1
  obtain ⟨erased_eq, known⟩ := outside.journaledAfter_erased world operations
  have thereToo : (outside.journaledAfter world operations).manager.disposed = false := by
    rw [outside.journaledAfter_manager world operations, there]
  obtain ⟨entries, trail, last, disposal, reached_eq⟩ :=
    ((Account.trail_keeps outside.journaled).dispose_disposal coherent thereToo).reached
  have calls_eq : calls = entries := callsOf_step trail.journal_eq
  have manager_eq : reached.manager = { last.manager with disposed := true } := by
    have journaled_eq := outside.journaledAfter_manager world (operations ++ [.dispose])
    rw [journaledAfter_snoc, step, reached_eq] at journaled_eq
    exact journaled_eq.symm
  have finished := disposal.finished coherent
  refine ⟨⟨?_, ?_, ?_⟩, fun later => ?_, ?_, fun stays => ?_⟩
  · rw [manager_eq]
  · rw [manager_eq]
    exact finished.live_eq
  · rw [manager_eq]
    exact finished.phase_eq
  · apply callsOf_stay
    rw [outside.run_disposed]
    simp [Operation.disposes, Operation.move]
  · rw [calls_eq]
    exact disposal.countP_isDisposal
  · have owns_eq : session.manager.ownsConnection =
        (outside.journaledAfter world operations).manager.ownsConnection := by
      rw [outside.journaledAfter_manager world operations]
    rw [calls_eq, owns_eq]
    refine disposal.closes_iff (StaysOpen.journaled ?_ known)
    rw [erased_eq]
    exact stays

theorem begun_transaction_given_up :
    let calls := obliging.callsOf .closed [.begin .null] .dispose
    (obliging.after (fresh .closed) [.begin .null]).manager.disposed = false ∧
      (∃ done, Entry.closed done ∈ calls) ∧ calls.countP Entry.isDisposal = 1 := by
  intro calls
  have there : (obliging.after (fresh .closed) [.begin .null]).manager.disposed = false := by
    decide +kernel
  have stays : (obliging.after (fresh .closed) [.begin .null]).StaysOpen obliging := by
    refine ⟨by decide +kernel, fun resource _ => ?_⟩
    change (obliging.after (fresh .closed) [.begin .null]).world ≠ .closed
    decide +kernel
  have unobstructed : calls.any Entry.obstructs = false := by decide +kernel
  obtain ⟨_, _, once, closes⟩ := dispose_gives_up obliging .closed [.begin .null] there
  rw [unobstructed, if_neg Bool.false_ne_true] at once
  exact ⟨there, (closes stays).mpr (.inl (by decide +kernel)), once⟩

/-- A transaction that began on an open connection could not be released, and the
connection is neither closed nor given up. -/
theorem unreleased_connection_left_open :
    let operations := [.openConnection, .begin .null]
    let reached := clinging.after (fresh .closed) (operations ++ [.dispose])
    (clinging.after (fresh .closed) operations).manager.disposed = false ∧
      reached.manager.disposed = true ∧ clinging.connectionState reached.world = .opened ∧
      (∀ done, Entry.closed done ∉ clinging.callsOf .closed operations .dispose) ∧
      (clinging.callsOf .closed operations .dispose).countP Entry.isDisposal = 0 := by
  intro operations reached
  have calls : clinging.callsOf .closed operations .dispose = [.ended .release 0 false] := rfl
  refine ⟨by decide +kernel, by decide +kernel, by decide +kernel, ?_, ?_⟩
  · simp [calls]
  · rw [calls]
    rfl

end Outside

end EntitySql
