import EntitySql.Proofs.Session.Resource
import EntitySql.Proofs.Session.Samples

/-!
# Rolling back

A rollback goes through the outermost handle, whose own marks decide whether
the physical transaction is reached.  The only operation that leaves these
marks at odds with the manager is a release that fails: the handle is closed
from then on, while the unit of work goes on.  So a rollback of an active
transaction reaches the physical transaction unless this could not be
released before.
-/

namespace EntitySql

open Session

variable {ω : Type}

/-- According to the journal, the physical transaction of the unit of work could
not be released. -/
def Session.Unreleased (journal : List Entry) (session : Session ω) : Prop :=
  ∃ resource, session.currentResource = some resource ∧
    Entry.ended .release resource false ∈ journal

/-! ## When the outermost handle is closed -/

theorem Session.not_rootShut_of_idle {session : Session ω} (noneLive : session.manager.live = []) :
    ¬session.RootShut := by
  rintro ⟨handle, isOutermost, _⟩
  rw [outermost_idle noneLive] at isOutermost
  cases isOutermost

theorem Session.not_unreleased_of_idle {session : Session ω} {journal : List Entry}
    (noneLive : session.manager.live = []) : ¬session.Unreleased journal := by
  rintro ⟨resource, current, _⟩
  rw [currentResource_eq, outermost_idle noneLive] at current
  cases current

/-- Calls that release nothing leave it at that. -/
theorem Session.rootShut_iff_of_same {session reached : Session ω} {journal entries : List Entry}
    (before : session.RootShut ↔ session.Unreleased journal)
    (same : reached.outermost = session.outermost)
    (noRelease : ∀ resource, Entry.ended .release resource false ∉ entries) :
    reached.RootShut ↔ reached.Unreleased (journal ++ entries) := by
  have sameShut : reached.RootShut ↔ session.RootShut := by
    rw [RootShut, RootShut, same]
  have sameResource : reached.currentResource = session.currentResource := by
    rw [currentResource_eq, same, currentResource_eq]
  rw [sameShut, before, Unreleased, Unreleased, sameResource]
  simp [noRelease]

theorem Quiet.noRelease {entries : List Entry} (quiet : Quiet entries) (resource : Nat) :
    Entry.ended .release resource false ∉ entries := by
  intro member
  rcases quiet _ member with connection | beginFailed
  · cases connection
  · cases beginFailed

theorem Visit.noRelease {outside : Outside ω} {session : Session ω} {entries : List Entry}
    (visit : Visit outside session entries) (resource : Nat) :
    Entry.ended .release resource false ∉ entries := by
  cases visit with
  | connection only _ => exact only.quiet.noRelease resource
  | statement opens _ only _ =>
      have before := opens.connectionOnly.quiet.noRelease resource
      have after := only.quiet.noRelease resource
      simp [before, after]

/-- A physical transaction that begins now has not been released before. -/
theorem Reckoned.fresh_unreleased {journal entries : List Entry} {current : Option Nat}
    {resource : Nat} (reckoned : Reckoned journal current)
    (nodup : (begunIn (journal ++ (entries ++ [.begun resource]))).Nodup) :
    Entry.ended .release resource false ∉ journal := by
  intro member
  have old : resource ∈ begunIn journal :=
    reckoned.known _ member resource (by simp [Entry.concerns])
  have new : resource ∈ begunIn (entries ++ [.begun resource]) := by
    simp [begunIn, Entry.beginning]
  rw [begunIn_append] at nodup
  exact (List.nodup_append.mp nodup).2.2 resource old resource new rfl

/-- Every outcome keeps in step whether the outermost handle is closed and whether
its physical transaction could not be released. -/
theorem Outcome.rootShut_iff {outside : Outside ω} {session reached : Session ω} {move : Move}
    {journal entries : List Entry} (outcome : Outcome outside session move entries reached)
    (coherent : session.Coherent) (reckoned : Reckoned journal session.currentResource)
    (nodup : (begunIn (journal ++ entries)).Nodup)
    (before : session.RootShut ↔ session.Unreleased journal) :
    reached.RootShut ↔ reached.Unreleased (journal ++ entries) := by
  have ended : reached.manager.live = [] →
      (reached.RootShut ↔ reached.Unreleased (journal ++ entries)) := by
    intro noneLive
    exact iff_of_false (not_rootShut_of_idle noneLive) (not_unreleased_of_idle noneLive)
  cases outcome with
  | stayed beside => exact rootShut_iff_of_same before beside.outermost_eq (by simp)
  | shut stale => exact rootShut_iff_of_same before (outermost_shut stale) (by simp)
  | asked visit beside => exact rootShut_iff_of_same before beside.outermost_eq visit.noRelease
  | notStarted _ preparing _ beside =>
      exact rootShut_iff_of_same before beside.outermost_eq (Quiet.noRelease preparing)
  | @started opening other resource owns there noneLive only beside =>
      have fresh := reckoned.fresh_unreleased nodup
      have opened := only.quiet.noRelease resource
      have outermost := outermost_started (beside.manager_eq ▸ noneLive) resource owns
      refine iff_of_false ?_ ?_
      · rintro ⟨handle, isOutermost, closed⟩
        rw [outermost] at isOutermost
        cases isOutermost
        cases closed
      · rintro ⟨released, current, member⟩
        rw [currentResource_eq, outermost] at current
        cases current
        simp [fresh, opened] at member
  | nested current => exact rootShut_iff_of_same before (coherent.outermost_pushed current) (by simp)
  | left nested => exact rootShut_iff_of_same before (coherent.outermost_left nested) (by simp)
  | @notEnded ending resource reached notRelease _ beside =>
      refine rootShut_iff_of_same before beside.outermost_eq fun other member => ?_
      cases List.mem_singleton.mp member
      exact notRelease rfl
  | @notReleased root resource world isRoot current =>
      have issued : root < session.handles.length :=
        coherent.issued root (List.mem_of_head? isRoot)
      have outermost : (marked root Handle.shut { session with world }).outermost =
          some ((session.marked root Handle.shut).handleAt root) :=
        outermost_root isRoot
      rw [handleAt_marked_self issued] at outermost
      refine iff_of_true ⟨_, outermost, rfl⟩ ⟨resource, ?_, by simp⟩
      rw [currentResource_shut]
      exact current
  | refused _ _ beside => exact rootShut_iff_of_same before beside.outermost_eq (by simp)
  | ended _ _ _ finished => exact ended finished.live_eq
  | abandoned _ _ _ finished => exact ended finished.live_eq
  | retired _ _ finished => exact ended finished.live_eq

/-- In every run, the outermost handle in use is closed exactly if its physical
transaction could not be released. -/
theorem Outside.run_rootShut_iff (outside : Outside ω) (world : ω) (operations : List Operation) :
    (outside.journaledAfter world operations).RootShut ↔
      (outside.journaledAfter world operations).Unreleased
        (outside.journalOf world operations) := by
  induction operations using List.reverseRecOn with
  | nil => exact iff_of_false (not_rootShut_of_idle rfl) (not_unreleased_of_idle rfl)
  | append_singleton earlier operation ih =>
      obtain ⟨entries, turn⟩ := outside.turn world earlier operation
      have reckoned := (journal_accounts outside world earlier).reckoned
      rw [turn.journalOf_eq]
      exact turn.performed.outcome.rootShut_iff turn.coherent reckoned turn.nodup ih

/-! ## What a rollback calls -/

/-- The calls of a rollback: the physical transaction is rolled back unless the
outermost handle is closed, and the connection may be closed afterwards. -/
def RollsBack (session : Session ω) (entries : List Entry) : Prop :=
  ∃ resource, session.currentResource = some resource ∧
    (¬session.RootShut → ∃ done later,
      entries = .ended .rollback resource done :: later ∧ ConnectionOnly later) ∧
    (session.RootShut → ConnectionOnly entries)

namespace Account

variable {account : Account ω} {outside : Outside ω} {session : Session ω}

theorem Keeps.rollback_rollsBack (keeps : account.Keeps outside.environment)
    (coherent : session.Coherent) (live : session.manager.live ≠ []) :
    account.Leaves outside.environment.rollback session fun entries reached =>
      RollsBack session entries ∧ session.Finished reached := by
  obtain ⟨root, rest, levels⟩ := List.exists_cons_of_ne_nil live
  have isRoot : session.manager.live.head? = some root := by simp [levels]
  have rootLive : root ∈ session.manager.live := List.mem_of_head? isRoot
  have current := coherent.shared root rootLive
  have outermost := outermost_root isRoot
  have notUnderWay : session.manager.phase ≠ .rollingBack := by
    rw [coherent.active live]
    decide
  apply keeps.rollback levels notUnderWay (coherent.there live)
  · intro unusable entries given reached concludes
    have shut : session.RootShut := ⟨_, outermost, closed_of_unusable coherent rootLive unusable⟩
    exact ⟨⟨_, current, fun inUse => absurd shut inUse, fun _ => concludes.givesBack.connectionOnly⟩,
      coherent.finished concludes.concluded⟩
  · intro usable done middle entries given reached _ concludes
    have inUse : ¬session.RootShut := by
      rintro ⟨handle, isOutermost, closed⟩
      rw [outermost] at isOutermost
      cases isOutermost
      simp [Handle.isUsable, closed] at usable
    exact ⟨⟨_, current, fun _ => ⟨done, entries, rfl, concludes.givesBack.connectionOnly⟩,
      fun shut => absurd shut inUse⟩, coherent.finished concludes.concluded⟩

end Account

namespace Outside

/-- Whatever has failed before, a rollback of an active transaction leaves the
manager idle.  It first rolls the physical transaction back unless, before, an
attempt to release this has failed; then it makes no call but to the connection. -/
theorem rollback_reaches_transaction (outside : Outside ω) (world : ω)
    (operations : List Operation)
    (active : (outside.after (fresh world) operations).manager.phase = .active) :
    let journal := outside.journalOf world operations
    let calls := outside.callsOf world operations .rollback
    let reached := outside.after (fresh world) (operations ++ [.rollback])
    (∃ resource, (outside.journaledAfter world operations).currentResource = some resource ∧
      (Entry.ended .release resource false ∉ journal → ∃ done later,
        calls = .ended .rollback resource done :: later ∧ ConnectionOnly later) ∧
      (Entry.ended .release resource false ∈ journal → ConnectionOnly calls)) ∧
    reached.manager.live = [] ∧ reached.manager.phase = .idle := by
  intro journal calls reached
  have coherent := (outside.journaled_numbered world operations).1
  rw [← outside.journaledAfter_manager world operations] at active
  obtain ⟨entries, ⟨journal_eq, _⟩, ⟨resource, current, inUse, shut⟩, finished⟩ :=
    ((Journaled.account_keeps outside).rollback_rollsBack coherent
      (coherent.live_of_active active)).reached
  have calls_eq : calls = entries := callsOf_step journal_eq
  have shut_iff : (outside.journaledAfter world operations).RootShut ↔
      Entry.ended .release resource false ∈ journal := by
    rw [outside.run_rootShut_iff, Unreleased, current]
    simp [journal]
  rw [shut_iff] at inUse shut
  rw [calls_eq]
  have reached_eq : reached.manager =
      (outside.journaledAfter world (operations ++ [.rollback])).manager :=
    (outside.journaledAfter_manager world _).symm
  rw [reached_eq, journaledAfter_snoc]
  exact ⟨⟨resource, current, inUse, shut⟩, finished.live_eq, finished.phase_eq⟩

theorem begun_transaction_rolled_back :
    (obliging.after (fresh .closed) [.begin .null]).manager.phase = .active ∧
      ∃ done later, obliging.callsOf .closed [.begin .null] .rollback =
        .ended .rollback 0 done :: later := by
  have active : (obliging.after (fresh .closed) [.begin .null]).manager.phase = .active := by
    decide +kernel
  have journal : obliging.journalOf .closed [.begin .null] = [.opened true, .begun 0] := rfl
  obtain ⟨⟨resource, current, inUse, _⟩, _⟩ :=
    rollback_reaches_transaction obliging .closed [.begin .null] active
  obtain rfl : 0 = resource := Option.some.inj current
  obtain ⟨done, later, calls, _⟩ := inUse (by simp [journal])
  exact ⟨active, done, later, calls⟩

/-- After a release that failed, a rollback passes over the physical transaction. -/
theorem unreleased_transaction_not_rolled_back :
    let operations := [.begin .null, .closeHandle 0]
    (clinging.after (fresh .closed) operations).manager.phase = .active ∧
      (clinging.journaledAfter .closed operations).currentResource = some 0 ∧
      ∀ done, Entry.ended .rollback 0 done ∉ clinging.callsOf .closed operations .rollback := by
  intro operations
  have calls : clinging.callsOf .closed operations .rollback = [.closed true] := rfl
  refine ⟨by decide +kernel, by decide +kernel, ?_⟩
  simp [calls]

end Outside

end EntitySql
