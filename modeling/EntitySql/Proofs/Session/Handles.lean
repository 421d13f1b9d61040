import EntitySql.Proofs.Session.Performance

/-!
# What the operations of handles come to

A handle may be the outermost one in use, a nested one in use, or one whose
level is over.  With the operations of handles every operation has been
covered, which `step_performed` sums up.
-/

namespace EntitySql

open Session

variable {ω : Type}

namespace Account

variable {account : Account ω} {session : Session ω}

namespace Keeps

variable {outside : Outside ω}

theorem commitHandle_root (keeps : account.Keeps outside.environment)
    (coherent : session.Coherent) {number : Nat}
    (isRoot : session.manager.live.head? = some number) :
    account.Leaves (outside.environment.commitHandle number) session
      (Finish account outside session .commit) := by
  have live : number ∈ session.manager.live := List.mem_of_head? isRoot
  have current : session.currentResource = some (session.handleAt number).resource :=
    coherent.shared number live
  refine keeps.commitHandle ?_ ?_ ?_ ?_
  · intro unusable
    exact .refused isRoot (closed_of_unusable coherent live unusable) (Beside.refl session)
  · exact fun _ _ fault world => .notEnded (by decide) current ⟨world, _, rfl⟩
  · intro _ _ world covered
    refine Leads.afterCommit ?_ (fun _ _ => keeps.conclude_leaves ?_ ?_) ?_
    · exact fun inactive => absurd (coherent.active (List.ne_nil_of_mem live)) inactive
    · exact coherent.there (List.ne_nil_of_mem live)
    · exact fun _ _ _ concludes => .of_handle coherent live covered concludes
    · intro _ depth
      have isRootHandle : (Session.handleAt { session with world } number).isRoot = true :=
        coherent.root_isRoot isRoot
      rw [isRoot_marked_complete, isRootHandle] at depth
      cases depth
  · intro _ depth
    rw [coherent.root_isRoot isRoot] at depth
    cases depth

theorem commitHandle_nested (keeps : account.Keeps outside.environment)
    (coherent : session.Coherent) {number : Nat}
    (notRoot : session.manager.live.head? ≠ some number)
    (nested : number ∈ session.manager.live.tail) :
    account.Leaves (outside.environment.commitHandle number) session
      (Performed outside (.commitHandle number) session) := by
  have live : number ∈ session.manager.live := List.mem_of_mem_tail nested
  have moves : Operation.move session.manager.live session.manager.disposed
      (.commitHandle number) = .leave number := by
    rw [Operation.move, if_neg notRoot, if_pos live]
  refine keeps.commitHandle ?_ ?_ ?_ ?_
  · intro unusable
    have closed := closed_of_unusable coherent live unusable
    rw [coherent.nested_open number nested] at closed
    cases closed
  · intro _ depth
    rw [coherent.nested_isRoot nested] at depth
    cases depth
  · intro _ depth
    rw [coherent.nested_isRoot nested] at depth
    cases depth
  · intro _ _
    refine Leads.afterCommit ?_ ?_ ?_
    · exact fun inactive => absurd (coherent.active (List.ne_nil_of_mem live)) inactive
    · intro _ depth
      rw [isRoot_marked_complete, coherent.nested_isRoot nested] at depth
      cases depth
    · intro _ _
      exact Performed.of_outcome moves rfl (.left nested) rfl

theorem commitHandle_stale (keeps : account.Keeps outside.environment)
    (coherent : session.Coherent) {number : Nat} (issued : number < session.handles.length)
    (stale : number ∉ session.manager.live) :
    account.Leaves (outside.environment.commitHandle number) session
      (Performed outside (.commitHandle number) session) := by
  have moves : Operation.move session.manager.live session.manager.disposed
      (.commitHandle number) = .stay := Operation.move_of_stale rfl stale
  have unusable : (session.handleAt number).isUsable = false := by
    simp [Handle.isUsable, coherent.completed issued stale]
  refine keeps.commitHandle ?_ ?_ ?_ ?_
  · exact fun _ => Performed.of_beside moves rfl .stayed (Beside.refl session)
  · exact fun usable => absurd (unusable.symm.trans usable) Bool.false_ne_true
  · exact fun usable => absurd (unusable.symm.trans usable) Bool.false_ne_true
  · exact fun usable => absurd (unusable.symm.trans usable) Bool.false_ne_true

theorem commitHandle_performed (keeps : account.Keeps outside.environment)
    (coherent : session.Coherent) {number : Nat} (issued : number < session.handles.length) :
    account.Leaves (outside.environment.commitHandle number) session
      (Performed outside (.commitHandle number) session) := by
  rcases Operation.level_cases session.manager.live number with isRoot | ⟨notRoot, nested⟩ | stale
  · have moves : Operation.move session.manager.live session.manager.disposed
        (.commitHandle number) = .finish .commit := by
      rw [Operation.move, if_pos isRoot]
    exact (keeps.commitHandle_root coherent isRoot).mono fun _ _ finish =>
      Performed.of_finish moves rfl coherent finish
  · exact keeps.commitHandle_nested coherent notRoot nested
  · exact keeps.commitHandle_stale coherent issued stale

theorem rollbackHandle_live (keeps : account.Keeps outside.environment)
    (coherent : session.Coherent) {number : Nat} (live : number ∈ session.manager.live) :
    account.Leaves (outside.environment.rollbackHandle number) session
      (Finish account outside session .rollback) := by
  have current := coherent.shared number live
  have there : session.manager.disposed = false :=
    coherent.there (List.ne_nil_of_mem live)
  refine keeps.rollbackHandle ?_ ?_ ?_
  · intro unusable
    have closed := closed_of_unusable coherent live unusable
    rcases Operation.level_cases session.manager.live number with isRoot | ⟨_, nested⟩ | stale
    · exact .refused isRoot closed (Beside.refl session)
    · rw [coherent.nested_open number nested] at closed
      cases closed
    · exact absurd live stale
  · exact fun _ fault world _ => .notEnded (by decide) current ⟨world, _, rfl⟩
  · intro _ world covered
    refine keeps.afterRollback ?_ ?_ ?_ ?_
    · exact there
    · exact fun inactive => absurd (coherent.active (List.ne_nil_of_mem live)) inactive
    · exact fun active _ _ concludes => .of_handle coherent live covered concludes
    · exact fun active _ _ _ concludes => .of_handle coherent live covered concludes

theorem rollbackHandle_stale (keeps : account.Keeps outside.environment)
    (coherent : session.Coherent) {number : Nat} (issued : number < session.handles.length)
    (stale : number ∉ session.manager.live) :
    account.Leaves (outside.environment.rollbackHandle number) session
      (Performed outside (.rollbackHandle number) session) := by
  have moves : Operation.move session.manager.live session.manager.disposed
      (.rollbackHandle number) = .stay := Operation.move_of_stale rfl stale
  have unusable : (session.handleAt number).isUsable = false := by
    simp [Handle.isUsable, coherent.completed issued stale]
  refine keeps.rollbackHandle ?_ ?_ ?_
  · exact fun _ => Performed.of_beside moves rfl .stayed (Beside.refl session)
  · exact fun usable => absurd (unusable.symm.trans usable) Bool.false_ne_true
  · exact fun usable => absurd (unusable.symm.trans usable) Bool.false_ne_true

theorem rollbackHandle_performed (keeps : account.Keeps outside.environment)
    (coherent : session.Coherent) {number : Nat} (issued : number < session.handles.length) :
    account.Leaves (outside.environment.rollbackHandle number) session
      (Performed outside (.rollbackHandle number) session) := by
  by_cases live : number ∈ session.manager.live
  · have moves : Operation.move session.manager.live session.manager.disposed
        (.rollbackHandle number) = .finish .rollback := by
      rw [Operation.move, if_pos live]
    exact (keeps.rollbackHandle_live coherent live).mono fun _ _ finish =>
      Performed.of_finish moves rfl coherent finish
  · exact keeps.rollbackHandle_stale coherent issued live

theorem closeHandle_root (keeps : account.Keeps outside.environment)
    (coherent : session.Coherent) {number : Nat}
    (isRoot : session.manager.live.head? = some number) :
    account.Leaves (outside.environment.closeHandle number) session
      (Finish account outside session .release) := by
  have live : number ∈ session.manager.live := List.mem_of_head? isRoot
  have current := coherent.shared number live
  refine keeps.closeHandle ?_ ?_ ?_ ?_
  · exact fun closed => .refused isRoot closed (Beside.refl session)
  · exact fun _ _ _ fault world _ => .notReleased rfl isRoot current
  · intro _ _ _ world covered
    have called : Ends account session .release
        [.ended .release (session.handleAt number).resource true] world :=
      .called current (by decide) covered
    refine Leads.afterClose ?_ (fun _ _ _ => keeps.conclude_leaves ?_ ?_) ?_
    · rintro (inactive | completed)
      · exact absurd (coherent.active (List.ne_nil_of_mem live)) inactive
      · have incomplete : (Session.handleAt { session with world } number).completed = false :=
          coherent.incomplete live
        rw [completed_marked_shut, incomplete] at completed
        cases completed
    · exact coherent.there (List.ne_nil_of_mem live)
    · exact fun _ _ _ concludes => .concluded called (concludes.of_shut rfl rfl)
    · intro _ _ depth
      have isRootHandle : (Session.handleAt { session with world } number).isRoot = true :=
        coherent.root_isRoot isRoot
      rw [isRoot_marked_shut, isRootHandle] at depth
      cases depth
  · intro _ nothingToRelease
    simp [coherent.root_isRoot isRoot, coherent.incomplete live] at nothingToRelease

theorem closeHandle_nested (keeps : account.Keeps outside.environment)
    (coherent : session.Coherent) {number : Nat}
    (notRoot : session.manager.live.head? ≠ some number)
    (nested : number ∈ session.manager.live.tail) :
    account.Leaves (outside.environment.closeHandle number) session
      (Finish account outside session .rollback) := by
  have live : number ∈ session.manager.live := List.mem_of_mem_tail nested
  have nestedHandle := coherent.nested_isRoot nested
  refine keeps.closeHandle ?_ ?_ ?_ ?_
  · exact fun closed =>
      absurd ((coherent.nested_open number nested).symm.trans closed) Bool.false_ne_true
  · exact fun _ depth => absurd (nestedHandle.symm.trans depth) Bool.false_ne_true
  · exact fun _ depth => absurd (nestedHandle.symm.trans depth) Bool.false_ne_true
  · intro _ _
    apply Leads.afterClose
    · rintro (inactive | completed)
      · exact absurd (coherent.active (List.ne_nil_of_mem live)) inactive
      · rw [completed_marked_shut, coherent.incomplete live] at completed
        cases completed
    · intro _ _ depth
      rw [isRoot_marked_shut, nestedHandle] at depth
      cases depth
    · intro active _ _ warnings
      -- the level is given up, and the whole unit of work with it
      obtain ⟨root, rest, levels⟩ := List.exists_cons_of_ne_nil (List.ne_nil_of_mem live)
      have isRoot : session.manager.live.head? = some root := by simp [levels]
      have rootLive : root ∈ session.manager.live := List.mem_of_head? isRoot
      have different : number ≠ root := fun same => notRoot (same ▸ isRoot)
      have sameRoot : Session.handleAt { session.marked number Handle.shut with warnings } root =
          session.handleAt root := handleAt_marked_of_ne different Handle.shut session
      have notUnderWay : session.manager.phase ≠ .rollingBack := by
        rw [coherent.active (List.ne_nil_of_mem live)]
        decide
      refine keeps.rollback levels notUnderWay ?_ ?_ ?_
      · exact coherent.there (List.ne_nil_of_mem live)
      · intro unusable entries given reached concludes
        rw [sameRoot] at unusable
        have closed := closed_of_unusable coherent rootLive unusable
        exact .concluded (.skipped isRoot closed) (concludes.of_shut rfl rfl)
      · intro _ done middle entries given reached covered concludes
        rw [sameRoot] at covered ⊢
        exact .concluded (.called (coherent.shared root rootLive) (by simp) covered)
          (concludes.of_shut rfl rfl)

theorem closeHandle_stale (keeps : account.Keeps outside.environment)
    (coherent : session.Coherent) {number : Nat} (issued : number < session.handles.length)
    (stale : number ∉ session.manager.live) :
    account.Leaves (outside.environment.closeHandle number) session
      (Performed outside (.closeHandle number) session) := by
  have moves : Operation.move session.manager.live session.manager.disposed
      (.closeHandle number) = .stay := Operation.move_of_stale rfl stale
  have completed := coherent.completed issued stale
  refine keeps.closeHandle ?_ ?_ ?_ ?_
  · exact fun _ => Performed.of_beside moves rfl .stayed (Beside.refl session)
  · exact fun _ _ incomplete =>
      absurd (incomplete.symm.trans completed) Bool.false_ne_true
  · exact fun _ _ incomplete =>
      absurd (incomplete.symm.trans completed) Bool.false_ne_true
  · intro _ _
    have shut : (session.marked number Handle.shut).handleAt number |>.completed := by
      rw [completed_marked_shut, completed]
    apply Leads.afterClose
    · exact fun _ => Performed.of_outcome moves rfl (.shut stale) rfl
    · exact fun _ incomplete => absurd (incomplete.symm.trans shut) Bool.false_ne_true
    · exact fun _ incomplete => absurd (incomplete.symm.trans shut) Bool.false_ne_true

theorem closeHandle_performed (keeps : account.Keeps outside.environment)
    (coherent : session.Coherent) {number : Nat} (issued : number < session.handles.length) :
    account.Leaves (outside.environment.closeHandle number) session
      (Performed outside (.closeHandle number) session) := by
  rcases Operation.level_cases session.manager.live number with isRoot | ⟨notRoot, nested⟩ | stale
  · have moves : Operation.move session.manager.live session.manager.disposed
        (.closeHandle number) = .finish .release := by
      rw [Operation.move, if_pos isRoot]
    exact (keeps.closeHandle_root coherent isRoot).mono fun _ _ finish =>
      Performed.of_finish moves rfl coherent finish
  · have moves : Operation.move session.manager.live session.manager.disposed
        (.closeHandle number) = .finish .rollback := by
      rw [Operation.move, if_neg notRoot, if_pos (List.mem_of_mem_tail nested)]
    exact (keeps.closeHandle_nested coherent notRoot nested).mono fun _ _ finish =>
      Performed.of_finish moves rfl coherent finish
  · exact keeps.closeHandle_stale coherent issued stale

end Keeps

/-- From coherent books, every operation on a manager has one of the outcomes
of its move, whichever of the calls it makes fail. -/
theorem act_performed {outside : Outside ω} (keeps : account.Keeps outside.environment)
    (coherent : session.Coherent) {operation : Operation} (acts : operation ≠ .wait) :
    ∃ entries, account.covers session.world entries (outside.step session operation).world ∧
      Performed outside operation session entries (outside.step session operation) := by
  -- a handle that was never given out cannot be called
  have handle : ∀ {operation : Operation} {number : Nat} {action : Action (Session ω) Unit},
      operation.disposes = false → operation.handle = some number →
      (number < session.handles.length →
        account.Leaves action session (Performed outside operation session)) →
      ∃ entries, account.covers session.world entries
          (Outside.stepHandle session number action).world ∧
        Performed outside operation session entries
          (Outside.stepHandle session number action) := by
    intro operation number action keepsManager called performed
    unfold Outside.stepHandle
    split
    · rename_i issued
      exact (performed issued).reached
    · rename_i unissued
      have stale : number ∉ session.manager.live :=
        fun live => unissued (coherent.issued number live)
      have moves : operation.move session.manager.live session.manager.disposed = .stay :=
        Operation.move_of_stale called stale
      exact ⟨[], account.still _,
        Performed.of_beside moves keepsManager .stayed (Beside.refl session)⟩
  cases operation with
  | openConnection => exact keeps.openConnection_performed.reached
  | close => exact keeps.close_performed.reached
  | begin level => exact (keeps.begin_performed coherent level).reached
  | commit => exact (keeps.commit_performed coherent).reached
  | rollback => exact (keeps.rollback_performed coherent).reached
  | dispose => exact (keeps.dispose_performed coherent).reached
  | commitHandle number => exact handle rfl rfl (keeps.commitHandle_performed coherent)
  | rollbackHandle number => exact handle rfl rfl (keeps.rollbackHandle_performed coherent)
  | closeHandle number => exact handle rfl rfl (keeps.closeHandle_performed coherent)
  | work dialect work => exact (keeps.work_performed dialect work).reached
  | wait => exact absurd rfl acts

theorem step_performed {outside : Outside ω} (keeps : account.Keeps outside.environment)
    (elapses : ∀ world, account.covers world [] (outside.elapse world))
    (coherent : session.Coherent) (operation : Operation) :
    ∃ entries, account.covers session.world entries (outside.step session operation).world ∧
      Performed outside operation session entries (outside.step session operation) := by
  by_cases waits : operation = .wait
  · subst waits
    exact ⟨[], elapses session.world,
      Performed.of_beside rfl rfl .stayed ⟨outside.elapse session.world, session.warnings, rfl⟩⟩
  · exact act_performed keeps coherent waits

/-- Every operation that is to finish the unit of work, other than a disposal, takes
one of the courses for it. -/
theorem step_finish {outside : Outside ω} (keeps : account.Keeps outside.environment)
    (coherent : session.Coherent) {operation : Operation} {ending : Ending}
    (moves : operation.move session.manager.live session.manager.disposed = .finish ending)
    (keepsManager : operation.disposes = false) :
    ∃ entries, account.covers session.world entries (outside.step session operation).world ∧
      Finish account outside session ending entries (outside.step session operation) := by
  have handle : ∀ {number : Nat} {action : Action (Session ω) Unit},
      number ∈ session.manager.live →
      account.Leaves action session (Finish account outside session ending) →
      ∃ entries, account.covers session.world entries
          (Outside.stepHandle session number action).world ∧
        Finish account outside session ending entries
          (Outside.stepHandle session number action) := by
    intro number action live finishes
    rw [Outside.stepHandle, if_pos (coherent.issued number live)]
    exact finishes.reached
  cases Operation.finishes_of_move moves keepsManager with
  | commit only => exact (keeps.commit_finish coherent only).reached
  | rollback live => exact (keeps.rollback_finish coherent live).reached
  | commitRoot isRoot =>
      exact handle (List.mem_of_head? isRoot) (keeps.commitHandle_root coherent isRoot)
  | rollbackLive live => exact handle live (keeps.rollbackHandle_live coherent live)
  | closeRoot isRoot =>
      exact handle (List.mem_of_head? isRoot) (keeps.closeHandle_root coherent isRoot)
  | closeNested notRoot nested =>
      exact handle (List.mem_of_mem_tail nested)
        (keeps.closeHandle_nested coherent notRoot nested)

end Account

end EntitySql
