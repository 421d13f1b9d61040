import EntitySql.Proofs.Action
import EntitySql.Proofs.Session.Rollback
import EntitySql.Proofs.Session.Stale
import EntitySql.Proofs.Session.Trail

/-!
# After a failed commit

A handle marks itself only after its call to the physical transaction, and the manager leaves the
committing phase again when this call fails.  So a failed commit changes no more than the failed
call did.  The unit of work goes on, and the next commit or rollback finds its handles usable.
-/

namespace EntitySql

open Session

variable {σ ω : Type}

/-! ## Usable handles -/

namespace HandleSite

variable {site : HandleSite σ} {notify : Action σ Unit} {state : σ}

theorem requireUsable_of_usable (usable : (site.view state).isUsable = true) :
    site.requireUsable state = (.ok (), state) := by
  rw [requireUsable, Action.read_bind, usable]
  rfl

theorem commit_of_usable (usable : (site.view state).isUsable = true) :
    site.commit notify state =
      (Action.whenever (site.view state).isRoot site.commitResource >>= fun _ =>
        site.complete >>= fun _ => notify) state := by
  rw [commit, Action.bind_of_ok (requireUsable_of_usable usable), Action.read_bind]

theorem rollback_of_usable (usable : (site.view state).isUsable = true) :
    site.rollback notify state =
      (site.rollbackResource >>= fun _ => site.complete >>= fun _ => notify) state :=
  Action.bind_of_ok (requireUsable_of_usable usable)

end HandleSite

namespace Session

theorem outward_eq {α : Type} {call : Action ω α} {session : Session ω} {result : Except Fault α}
    {world : ω} (ran : call session.world = (result, world)) :
    outward call session = (result, { session with world }) := by
  rw [outward, ran]

/-- The session with its manager in a phase. -/
def inPhase (phase : Phase) (session : Session ω) : Session ω :=
  { session with manager := { session.manager with phase } }

theorem inPhase_of_phase {session : Session ω} {phase : Phase}
    (already : session.manager.phase = phase) : session.inPhase phase = session := by
  rw [inPhase, ← already]

theorem Concluded.of_inPhase {session reached : Session ω} {phase : Phase} {world : ω}
    (concluded : (inPhase phase { session with world }).Concluded reached) :
    session.Concluded reached :=
  concluded.of_books rfl rfl

/-- While the outermost handle is not closed, every handle in use may end its level. -/
theorem Coherent.usable {session : Session ω} (coherent : session.Coherent)
    (inUse : ¬session.RootShut) {number : Nat} (live : number ∈ session.manager.live) :
    (session.handleAt number).isUsable = true := by
  have closed : (session.handleAt number).closed = false := by
    obtain ⟨root, rest, levels⟩ := List.exists_cons_of_ne_nil (List.ne_nil_of_mem live)
    rw [levels] at live
    cases live with
    | head =>
        cases mark : (session.handleAt number).closed with
        | false => rfl
        | true => exact absurd ⟨_, outermost_root (by rw [levels]; rfl), mark⟩ inUse
    | tail _ nested => exact coherent.nested_open number (by rwa [levels])
  simp [Handle.isUsable, coherent.incomplete live, closed]

end Session

namespace Outside

variable {outside : Outside ω} {session : Session ω} {number : Nat} {world : ω} {fault : Fault}

/-! ## Handles at work -/

theorem commitHandle_of_usable (usable : (session.handleAt number).isUsable = true)
    (isRoot : (session.handleAt number).isRoot = true) :
    outside.environment.commitHandle number session =
      ((outside.environment.site number).commitResource >>= fun _ =>
        (outside.environment.site number).complete >>= fun _ =>
          outside.environment.afterCommit number) session := by
  have root : ((outside.environment.site number).view session).isRoot = true := isRoot
  rw [Environment.commitHandle, HandleSite.commit_of_usable usable, root]
  rfl

theorem commitHandle_of_error (usable : (session.handleAt number).isUsable = true)
    (isRoot : (session.handleAt number).isRoot = true)
    (failed : outside.commitResource (session.handleAt number).resource session.world =
      (.error fault, world)) :
    outside.environment.commitHandle number session = (.error fault, { session with world }) :=
  (commitHandle_of_usable usable isRoot).trans (Action.bind_of_error (outward_eq failed))

theorem commitHandle_of_ok (usable : (session.handleAt number).isUsable = true)
    (isRoot : (session.handleAt number).isRoot = true)
    (committed : outside.commitResource (session.handleAt number).resource session.world =
      (.ok (), world)) :
    outside.environment.commitHandle number session =
      outside.environment.afterCommit number
        (marked number Handle.complete { session with world }) :=
  (commitHandle_of_usable usable isRoot).trans (Action.bind_of_ok (outward_eq committed))

theorem rollbackHandle_of_error (usable : (session.handleAt number).isUsable = true)
    (failed : outside.rollbackResource (session.handleAt number).resource session.world =
      (.error fault, world)) :
    outside.environment.rollbackHandle number session = (.error fault, { session with world }) :=
  (HandleSite.rollback_of_usable usable).trans (Action.bind_of_error (outward_eq failed))

theorem rollbackHandle_of_ok (usable : (session.handleAt number).isUsable = true)
    (rolledBack : outside.rollbackResource (session.handleAt number).resource session.world =
      (.ok (), world)) :
    outside.environment.rollbackHandle number session =
      outside.environment.afterRollback
        (marked number Handle.complete { session with world }) :=
  (HandleSite.rollback_of_usable usable).trans (Action.bind_of_ok (outward_eq rolledBack))

end Outside

namespace Environment

variable {environment : Environment ω} {session : Session ω} {number root : Nat}

/-! ### Commit and rollback by phase and levels -/

theorem commit_of_inactive (inactive : session.manager.phase ≠ .active) :
    environment.commit session = (.ok (), session) := by
  rw [commit, Action.read_bind, if_pos inactive]
  rfl

theorem commit_of_one (active : session.manager.phase = .active)
    (levels : session.manager.live = [root]) :
    environment.commit session =
      (Action.onFailure (environment.commitHandle root) (moveTo .active) >>= fun _ =>
        environment.conclude) (session.inPhase .committing) := by
  rw [commit, Action.read_bind, active, if_neg (by decide), levels]
  rfl

theorem rollback_of_underWay (underWay : session.manager.phase = .rollingBack) :
    environment.rollback session = (.ok (), session) := by
  rw [rollback, Action.read_bind, if_pos underWay]
  rfl

theorem rollback_of_idle (notUnderWay : session.manager.phase ≠ .rollingBack)
    (noneLive : session.manager.live = []) :
    environment.rollback session = (.error (.resource .nothingToRollBack), session) := by
  rw [rollback, Action.read_bind, if_neg notUnderWay, noneLive]
  rfl

theorem rollback_of_root (notUnderWay : session.manager.phase ≠ .rollingBack)
    (outermost : session.manager.live.head? = some root) :
    environment.rollback session =
      Action.ensuring (environment.rollbackHandle root) environment.conclude
        (session.inPhase .rollingBack) := by
  obtain ⟨rest, levels⟩ := List.head?_eq_some_iff.mp outermost
  rw [rollback, Action.read_bind, if_neg notUnderWay, levels]
  rfl

/-! ### What the manager does when a handle reports -/

theorem afterCommit_of_inactive (inactive : session.manager.phase ≠ .active) :
    environment.afterCommit number session = (.ok (), session) := by
  rw [afterCommit, Action.read_bind, if_pos (by simpa using inactive)]
  rfl

theorem afterCommit_of_root (active : session.manager.phase = .active)
    (isRoot : (session.handleAt number).isRoot = true) :
    environment.afterCommit number session = environment.conclude session := by
  rw [afterCommit, Action.read_bind, active, if_neg (by decide), Action.read_bind,
    isRoot, if_pos rfl]

theorem afterRollback_of_inactive (inactive : session.manager.phase ≠ .active) :
    environment.afterRollback session = (.ok (), session) := by
  rw [afterRollback, Action.read_bind, if_pos (by simpa using inactive)]
  rfl

theorem afterRollback_of_active (active : session.manager.phase = .active) :
    environment.afterRollback session = environment.conclude (session.inPhase .rollingBack) := by
  rw [afterRollback, Action.read_bind, active, if_neg (by decide)]
  rfl

end Environment

/-! ## The end of a unit of work -/

/-- A run has ended the unit of work of a session, from the world on in which the physical
transaction was ended: the books are concluded and the connection is given back if the unit of
work had taken it.  The run answers exactly if the connection could be given back. -/
inductive Outside.EndsUnit (outside : Outside ω) (session : Session ω) (world : ω) :
    Except Fault Unit × Session ω → Prop where
  | given {entries : List Entry} {reached : Session ω}
      (calls : outside.Trail world entries reached.world)
      (concludes : session.Concludes outside world entries true reached) :
      EndsUnit outside session world (.ok (), reached)
  | notGiven {entries : List Entry} {fault : Fault} {reached : Session ω}
      (calls : outside.Trail world entries reached.world)
      (concludes : session.Concludes outside world entries false reached) :
      EndsUnit outside session world (.error fault, reached)

namespace Outside

variable {outside : Outside ω} {session : Session ω} {number root : Nat} {world : ω}
variable {fault : Fault}

theorem conclude_endsUnit (middle : Session ω) (there : middle.manager.disposed = false)
    (owns_eq : middle.manager.ownsConnection = session.manager.ownsConnection)
    (passes : ∀ reached, middle.Concluded reached → session.Concluded reached) :
    outside.EndsUnit session middle.world (outside.environment.conclude middle) := by
  have leads : (Account.trail outside).Leads outside.environment.conclude middle
      (fun entries _ reached => middle.Concludes outside middle.world entries true reached)
      (fun entries _ reached => middle.Concludes outside middle.world entries false reached) :=
    (Account.trail_keeps outside).conclude there (fun _ _ concludes => concludes)
      (fun _ _ _ concludes => concludes)
  rcases leads.ends with ⟨entries, _, reached, ran, calls, concludes⟩ |
    ⟨entries, fault, reached, ran, calls, concludes⟩
  · rw [ran]
    exact .given calls (concludes.of_concluded owns_eq (passes reached))
  · rw [ran]
    exact .notGiven calls (concludes.of_concluded owns_eq (passes reached))

/-- Concluding ends the unit of work once a live handle is complete, in whatever phase. -/
theorem conclude_completed_endsUnit (coherent : session.Coherent)
    (live : number ∈ session.manager.live) (phase : Phase) :
    outside.EndsUnit session world (outside.environment.conclude
      (marked number Handle.complete (inPhase phase { session with world }))) :=
  conclude_endsUnit (marked number Handle.complete (inPhase phase { session with world }))
    (coherent.there (List.ne_nil_of_mem live)) rfl
    fun _ concluded => (concluded.of_complete live).of_inPhase

/-! ## Commits -/

theorem commit_of_error (coherent : session.Coherent) (levels : session.manager.live = [root])
    (inUse : ¬session.RootShut)
    (failed : outside.commitResource (session.handleAt root).resource session.world =
      (.error fault, world)) :
    outside.environment.commit session = (.error fault, { session with world }) := by
  have live : root ∈ session.manager.live := by simp [levels]
  have active : session.manager.phase = .active := coherent.active (by simp [levels])
  have isRoot : (session.handleAt root).isRoot = true := coherent.root_isRoot (by simp [levels])
  have refused : outside.environment.commitHandle root (session.inPhase .committing) =
      (.error fault, inPhase .committing { session with world }) :=
    commitHandle_of_error (coherent.usable inUse live) isRoot failed
  have back : inPhase .active { session with world } = { session with world } :=
    inPhase_of_phase active
  have restored : moveTo .active (inPhase .committing { session with world }) =
      (.ok (), { session with world }) :=
    congrArg (Prod.mk _) back
  rw [Environment.commit_of_one active levels]
  exact Action.bind_of_error (Action.onFailure_of_error refused restored)

theorem commit_endsUnit (coherent : session.Coherent) (levels : session.manager.live = [root])
    (inUse : ¬session.RootShut)
    (committed : outside.commitResource (session.handleAt root).resource session.world =
      (.ok (), world)) :
    outside.EndsUnit session world (outside.environment.commit session) := by
  have live : root ∈ session.manager.live := by simp [levels]
  have active : session.manager.phase = .active := coherent.active (by simp [levels])
  have isRoot : (session.handleAt root).isRoot = true := coherent.root_isRoot (by simp [levels])
  have usable : ((session.inPhase .committing).handleAt root).isUsable = true :=
    coherent.usable inUse live
  -- the manager has left the active phase, so it passes over what the handle reports
  have inactive : Phase.committing ≠ .active := by decide
  have ran : outside.environment.commitHandle root (session.inPhase .committing) =
      (.ok (), marked root Handle.complete (inPhase .committing { session with world })) :=
    (commitHandle_of_ok usable isRoot committed).trans
      (Environment.afterCommit_of_inactive inactive)
  rw [Environment.commit_of_one active levels, Action.bind_of_ok (Action.onFailure_of_ok ran)]
  exact conclude_completed_endsUnit coherent live .committing

theorem commitHandle_endsUnit (coherent : session.Coherent)
    (outermost : session.manager.live.head? = some root) (inUse : ¬session.RootShut)
    (committed : outside.commitResource (session.handleAt root).resource session.world =
      (.ok (), world)) :
    outside.EndsUnit session world (outside.environment.commitHandle root session) := by
  have live : root ∈ session.manager.live := List.mem_of_head? outermost
  have isRoot : (session.handleAt root).isRoot = true := coherent.root_isRoot outermost
  let middle := marked root Handle.complete { session with world }
  have active : middle.manager.phase = .active := coherent.active (List.ne_nil_of_mem live)
  have stillRoot : (middle.handleAt root).isRoot = true :=
    (isRoot_marked_complete root root _).trans isRoot
  rw [commitHandle_of_ok (coherent.usable inUse live) isRoot committed,
    Environment.afterCommit_of_root active stillRoot]
  exact conclude_completed_endsUnit coherent live session.manager.phase

/-! ## Rollbacks -/

theorem rollbackHandle_endsUnit (coherent : session.Coherent) (inUse : ¬session.RootShut)
    (live : number ∈ session.manager.live)
    (rolledBack : outside.rollbackResource (session.handleAt number).resource session.world =
      (.ok (), world)) :
    outside.EndsUnit session world (outside.environment.rollbackHandle number session) := by
  let middle := marked number Handle.complete { session with world }
  have active : middle.manager.phase = .active := coherent.active (List.ne_nil_of_mem live)
  rw [rollbackHandle_of_ok (coherent.usable inUse live) rolledBack,
    Environment.afterRollback_of_active active]
  exact conclude_completed_endsUnit coherent live .rollingBack

/-- A rollback of the manager ends the unit of work even if the physical rollback fails. -/
theorem rollback_endsUnit (coherent : session.Coherent)
    (outermost : session.manager.live.head? = some root) (inUse : ¬session.RootShut)
    {result : Except Fault Unit}
    (called : outside.rollbackResource (session.handleAt root).resource session.world =
      (result, world)) :
    ∃ ended, outside.EndsUnit session world ended ∧
      outside.environment.rollback session = (ended.1 >>= fun _ => result, ended.2) := by
  have live : root ∈ session.manager.live := List.mem_of_head? outermost
  have there : session.manager.disposed = false := coherent.there (List.ne_nil_of_mem live)
  have notUnderWay : session.manager.phase ≠ .rollingBack := by
    rw [coherent.active (List.ne_nil_of_mem live)]
    decide
  have usable : ((session.inPhase .rollingBack).handleAt root).isUsable = true :=
    coherent.usable inUse live
  let entered := inPhase .rollingBack { session with world }
  rw [Environment.rollback_of_root notUnderWay outermost]
  cases result with
  | error fault =>
      have ran : outside.environment.rollbackHandle root (session.inPhase .rollingBack) =
          (.error fault, entered) := rollbackHandle_of_error usable called
      exact ⟨_, conclude_endsUnit entered there rfl fun _ concluded => concluded.of_inPhase,
        Action.ensuring_eq ran⟩
  | ok _ =>
      have inactive : Phase.rollingBack ≠ .active := by decide
      have ran : outside.environment.rollbackHandle root (session.inPhase .rollingBack) =
          (.ok (), entered.marked root Handle.complete) :=
        (rollbackHandle_of_ok usable called).trans
          (Environment.afterRollback_of_inactive inactive)
      exact ⟨_, conclude_completed_endsUnit coherent live .rollingBack, Action.ensuring_eq ran⟩

/-- The unit of work of a session can be ended.  A commit reaches its physical transaction and ends
it if this can be committed, a rollback of the manager reaches it and ends it in any case, and a
rollback of a live handle reaches it and ends it unless the physical rollback fails, which leaves
all but the world as it was. -/
structure Endable (outside : Outside ω) (resource : Nat) (session : Session ω) : Prop where
  commit : ∀ next, session.manager.live.length = 1 →
    outside.commitResource resource session.world = (.ok (), next) →
      outside.EndsUnit session next (outside.environment.commit session)
  commitHandle : ∀ next root, session.manager.live.head? = some root →
    outside.commitResource resource session.world = (.ok (), next) →
      outside.EndsUnit session next (outside.environment.commitHandle root session)
  rollback : ∀ result next, outside.rollbackResource resource session.world = (result, next) →
    ∃ ended, outside.EndsUnit session next ended ∧
      outside.environment.rollback session = (ended.1 >>= fun _ => result, ended.2)
  rollbackHandle : ∀ next, ∀ number ∈ session.manager.live,
    outside.rollbackResource resource session.world = (.ok (), next) →
      outside.EndsUnit session next (outside.environment.rollbackHandle number session)
  rollbackHandle_failed : ∀ fault next, ∀ number ∈ session.manager.live,
    outside.rollbackResource resource session.world = (.error fault, next) →
      outside.environment.rollbackHandle number session =
        (.error fault, { session with world := next })

theorem endable (coherent : session.Coherent) (inUse : ¬session.RootShut) {resource : Nat}
    (current : session.currentResource = some resource) : outside.Endable resource session := by
  refine ⟨?commit, ?commitHandle, ?rollback, ?rollbackHandle, ?rollbackHandle_failed⟩
  case commit =>
    intro next one committed
    obtain ⟨root, levels⟩ := List.length_eq_one_iff.mp one
    rw [← coherent.resource_eq current (by simp [levels] : root ∈ session.manager.live)] at committed
    exact commit_endsUnit coherent levels inUse committed
  case commitHandle =>
    intro next root outermost committed
    rw [← coherent.resource_eq current (List.mem_of_head? outermost)] at committed
    exact commitHandle_endsUnit coherent outermost inUse committed
  case rollback =>
    intro result next called
    obtain ⟨root, outermost, same⟩ := Option.map_eq_some_iff.mp current
    rw [← same] at called
    exact rollback_endsUnit coherent outermost inUse called
  case rollbackHandle =>
    intro next number live rolledBack
    rw [← coherent.resource_eq current live] at rolledBack
    exact rollbackHandle_endsUnit coherent inUse live rolledBack
  case rollbackHandle_failed =>
    intro fault next number live failed
    rw [← coherent.resource_eq current live] at failed
    exact rollbackHandle_of_error (coherent.usable inUse live) failed

/-! ## Failed commits in a run -/

/-- In any session of a run in which the physical transaction of the unit of work has not failed to
be released, a commit of the manager or of the outermost handle that fails to commit it changes
nothing but what the failed call did to the world.  The unit of work can still be ended, whatever
then becomes of the world. -/
theorem failed_commit_changes_nothing (outside : Outside ω) (world : ω)
    (operations : List Operation) (resource : Nat) (fault : Fault) (failed : Journaled ω) :
    let session := outside.journaledAfter world operations
    let environment := outside.journaled.environment
    session.currentResource = some resource →
      Entry.ended .release resource false ∉ outside.journalOf world operations →
        outside.journaled.commitResource resource session.world = (.error fault, failed) →
          (session.manager.live.length = 1 →
            environment.commit session = (.error fault, { session with world := failed })) ∧
          (∀ root, session.manager.live.head? = some root →
            environment.commitHandle root session =
              (.error fault, { session with world := failed })) ∧
          ∀ later, outside.journaled.Endable resource { session with world := later } := by
  intro session environment current released failing
  have coherent : session.Coherent := (outside.journaled_numbered world operations).1
  have inUse : ¬session.RootShut := by
    rw [outside.run_rootShut_iff]
    rintro ⟨other, same, member⟩
    obtain rfl : resource = other := Option.some.inj (current.symm.trans same)
    exact released member
  refine ⟨fun one => ?_, fun root outermost => ?_, fun later => ?_⟩
  · obtain ⟨root, levels⟩ := List.length_eq_one_iff.mp one
    rw [← coherent.resource_eq current (by simp [levels] : root ∈ session.manager.live)] at failing
    exact commit_of_error coherent levels inUse failing
  · have live : root ∈ session.manager.live := List.mem_of_head? outermost
    rw [← coherent.resource_eq current live] at failing
    exact commitHandle_of_error (coherent.usable inUse live) (coherent.root_isRoot outermost) failing
  · have beside : session.Beside { session with world := later } := ⟨later, _, rfl⟩
    exact endable (coherent.beside beside) inUse current

/-- With a nested level, the commit of the outermost handle fails and the manager still rolls back. -/
theorem unyielding_commit_changes_nothing :
    let session := unyielding.journaledAfter .closed [.begin .null, .begin .null]
    let broken : Journaled ConnectionState :=
      { world := .broken, names := [0]
        journal := [.opened true, .begun 0, .ended .commit 0 false] }
    session.manager.live = [0, 1] ∧
      unyielding.journaled.environment.commitHandle 0 session =
        (.error (.collaborator "commit failed"), { session with world := broken }) ∧
      unyielding.journaled.Endable 0 { session with world := broken } := by
  intro session broken
  have journal : unyielding.journalOf .closed [.begin .null, .begin .null] =
      [.opened true, .begun 0] := rfl
  obtain ⟨_, handle, later⟩ := failed_commit_changes_nothing unyielding .closed
    [.begin .null, .begin .null] 0 (.collaborator "commit failed") broken rfl
    (by simp [journal]) rfl
  exact ⟨rfl, handle 0 rfl, later broken⟩

/-- A failed commit may break the connection, and a rollback of a live handle that fails does not end
the unit of work. -/
theorem unyielding_transaction_goes_on :
    let environment := unyielding.environment
    let session := unyielding.after (fresh .closed) [.begin .null]
    let committed := environment.commit session
    let rolledBack := environment.rollbackHandle 0 committed.2
    session.world = .opened ∧ committed.1 = .error (.collaborator "commit failed") ∧
      committed.2.world = .broken ∧ rolledBack.1 = .error (.collaborator "rollback failed") ∧
      rolledBack.2.manager.phase = .active ∧ rolledBack.2.manager.live = [0] := by
  exact ⟨rfl, rfl, rfl, rfl, rfl, rfl⟩

end Outside

end EntitySql
