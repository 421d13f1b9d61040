import EntitySql.Proofs.Session.FailedCommit

/-!
# Re-entrant calls

What ends a physical transaction may call the manager back before it returns, any number of times.
A manager that ends the transaction itself has left the active phase by then, and passes over a
commit and refuses a begin in every such phase.  A rollback it passes over only while it rolls back:
one that comes back from a commit or a release ends the unit of work under way.  A handle that ends
the transaction leaves the manager active until it reports, and what comes back before has its
effect.
-/

namespace EntitySql

open Session

variable {σ ω α : Type}

/-- Whether the manager is at the end of a unit of work in the phase. -/
def Phase.isEnding : Phase → Bool
  | .idle | .active => false
  | .committing | .rollingBack | .releasing => true

/-- A call of the manager from within a call that the manager has made. -/
inductive Reentry where
  | commit
  | rollback
  | begin (level : Value)
  deriving Repr

/-- Makes a re-entrant call.  Who makes it takes no notice of how it ends. -/
def Environment.reenter (environment : Environment ω) : Reentry → Action (Session ω) Unit
  | .commit => Action.attempt environment.commit >>= fun _ => pure ()
  | .rollback => Action.attempt environment.rollback >>= fun _ => pure ()
  | .begin level => Action.attempt (environment.begin level) >>= fun _ => pure ()

/-- A call to the world that calls a manager back: the action does to the world what the call does,
in any number of steps, and makes re-entrant calls before, between and after them. -/
inductive CallsBack (inner : Environment ω) (allowed : Reentry → Prop) :
    {α : Type} → Action ω α → Action (Session ω) α → Prop where
  | plain {α : Type} (call : Action ω α) : CallsBack inner allowed call (outward call)
  | reenter {α : Type} {call : Action ω α} {action : Action (Session ω) α} {reentry : Reentry}
      (may : allowed reentry) (rest : CallsBack inner allowed call action) :
      CallsBack inner allowed call (inner.reenter reentry >>= fun _ => action)
  | step {β α : Type} {first : Action ω β} {next : Except Fault β → Action ω α}
      {later : Except Fault β → Action (Session ω) α}
      (rest : ∀ result, CallsBack inner allowed (next result) (later result)) :
      CallsBack inner allowed (Action.attempt first >>= next)
        (Session.outward (Action.attempt first) >>= later)

/-- Re-entrant calls without effect in a phase leave a call in it as it is without them. -/
theorem CallsBack.eq_outward {inner : Environment ω} {allowed : Reentry → Prop} {phase : Phase}
    {call : Action ω α} {action : Action (Session ω) α}
    (callsBack : CallsBack inner allowed call action)
    (passes : ∀ session : Session ω, session.manager.phase = phase → ∀ reentry, allowed reentry →
      inner.reenter reentry session = (.ok (), session))
    {session : Session ω} (inPhase : session.manager.phase = phase) :
    action session = outward call session := by
  induction callsBack generalizing session with
  | plain call => rfl
  | reenter may rest ih =>
      rw [Action.bind_of_ok (passes session inPhase _ may)]
      exact ih inPhase
  | @step _ _ first next later _ ih =>
      rcases ran : first session.world with ⟨result, world⟩
      have attempted : Action.attempt first session.world = (.ok result, world) := by
        rw [Action.attempt, ran]
      have continued : (Action.attempt first >>= next) session.world = next result world :=
        Action.bind_of_ok attempted
      have together : outward (Action.attempt first >>= next) session =
          outward (next result) { session with world } := by
        rw [outward, outward, continued]
      rw [Action.bind_of_ok (outward_eq attempted), together]
      exact ih result inPhase

/-- The calls of an environment are those of the world outside, except that the ones which end a
physical transaction may call the manager back. -/
structure Outside.Interrupted (outside : Outside ω) (inner : Environment ω)
    (allowed : Ending → Reentry → Prop) (environment : Environment ω) : Prop where
  commitResource : ∀ resource, CallsBack inner (allowed .commit) (outside.commitResource resource)
    (environment.commitResource resource)
  rollbackResource : ∀ resource,
    CallsBack inner (allowed .rollback) (outside.rollbackResource resource)
      (environment.rollbackResource resource)
  closeResource : ∀ resource, CallsBack inner (allowed .release) (outside.closeResource resource)
    (environment.closeResource resource)
  otherwise : environment =
    { outside.environment with
      commitResource := environment.commitResource
      rollbackResource := environment.rollbackResource
      closeResource := environment.closeResource }

/-! ## Re-entrant calls by phase -/

namespace Environment

variable {inner environment : Environment ω} {session : Session ω}

theorem refuseIfDisposed_of_disposed (disposed : session.manager.disposed = true) :
    refuseIfDisposed session = (.error (.resource .disposed), session) := by
  rw [refuseIfDisposed, Action.read_bind, disposed]
  rfl

theorem refuseIfDisposed_of_there (there : session.manager.disposed = false) :
    refuseIfDisposed session = (.ok (), session) := by
  rw [refuseIfDisposed, Action.read_bind, there]
  rfl

/-- No transaction can be begun while one is being ended. -/
theorem begin_of_ending (ending : session.manager.phase.isEnding = true) (level : Value) :
    environment.begin level session =
      (.error (.resource
        (if session.manager.disposed then .disposed else .beginDuring session.manager.phase)),
        session) := by
  cases disposed : session.manager.disposed with
  | true => exact Action.bind_of_error (refuseIfDisposed_of_disposed disposed)
  | false =>
      have busy : (session.manager.phase ≠ .idle && session.manager.phase ≠ .active) = true := by
        cases phase : session.manager.phase <;> simp_all [Phase.isEnding]
      rw [begin, Action.bind_of_ok (refuseIfDisposed_of_there disposed), Action.read_bind,
        if_pos busy]
      rfl

/-- A begin adds a level to an active transaction, also while a handle is ending it. -/
theorem begin_of_active (active : session.manager.phase = .active) {root : Nat}
    (outermost : session.manager.live.head? = some root)
    (there : session.manager.disposed = false) (level : Value) :
    environment.begin level session =
      (.ok session.handles.length, session.pushed (session.handleAt root).resource) := by
  obtain ⟨rest, levels⟩ := List.head?_eq_some_iff.mp outermost
  rw [begin, Action.bind_of_ok (refuseIfDisposed_of_there there), Action.read_bind, active,
    if_neg (by decide), levels]
  rfl

/-- A commit above depth one gives up a level, also while a handle ends the transaction. -/
theorem live_commit_of_nested (active : session.manager.phase = .active)
    (nested : 1 < session.manager.live.length) :
    (environment.commit session).2.manager.live = session.manager.live.dropLast := by
  rw [commit, Action.read_bind, active, if_neg (by decide)]
  rcases levels : session.manager.live with _ | ⟨root, _ | ⟨next, rest⟩⟩
  · simp [levels] at nested
  · simp [levels] at nested
  · exact congrArg List.dropLast levels

theorem not_active_of_ending (ending : session.manager.phase.isEnding = true) :
    session.manager.phase ≠ .active := by
  intro active
  rw [active] at ending
  cases ending

/-- The only re-entrant call with an effect at the end of a unit of work is a rollback. -/
theorem reenter_of_ending (ending : session.manager.phase.isEnding = true) {reentry : Reentry}
    (passes : reentry = .rollback → session.manager.phase = .rollingBack) :
    inner.reenter reentry session = (.ok (), session) := by
  have attempted : ∀ {β : Type} {call : Action (Session ω) β} {result : Except Fault β},
      call session = (result, session) →
        (Action.attempt call >>= fun _ => (pure () : Action (Session ω) Unit)) session =
          (.ok (), session) := by
    intro β call result ran
    have answered : Action.attempt call session = (.ok result, session) := by
      rw [Action.attempt, ran]
    exact Action.bind_of_ok answered
  cases reentry with
  | commit => exact attempted (commit_of_inactive (not_active_of_ending ending))
  | rollback => exact attempted (rollback_of_underWay (passes rfl))
  | begin level => exact attempted (begin_of_ending ending level)

end Environment

/-! ## Steps that agree where their calls do -/

namespace HandleSite

variable {site other : HandleSite σ} {notify : Action σ Unit} {state : σ}

theorem commit_congr (views : other.view = site.view) (updates : other.update = site.update)
    (same : other.commitResource state = site.commitResource state) :
    other.commit notify state = site.commit notify state := by
  have completes : other.complete = site.complete := by rw [complete, complete, updates]
  cases usable : (site.view state).isUsable with
  | false => rw [commit_of_unusable usable, commit_of_unusable (by rwa [views])]
  | true =>
      rw [commit_of_usable usable, commit_of_usable (by rwa [views]), views, completes]
      refine Action.bind_congr ?_ fun _ _ _ => rfl
      cases (site.view state).isRoot with
      | false => rfl
      | true => exact same

theorem rollback_congr (views : other.view = site.view) (updates : other.update = site.update)
    (same : other.rollbackResource state = site.rollbackResource state) :
    other.rollback notify state = site.rollback notify state := by
  have completes : other.complete = site.complete := by rw [complete, complete, updates]
  cases usable : (site.view state).isUsable with
  | false => rw [rollback_of_unusable usable, rollback_of_unusable (by rwa [views])]
  | true =>
      rw [rollback_of_usable usable, rollback_of_usable (by rwa [views]), completes]
      exact Action.bind_congr same fun _ _ _ => rfl

theorem close_congr (views : other.view = site.view) (updates : other.update = site.update)
    (same : (site.view state).isRoot = true →
      other.closeResource (site.update Handle.shut state) =
        site.closeResource (site.update Handle.shut state)) :
    other.close notify state = site.close notify state := by
  rw [close, close, views, Action.read_bind, Action.read_bind, updates]
  cases (site.view state).closed with
  | true => rfl
  | false =>
      have marked : Action.change (site.update Handle.shut) state =
          (.ok (), site.update Handle.shut state) := rfl
      refine Eq.trans (Action.bind_of_ok marked) (Eq.trans ?_ (Action.bind_of_ok marked).symm)
      refine Action.bind_congr ?_ fun _ _ _ => rfl
      cases isRoot : (site.view state).isRoot with
      | false => rfl
      | true =>
          cases (site.view state).completed with
          | false => exact same isRoot
          | true => rfl

end HandleSite

/-! ## Interrupted operations -/

namespace Outside.Interrupted

variable {outside : Outside ω} {inner environment : Environment ω}
variable {allowed : Ending → Reentry → Prop} {session : Session ω} {number : Nat}

theorem conclude_eq (interrupted : outside.Interrupted inner allowed environment) :
    environment.conclude = outside.environment.conclude := by
  rw [interrupted.otherwise]
  rfl

theorem closeIfOpen_eq (interrupted : outside.Interrupted inner allowed environment) :
    environment.closeIfOpen = outside.environment.closeIfOpen := by
  rw [interrupted.otherwise]
  rfl

theorem disposeConnection_eq (interrupted : outside.Interrupted inner allowed environment) :
    environment.disposeConnection = outside.environment.disposeConnection := by
  rw [interrupted.otherwise]

theorem commitHandle_eq (interrupted : outside.Interrupted inner allowed environment)
    (noRollback : ¬allowed .commit .rollback) (committing : session.manager.phase = .committing) :
    environment.commitHandle number session = outside.environment.commitHandle number session := by
  have passes : ∀ session : Session ω, session.manager.phase = .committing →
      ∀ reentry, allowed .commit reentry → inner.reenter reentry session = (.ok (), session) :=
    fun session committing reentry may =>
      Environment.reenter_of_ending (by rw [committing]; rfl)
        fun rollback => absurd (rollback ▸ may) noRollback
  have called : (environment.site number).commitResource session =
      (outside.environment.site number).commitResource session :=
    (interrupted.commitResource _).eq_outward passes committing
  have reports : environment.afterCommit number = outside.environment.afterCommit number := by
    rw [interrupted.otherwise]
    rfl
  rw [Environment.commitHandle, reports]
  exact HandleSite.commit_congr rfl rfl called

theorem rollbackHandle_eq (interrupted : outside.Interrupted inner allowed environment)
    (rollingBack : session.manager.phase = .rollingBack) :
    environment.rollbackHandle number session =
      outside.environment.rollbackHandle number session := by
  have passes : ∀ session : Session ω, session.manager.phase = .rollingBack →
      ∀ reentry, allowed .rollback reentry → inner.reenter reentry session = (.ok (), session) :=
    fun session rollingBack reentry _ =>
      Environment.reenter_of_ending (by rw [rollingBack]; rfl) fun _ => rollingBack
  have called : (environment.site number).rollbackResource session =
      (outside.environment.site number).rollbackResource session :=
    (interrupted.rollbackResource _).eq_outward passes rollingBack
  have reports : environment.afterRollback = outside.environment.afterRollback := by
    rw [interrupted.otherwise]
    rfl
  rw [Environment.rollbackHandle, reports]
  exact HandleSite.rollback_congr rfl rfl called

theorem rollback_eq (interrupted : outside.Interrupted inner allowed environment) :
    environment.rollback = outside.environment.rollback := by
  funext session
  by_cases underWay : session.manager.phase = .rollingBack
  · rw [Environment.rollback_of_underWay underWay, Environment.rollback_of_underWay underWay]
  · cases outermost : session.manager.live.head? with
    | none =>
        have noneLive : session.manager.live = [] := List.head?_eq_none_iff.mp outermost
        rw [Environment.rollback_of_idle underWay noneLive,
          Environment.rollback_of_idle underWay noneLive]
    | some root =>
        rw [Environment.rollback_of_root underWay outermost,
          Environment.rollback_of_root underWay outermost, interrupted.conclude_eq]
        exact Action.ensuring_congr (interrupted.rollbackHandle_eq rfl)

theorem afterClose_eq (interrupted : outside.Interrupted inner allowed environment) :
    environment.afterClose number = outside.environment.afterClose number := by
  rw [Environment.afterClose, Environment.afterClose, interrupted.rollback_eq,
    interrupted.conclude_eq]

theorem closeHandle_eq (interrupted : outside.Interrupted inner allowed environment)
    (noRollback : ¬allowed .release .rollback) (releasing : session.manager.phase = .releasing) :
    environment.closeHandle number session = outside.environment.closeHandle number session := by
  have passes : ∀ session : Session ω, session.manager.phase = .releasing →
      ∀ reentry, allowed .release reentry → inner.reenter reentry session = (.ok (), session) :=
    fun session releasing reentry may =>
      Environment.reenter_of_ending (by rw [releasing]; rfl)
        fun rollback => absurd (rollback ▸ may) noRollback
  have called : (environment.site number).closeResource (session.marked number Handle.shut) =
      (outside.environment.site number).closeResource (session.marked number Handle.shut) :=
    (interrupted.closeResource _).eq_outward passes releasing
  rw [Environment.closeHandle, interrupted.afterClose_eq]
  exact HandleSite.close_congr rfl rfl fun _ => called

/-- The close of a nested handle releases nothing itself, and may roll back. -/
theorem closeHandle_nested_eq (interrupted : outside.Interrupted inner allowed environment)
    (nested : (session.handleAt number).isRoot = false) :
    environment.closeHandle number session = outside.environment.closeHandle number session := by
  rw [Environment.closeHandle, interrupted.afterClose_eq]
  refine HandleSite.close_congr rfl rfl fun isRoot => ?_
  have isRoot : (session.handleAt number).isRoot = true := isRoot
  rw [nested] at isRoot
  cases isRoot

theorem commit_eq (interrupted : outside.Interrupted inner allowed environment)
    (noRollback : ¬allowed .commit .rollback) :
    environment.commit = outside.environment.commit := by
  funext session
  by_cases active : session.manager.phase = .active
  · rcases levels : session.manager.live with _ | ⟨root, _ | ⟨nested, rest⟩⟩
    · rw [Environment.commit, Environment.commit, Action.read_bind, Action.read_bind,
        if_neg (by simpa using active), if_neg (by simpa using active), levels]
    · rw [Environment.commit_of_one active levels, Environment.commit_of_one active levels,
        interrupted.conclude_eq]
      refine Action.bind_congr ?_ fun _ _ _ => rfl
      exact Action.onFailure_congr (interrupted.commitHandle_eq noRollback rfl)
    · rw [Environment.commit, Environment.commit, Action.read_bind, Action.read_bind,
        if_neg (by simpa using active), if_neg (by simpa using active), levels]
  · rw [Environment.commit_of_inactive active, Environment.commit_of_inactive active]

theorem dispose_eq (interrupted : outside.Interrupted inner allowed environment)
    (noRollback : ¬allowed .release .rollback) :
    environment.dispose = outside.environment.dispose := by
  funext session
  rw [Environment.dispose, Environment.dispose, Action.read_bind, Action.read_bind,
    interrupted.closeIfOpen_eq, interrupted.disposeConnection_eq, interrupted.conclude_eq]
  cases session.manager.disposed with
  | true => rw [if_pos rfl, if_pos rfl]
  | false =>
      rw [if_neg Bool.false_ne_true, if_neg Bool.false_ne_true]
      refine Action.ensuring_congr ?_
      cases session.manager.live with
      | nil => rfl
      | cons root rest =>
          have moved : moveTo .releasing session = (.ok (), session.inPhase .releasing) := rfl
          refine Action.bind_congr rfl fun _ released ran => ?_
          obtain rfl : session.inPhase .releasing = released :=
            (Prod.mk.inj (moved.symm.trans ran)).2
          refine Action.bind_congr ?_ fun _ _ _ => rfl
          exact Action.ensuring_congr (interrupted.closeHandle_eq noRollback rfl)

end Outside.Interrupted

namespace Outside

/-- A rollback in any phase but the one in which it is under way ends the unit of work. -/
theorem rollback_idles {outside : Outside ω} {session : Session ω}
    (notUnderWay : session.manager.phase ≠ .rollingBack) (live : session.manager.live ≠ [])
    (there : session.manager.disposed = false) :
    (outside.environment.rollback session).2.manager.phase = .idle ∧
      (outside.environment.rollback session).2.manager.live = [] := by
  obtain ⟨root, rest, levels⟩ := List.exists_cons_of_ne_nil live
  have concluded : ∀ {before : ω} {entries : List Entry} {given : Bool} {reached : Session ω},
      session.Concludes outside before entries given reached →
        reached.manager.phase = .idle ∧ reached.manager.live = [] := by
    intro before entries given reached concludes
    rw [concludes.concluded.manager_eq]
    exact ⟨rfl, rfl⟩
  have leaves : Account.silent.Leaves outside.environment.rollback session fun _ reached =>
      reached.manager.phase = .idle ∧ reached.manager.live = [] := by
    apply (Account.silent_keeps outside).rollback levels notUnderWay there
    · exact fun _ _ _ _ concludes => concluded concludes
    · exact fun _ _ _ _ _ _ _ concludes => concluded concludes
  obtain ⟨_, _, idle⟩ := leaves.reached
  exact idle

/-- Whatever calls come back from the commits, rollbacks and releases of physical transactions, the
manager rolls back, and closes a nested handle, as it would without them, and it commits and disposes
of itself so if no rollback comes back from the commit or the release.  At the end of a unit of work
a commit that comes back is passed over and a begin refused, in every session, and so is a rollback
during a rollback.  Any other rollback ends the unit of work.  While the manager is active, as it
still is when a handle ends the transaction, a begin that comes back adds a level, and a commit
gives one up if there are several. -/
theorem reentrant_calls_pass (outside : Outside ω) (inner environment : Environment ω)
    (allowed : Ending → Reentry → Prop)
    (interrupted : outside.Interrupted inner allowed environment) :
    environment.rollback = outside.environment.rollback ∧
      (∀ number session, (handleAt session number).isRoot = false →
        environment.closeHandle number session = outside.environment.closeHandle number session) ∧
      (¬allowed .commit .rollback → environment.commit = outside.environment.commit) ∧
      (¬allowed .release .rollback → environment.dispose = outside.environment.dispose) ∧
      (∀ session : Session ω, session.manager.phase.isEnding = true →
        inner.commit session = (.ok (), session) ∧
        (∀ level, inner.begin level session =
          (.error (.resource
            (if session.manager.disposed then .disposed
              else .beginDuring session.manager.phase)), session)) ∧
        (session.manager.phase = .rollingBack → inner.rollback session = (.ok (), session))) ∧
      ∀ (session : Session ω) (root : Nat), session.manager.live.head? = some root →
        session.manager.disposed = false →
        (session.manager.phase ≠ .rollingBack →
          (outside.environment.rollback session).2.manager.phase = .idle ∧
          (outside.environment.rollback session).2.manager.live = []) ∧
        (session.manager.phase = .active →
          (∀ level, inner.begin level session =
            (.ok session.handles.length, session.pushed (session.handleAt root).resource)) ∧
          (1 < session.manager.live.length →
            (inner.commit session).2.manager.live = session.manager.live.dropLast)) := by
  refine ⟨interrupted.rollback_eq, fun _ _ nested => interrupted.closeHandle_nested_eq nested,
    interrupted.commit_eq, interrupted.dispose_eq, fun session ending => ?_,
    fun session root outermost there => ⟨fun notUnderWay => ?_, fun active => ?_⟩⟩
  · have inactive : session.manager.phase ≠ .active := Environment.not_active_of_ending ending
    exact ⟨Environment.commit_of_inactive inactive, Environment.begin_of_ending ending,
      Environment.rollback_of_underWay⟩
  · exact rollback_idles notUnderWay (List.ne_nil_of_mem (List.mem_of_head? outermost)) there
  · exact ⟨Environment.begin_of_active active outermost there,
      Environment.live_commit_of_nested active⟩

/-! ## Calls that come back at once -/

/-- Re-entrant calls one after the other before a step. -/
def callingBack (inner : Environment ω) (calls : List Reentry) (action : Action (Session ω) α) :
    Action (Session ω) α :=
  calls.foldr (fun reentry rest => inner.reenter reentry >>= fun _ => rest) action

theorem callsBack_callingBack {inner : Environment ω} {allowed : Reentry → Prop}
    (call : Action ω α) {calls : List Reentry} (may : ∀ reentry ∈ calls, allowed reentry) :
    CallsBack inner allowed call (callingBack inner calls (outward call)) := by
  induction calls with
  | nil => exact .plain call
  | cons reentry rest ih =>
      rw [List.forall_mem_cons] at may
      exact .reenter may.1 (ih may.2)

/-- The world outside, except that every commit, rollback and release of a physical transaction
first makes some calls of a manager. -/
def interrupting (outside : Outside ω) (inner : Environment ω) (calls : Ending → List Reentry) :
    Environment ω :=
  { outside.environment with
    commitResource := fun resource =>
      callingBack inner (calls .commit) (outward (outside.commitResource resource))
    rollbackResource := fun resource =>
      callingBack inner (calls .rollback) (outward (outside.rollbackResource resource))
    closeResource := fun resource =>
      callingBack inner (calls .release) (outward (outside.closeResource resource)) }

theorem interrupted_interrupting (outside : Outside ω) (inner : Environment ω)
    (calls : Ending → List Reentry) :
    outside.Interrupted inner (fun ending reentry => reentry ∈ calls ending)
      (outside.interrupting inner calls) where
  commitResource _ := callsBack_callingBack _ fun _ member => member
  rollbackResource _ := callsBack_callingBack _ fun _ member => member
  closeResource _ := callsBack_callingBack _ fun _ member => member
  otherwise := rfl

/-- A commit and a begin that come back from a commit leave no trace. -/
theorem recommitted_once :
    let plain := obliging.journaled.environment
    let environment := obliging.journaled.interrupting plain fun _ => [.commit, .begin .null]
    let session := obliging.journaledAfter .closed [.begin .null]
    environment.commit session = plain.commit session ∧
      (environment.commit session).2.world.journal =
        [.opened true, .begun 0, .ended .commit 0 true, .closed true] := by
  intro plain environment session
  have interrupted := interrupted_interrupting obliging.journaled plain
    fun _ => [.commit, .begin .null]
  obtain ⟨_, _, commits, _⟩ := reentrant_calls_pass obliging.journaled plain environment _ interrupted
  have same : environment.commit session = plain.commit session :=
    congrFun (commits (by simp)) session
  rw [same]
  exact ⟨rfl, rfl⟩

/-- A rollback that comes back from a commit rolls the physical transaction back, and closes the
connection, before it is committed.  A commit that comes back from a commit of the outermost handle
commits it a first time. -/
theorem rolled_back_during_commit :
    let plain := obliging.journaled.environment
    let interrupted := fun call : Reentry => obliging.journaled.interrupting plain fun _ => [call]
    let session := obliging.journaledAfter .closed [.begin .null]
    (plain.commit session).2.world.journal =
        [.opened true, .begun 0, .ended .commit 0 true, .closed true] ∧
      ((interrupted .rollback).commit session).2.world.journal =
        [.opened true, .begun 0, .ended .rollback 0 true, .closed true, .ended .commit 0 true] ∧
      (plain.commitHandle 0 session).2.world.journal =
        [.opened true, .begun 0, .ended .commit 0 true, .closed true] ∧
      ((interrupted .commit).commitHandle 0 session).2.world.journal =
        [.opened true, .begun 0, .ended .commit 0 true, .closed true, .ended .commit 0 true] :=
  ⟨rfl, rfl, rfl, rfl⟩

end Outside

end EntitySql
