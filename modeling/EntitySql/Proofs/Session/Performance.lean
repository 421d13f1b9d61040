import EntitySql.Proofs.Session.Course

/-!
# What the operations of a manager come to

Function by function, this file shows that an operation of a manager that is
carried out from coherent books takes one of the courses open to it, and so
has one of the outcomes of its move, whichever of the calls it makes fail.
-/

namespace EntitySql

open Session

variable {ω : Type}

/-- The operation has had one of the outcomes of its move, and the manager is
disposed exactly if it was before or the operation disposes it. -/
structure Performed (outside : Outside ω) (operation : Operation) (session : Session ω)
    (entries : List Entry) (reached : Session ω) : Prop where
  outcome : Outcome outside session
    (operation.move session.manager.live session.manager.disposed) entries reached
  disposed_eq : reached.manager.disposed = (session.manager.disposed || operation.disposes)

namespace Performed

variable {outside : Outside ω} {operation : Operation} {session reached : Session ω}
variable {entries : List Entry} {move : Move}

theorem of_outcome (moves : operation.move session.manager.live session.manager.disposed = move)
    (keepsManager : operation.disposes = false)
    (outcome : Outcome outside session move entries reached)
    (same : reached.manager.disposed = session.manager.disposed) :
    Performed outside operation session entries reached where
  outcome := by rwa [moves]
  disposed_eq := by rw [same, keepsManager, Bool.or_false]

theorem of_beside (moves : operation.move session.manager.live session.manager.disposed = move)
    (keepsManager : operation.disposes = false)
    (outcome : session.Beside reached → Outcome outside session move entries reached)
    (beside : session.Beside reached) : Performed outside operation session entries reached :=
  of_outcome moves keepsManager (outcome beside) (congrArg Manager.disposed beside.manager_eq)

theorem of_finish {account : Account ω} {ending : Ending}
    (moves : operation.move session.manager.live session.manager.disposed = .finish ending)
    (keepsManager : operation.disposes = false) (coherent : session.Coherent)
    (finish : Finish account outside session ending entries reached) :
    Performed outside operation session entries reached :=
  of_outcome moves keepsManager (finish.outcome coherent) finish.disposed_eq

end Performed

namespace Account

variable {account : Account ω} {environment : Environment ω} {session : Session ω}

/-- Raising warnings leaves the books alone and makes no call. -/
theorem Leads.warnAll {returns : List Entry → Unit → Session ω → Prop}
    {fails : List Entry → Fault → Session ω → Prop} (warnings : List Warning)
    (raised : ∀ raised, returns [] () { session with warnings := raised }) :
    account.Leads (Environment.warnAll warnings) session returns fails := by
  induction warnings generalizing session with
  | nil => exact Leads.answer (raised session.warnings)
  | cons warning rest ih => exact Leads.change_bind rfl (ih raised)

namespace Keeps

variable {outside : Outside ω}

/-! ## The connection -/

theorem openConnection_performed (keeps : account.Keeps outside.environment) :
    account.Leaves outside.environment.openIfNeeded session
      (Performed outside .openConnection session) := by
  have asked : ∀ {entries : List Entry} {reached : Session ω},
      Visit outside session entries → session.Beside reached →
        Performed outside .openConnection session entries reached :=
    fun visit beside => Performed.of_beside rfl rfl (.asked visit) beside
  apply keeps.openIfNeeded
  · exact fun _ => asked (.connection connectionOnly_nil fun _ _ => rfl) (Beside.refl session)
  · intro _ entries opened reached opens beside
    refine asked (.connection opens.connectionOnly fun _ already => ?_) beside
    change outside.environment.connectionState session = .opened at already
    rw [already] at opens
    cases opens
    rfl
  · intro _ entries fault reached cannot beside
    refine asked (.connection cannot.connectionOnly fun _ already => ?_) beside
    change outside.environment.connectionState session = .opened at already
    rw [already] at cannot
    cases cannot

theorem close_performed (keeps : account.Keeps outside.environment) :
    account.Leaves outside.environment.close session (Performed outside .close session) := by
  refine Leads.read_bind ?_
  cases levels : session.manager.live with
  | nil =>
      have moves : Operation.move session.manager.live session.manager.disposed .close = .ask := by
        rw [levels]
        rfl
      have asked : ∀ {entries : List Entry} {reached : Session ω},
          ConnectionOnly entries → session.Beside reached →
            Performed outside .close session entries reached :=
        fun only beside => Performed.of_beside moves rfl
          (.asked (.connection only fun live => absurd levels live)) beside
      apply keeps.closeIfOpen_beside
      · exact fun _ _ only beside => asked only beside
      · exact fun _ _ _ only beside => asked only beside
  | cons root rest =>
      have moves : Operation.move session.manager.live session.manager.disposed .close = .stay := by
        rw [levels]
        rfl
      exact Leads.fail (Performed.of_beside moves rfl .stayed (Beside.refl session))

/-! ## Work -/

/-- The executor is asked once, for the statement of the plan. -/
theorem ask_executes (keeps : account.Keeps outside.environment) (plan : Plan)
    {returns : List Entry → Value → Session ω → Prop}
    {fails : List Entry → Fault → Session ω → Prop}
    (returned : ∀ value done world,
      account.covers session.world [.executed (plan.request session) done] world →
        returns [.executed (plan.request session) done] value { session with world })
    (failed : ∀ fault done world,
      account.covers session.world [.executed (plan.request session) done] world →
        fails [.executed (plan.request session) done] fault { session with world }) :
    account.Leads
      (do
        let value ← outside.environment.ask plan
        Action.ofExcept (Environment.result plan value))
      session returns fails := by
  refine Leads.bind (Leads.read_bind ((keeps.run (plan.request session)).leads_covered ?_ ?_))
  · intro value world covered
    apply Leads.ofExcept
    · exact fun result _ => returned result true world covered
    · exact fun fault _ => failed fault true world covered
  · exact fun fault world covered => failed fault false world covered

/-- Opening the connection for a step leads somewhere that the account covers. -/
theorem openIfNeeded_covered (keeps : account.Keeps outside.environment)
    (there : session.manager.disposed = false)
    {returns : List Entry → Bool → Session ω → Prop}
    {fails : List Entry → Fault → Session ω → Prop}
    (opens : ∀ entries opened reached, account.covers session.world entries reached.world →
      Opens (outside.connectionState session.world) entries opened → session.Beside reached →
        (opened = false → outside.connectionState reached.world ≠ .closed) →
          returns entries opened reached)
    (cannot : ∀ entries fault reached,
      CannotOpen (outside.connectionState session.world) entries → session.Beside reached →
        fails entries fault reached) :
    account.Leads outside.environment.openIfNeeded session returns fails := by
  have opening : account.Leads outside.environment.openIfNeeded session
      (fun entries opened reached =>
        Opens (outside.connectionState session.world) entries opened ∧ session.Beside reached ∧
          (opened = false → outside.connectionState reached.world ≠ .closed))
      fails := by
    apply keeps.openIfNeeded_notClosed
    · intro gone
      rw [there] at gone
      cases gone
    · exact fun _ _ _ _ opens beside notClosed => ⟨opens, beside, notClosed⟩
    · exact fun _ => cannot
  refine opening.covered.mono ?_ fun _ _ _ failure => failure.2
  rintro entries opened reached ⟨covered, opened_eq, beside, notClosed⟩
  exact opens entries opened reached covered opened_eq beside notClosed

theorem withConnection_serves (keeps : account.Keeps outside.environment) (plan : Plan)
    (there : session.manager.disposed = false) :
    account.Leaves
      (outside.environment.withConnection do
        let value ← outside.environment.ask plan
        Action.ofExcept (Environment.result plan value))
      session (Serves account outside session plan) := by
  refine Leads.bind (keeps.openIfNeeded_covered there ?_
    fun _ _ _ cannot beside => .cannotOpen cannot beside)
  intro before opened first opened_covered opens beside notClosed
  have same : plan.request first = plan.request session := by
    rw [Plan.request, Plan.request, beside.currentResource_eq]
  have stillThere : first.manager.disposed = false :=
    (congrArg Manager.disposed beside.manager_eq).trans there
  have cleaned : ∀ done world,
      account.covers first.world [.executed (plan.request first) done] world →
        account.Leaves (Action.whenever opened outside.environment.closeIfOpen)
          { first with world } fun later => Serves account outside session plan
            (before ++ ([.executed (plan.request first) done] ++ later)) := by
    intro done world ran
    rw [same] at ran ⊢
    refine keeps.giveBack ?_ ?_ ?_
    · exact stillThere
    · exact fun later last back => .served opens opened_covered notClosed ran back
        (beside.trans ⟨last, _, rfl⟩)
    · exact fun later _ last back => .served opens opened_covered notClosed ran back
        (beside.trans ⟨last, _, rfl⟩)
  refine Leads.ensuring (Leads.bind (Leads.refuseIfDisposed ?_ fun _ => ?_))
  · intro gone
    rw [stillThere] at gone
    cases gone
  · exact keeps.ask_executes plan (fun _ => cleaned) (fun _ => cleaned)

/-- A call whose statement cannot be compiled fails before anything is done. -/
theorem perform_of_error {dialect : Dialect} {work : Work} {fault : Fault}
    (refused : work.plan dialect = .error fault) :
    outside.environment.perform dialect work session = (.error fault, session) := by
  rw [Environment.perform, refused]
  rfl

theorem work_serves (keeps : account.Keeps outside.environment) {dialect : Dialect}
    {work : Work} {plan : Plan} (planned : work.plan dialect = .ok plan)
    (there : session.manager.disposed = false) :
    account.Leaves (outside.environment.perform dialect work) session
      (Serves account outside session plan) := by
  refine Leads.bind (Leads.ofExcept ?_ ?_)
  · intro _ compiled
    obtain rfl := Except.ok.inj (planned.symm.trans compiled)
    refine Leads.bind (Leads.warnAll _ fun warnings => ?_)
    refine (keeps.withConnection_serves plan ?_).mono ?_
    · exact there
    · exact fun entries reached serves => serves.of_warned
  · intro fault refused
    rw [planned] at refused
    cases refused

theorem work_attends (keeps : account.Keeps outside.environment) (dialect : Dialect)
    (work : Work) :
    account.Leaves (outside.environment.perform dialect work) session
      (Attends account outside session) := by
  cases planned : work.plan dialect with
  | error fault =>
      refine Leads.failed (perform_of_error planned) (account.still _) ?_
      exact .nothing (Beside.refl session)
  | ok plan =>
      cases disposed : session.manager.disposed with
      | false => exact (keeps.work_serves planned disposed).mono fun _ _ => Serves.attends
      | true =>
          rw [Environment.perform, planned]
          refine Leads.bind (Leads.ofExcept ?_ nofun)
          rintro _ ⟨⟩
          refine Leads.bind (Leads.warnAll _ fun warnings => ?_)
          refine Leads.bind (Leads.bind (Leads.refuseIfDisposed ?_ ?_))
          · exact fun _ => .nothing ⟨session.world, warnings, rfl⟩
          · intro there
            exact absurd (there.symm.trans disposed) nofun

theorem work_performed (keeps : account.Keeps outside.environment) (dialect : Dialect)
    (work : Work) :
    account.Leaves (outside.environment.perform dialect work) session
      (Performed outside (.work dialect work) session) :=
  (keeps.work_attends dialect work).mono fun _ _ attends =>
    Performed.of_beside rfl rfl (.asked attends.visit) attends.beside

/-! ## Begin and commit -/

/-- The physical transaction of a new unit of work has begun, or nothing has. -/
theorem beginResource (keeps : account.Keeps outside.environment)
    (there : session.manager.disposed = false) {level : Value}
    {returns : List Entry → Nat → Session ω → Prop}
    {fails : List Entry → Fault → Session ω → Prop}
    (unknown : (Environment.isolationLevel level).isOk = false →
      ∀ fault, fails [] fault session)
    (began : (Environment.isolationLevel level).isOk = true → ∀ entries owns resource reached,
      Opens (outside.connectionState session.world) entries owns → session.Beside reached →
        returns (entries ++ [.begun resource]) resource (reached.activated owns))
    (failed : (Environment.isolationLevel level).isOk = true → ∀ entries fault reached,
      FailsToBegin account outside session entries reached → fails entries fault reached) :
    account.Leads (outside.environment.beginResource level) session returns fails := by
  refine Leads.bind (Leads.ofExcept ?_ ?_)
  · intro isolation asked
    have known : (Environment.isolationLevel level).isOk = true := by
      rw [asked]
      rfl
    refine Leads.bind (keeps.openIfNeeded_covered there ?_
      fun _ fault _ cannot beside => failed known _ fault _ (.cannotOpen cannot beside))
    intro before opened first opening opens beside notClosed
    have stillThere : first.manager.disposed = false :=
      (congrArg Manager.disposed beside.manager_eq).trans there
    refine Leads.bind (Leads.onFailure (Leads.bind (Leads.refuseIfDisposed ?_ fun _ => ?_)))
    · intro gone
      rw [stillThere] at gone
      cases gone
    · refine (keeps.beginTransaction isolation).leads_covered ?_ ?_
      · intro resource world _
        refine Leads.change_bind rfl (Leads.answer ?_)
        have begun := began known before opened resource { first with world }
          opens (beside.trans ⟨world, _, rfl⟩)
        simpa [beginning, activated] using begun
      · intro fault world beginning
        have gaveUp : ∀ later other given last,
            GivesBack opened (outside.connectionState world) world later given last →
              fails (before ++ ([.beginFailed] ++ later)) other { first with world := last } :=
          fun later other given last back => failed known _ other _
            (.notBegun opens opening notClosed beginning back (beside.trans ⟨last, _, rfl⟩))
        refine keeps.giveBack ?_ ?_ ?_
        · exact stillThere
        · exact fun later _ back => gaveUp later fault true _ back
        · exact fun later other _ back => gaveUp later other false _ back
  · intro fault asked
    exact unknown (by rw [asked]; rfl) fault

/-- A begin stays without effect, fails on the way, starts a unit of work or adds
a level to the one that is active. -/
theorem begin_leads (keeps : account.Keeps outside.environment) (coherent : session.Coherent)
    {level : Value} {returns : List Entry → Nat → Session ω → Prop}
    {fails : List Entry → Fault → Session ω → Prop}
    (stayed : Operation.move session.manager.live session.manager.disposed (.begin level) = .stay →
      ∀ fault, fails [] fault session)
    (notStarted : Operation.move session.manager.live session.manager.disposed (.begin level) =
      .start → session.manager.live = [] → ∀ entries fault reached,
        FailsToBegin account outside session entries reached → fails entries fault reached)
    (started : Operation.move session.manager.live session.manager.disposed (.begin level) =
      .start → session.manager.live = [] → session.manager.disposed = false →
        ∀ entries owns resource number reached,
          Opens (outside.connectionState session.world) entries owns → session.Beside reached →
            returns (entries ++ [.begun resource]) number
              ((reached.activated owns).pushed resource))
    (nested : Operation.move session.manager.live session.manager.disposed (.begin level) =
      .nest → ∀ resource number, session.currentResource = some resource →
        returns [] number (session.pushed resource)) :
    account.Leads (outside.environment.begin level) session returns fails := by
  refine Leads.bind (Leads.refuseIfDisposed ?_ fun there => ?_)
  · intro gone
    refine stayed ?_ _
    rw [gone]
    rfl
  · refine Leads.read_bind ?_
    have settledPhase : (session.manager.phase ≠ .idle && session.manager.phase ≠ .active) =
        false := by
      rw [coherent.phase_eq]
      split <;> rfl
    rw [settledPhase, if_neg Bool.false_ne_true]
    cases levels : session.manager.live with
    | nil =>
        refine Leads.bind (keeps.beginResource there ?_ ?_ ?_)
        · intro unknown fault
          refine stayed ?_ fault
          simp [Operation.move, there, levels, unknown]
        · intro known entries owns resource reached opens beside
          refine ⟨[], account.still _, ?_⟩
          change returns (entries ++ [.begun resource] ++ []) (reached.activated owns).handles.length
            ((reached.activated owns).pushed resource)
          rw [List.append_nil]
          refine started ?_ levels there entries owns resource _ reached opens beside
          simp [Operation.move, there, levels, known]
        · intro known entries fault reached failsToBegin
          refine notStarted ?_ levels entries fault reached failsToBegin
          simp [Operation.move, there, levels, known]
    | cons root rest =>
        refine Leads.read_bind ⟨[], account.still _, ?_⟩
        refine nested ?_ (session.handleAt root).resource _ ?_
        · simp [Operation.move, there, levels]
        · simp [currentResource, levels]

theorem begin_performed (keeps : account.Keeps outside.environment) (coherent : session.Coherent)
    (level : Value) :
    account.Leaves (outside.environment.begin level) session
      (Performed outside (.begin level) session) := by
  apply keeps.begin_leads coherent
  · exact fun moves _ => Performed.of_beside moves rfl .stayed (Beside.refl session)
  · exact fun moves levels _ _ _ fails =>
      Performed.of_beside moves rfl (.notStarted levels fails.preparing fails.failed) fails.beside
  · intro moves levels there entries owns resource _ reached opens beside
    have same : reached.manager.disposed = session.manager.disposed := by
      rw [beside.manager_eq]
    exact Performed.of_outcome moves rfl
      (.started there levels opens.connectionOnly beside) same
  · exact fun moves _ _ current => Performed.of_outcome moves rfl (.nested current) rfl

/-- A handle in use that may not be ended any more has been closed. -/
theorem closed_of_unusable (coherent : session.Coherent) {number : Nat}
    (live : number ∈ session.manager.live)
    (unusable : (session.handleAt number).isUsable = false) :
    (session.handleAt number).closed = true := by
  simpa [Handle.isUsable, coherent.incomplete live] using unusable

/-- Taking the innermost level off leaves its handle. -/
theorem popLevel_leaves {number : Nat} {returns : List Entry → Unit → Session ω → Prop}
    {fails : List Entry → Fault → Session ω → Prop} (distinct : session.manager.live.Nodup)
    (innermost : session.manager.live.getLast? = some number)
    (holds : returns [] () (session.left number)) :
    account.Leads Environment.popLevel session returns fails := by
  refine Leads.change rfl ?_
  obtain ⟨outer, levels⟩ := List.getLast?_eq_some_iff.mp innermost
  have notOuter : number ∉ outer := by
    rw [levels] at distinct
    exact fun member => (List.nodup_append.mp distinct).2.2 number member number (by simp) rfl
  have dropped : session.manager.live.dropLast = session.manager.live.erase number := by
    rw [levels, List.erase_append_right _ notOuter]
    simp
  rw [innermost, dropped]
  exact holds

/-- An active manager that has left the active phase and come back is as it was. -/
theorem beside_of_active (active : session.manager.phase = .active) (world : ω) :
    session.Beside
      { session with world, manager := { session.manager with phase := .active } } :=
  ⟨world, session.warnings, by rw [← active]⟩

/-- A commit of the only level is to finish the unit of work. -/
theorem commit_finish (keeps : account.Keeps outside.environment) (coherent : session.Coherent)
    {root : Nat} (levels : session.manager.live = [root]) :
    account.Leaves outside.environment.commit session
      (Finish account outside session .commit) := by
  have live : session.manager.live ≠ [] := by simp [levels]
  have rootLive : root ∈ session.manager.live := by simp [levels]
  have isRoot : session.manager.live.head? = some root := by simp [levels]
  have active : session.manager.phase = .active := coherent.active live
  have there : session.manager.disposed = false := coherent.there live
  have current : session.currentResource = some (session.handleAt root).resource :=
    coherent.shared root rootLive
  refine Leads.read_bind ?_
  rw [active, if_neg (by simp), levels]
  refine Leads.change_bind rfl (Leads.bind (Leads.onFailure (keeps.commitHandle ?_ ?_ ?_ ?_)))
  · intro unusable
    refine Leads.change rfl (.refused isRoot ?_ (beside_of_active active _))
    exact closed_of_unusable coherent rootLive unusable
  · intro _ _ fault world
    exact Leads.change rfl (.notEnded (by decide) current (beside_of_active active _))
  · intro _ _ world covered
    have inactive : Phase.committing ≠ .active := by decide
    refine Leads.afterCommit (fun _ => keeps.conclude_leaves ?_ ?_)
      (fun active => absurd active inactive) (fun active => absurd active inactive)
    · exact there
    · exact fun _ _ _ concludes => .of_handle coherent rootLive covered concludes
  · intro _ notRoot
    have rootHandle := coherent.root_isRoot isRoot
    change (session.handleAt root).isRoot = false at notRoot
    rw [rootHandle] at notRoot
    cases notRoot

theorem commit_performed (keeps : account.Keeps outside.environment)
    (coherent : session.Coherent) :
    account.Leaves outside.environment.commit session (Performed outside .commit session) := by
  cases levels : session.manager.live with
  | nil =>
      have moves : Operation.move session.manager.live session.manager.disposed .commit = .stay := by
        rw [levels]
        rfl
      refine Leads.read_bind ?_
      rw [coherent.idle levels, if_pos (by decide)]
      exact Leads.answer (Performed.of_beside moves rfl .stayed (Beside.refl session))
  | cons root rest =>
      cases rest with
      | nil =>
          have moves : Operation.move session.manager.live session.manager.disposed .commit =
              .finish .commit := by
            rw [levels]
            rfl
          exact (keeps.commit_finish coherent levels).mono fun _ _ finish =>
            Performed.of_finish moves rfl coherent finish
      | cons nested others =>
          have innermost := List.getLast?_eq_some_getLast (List.cons_ne_nil nested others)
          have moves : Operation.move session.manager.live session.manager.disposed .commit =
              .leave ((nested :: others).getLast (List.cons_ne_nil nested others)) := by
            rw [levels, Operation.move, List.tail_cons, innermost]
          refine Leads.read_bind ?_
          rw [coherent.active (by simp [levels]), if_neg (by simp), levels]
          apply popLevel_leaves coherent.nodup
          · rw [levels, List.getLast?_cons_cons, innermost]
          · refine Performed.of_outcome moves rfl (.left ?_) rfl
            rw [levels]
            exact List.getLast_mem _

/-! ## Rollback and disposal -/

/-- A rollback of an active manager is to finish the unit of work. -/
theorem rollback_finish (keeps : account.Keeps outside.environment) (coherent : session.Coherent)
    (live : session.manager.live ≠ []) :
    account.Leaves outside.environment.rollback session
      (Finish account outside session .rollback) := by
  obtain ⟨root, rest, levels⟩ := List.exists_cons_of_ne_nil live
  have rootLive : root ∈ session.manager.live := by simp [levels]
  have isRoot : session.manager.live.head? = some root := by simp [levels]
  have notUnderWay : session.manager.phase ≠ .rollingBack := by
    rw [coherent.active live]
    decide
  apply keeps.rollback levels notUnderWay (coherent.there live)
  · intro unusable entries given reached concludes
    have closed := closed_of_unusable coherent rootLive unusable
    exact .concluded (.skipped isRoot closed) concludes
  · intro _ done middle entries given reached covered concludes
    exact .concluded (.called (coherent.shared root rootLive) (by simp) covered) concludes

theorem rollback_performed (keeps : account.Keeps outside.environment)
    (coherent : session.Coherent) :
    account.Leaves outside.environment.rollback session
      (Performed outside .rollback session) := by
  by_cases levels : session.manager.live = []
  · have moves : Operation.move session.manager.live session.manager.disposed .rollback =
        .stay := by
      rw [levels]
      rfl
    have settledPhase : session.manager.phase ≠ .rollingBack := by
      rw [coherent.idle levels]
      decide
    refine Leads.read_bind ?_
    rw [if_neg settledPhase, levels]
    exact Leads.fail (Performed.of_beside moves rfl .stayed (Beside.refl session))
  · have moves : Operation.move session.manager.live session.manager.disposed .rollback =
        .finish .rollback := by
      rw [Operation.move, if_neg levels]
    exact (keeps.rollback_finish coherent levels).mono fun _ _ finish =>
      Performed.of_finish moves rfl coherent finish

/-- The last part of a disposal: the connection is closed and given up. -/
theorem giveUp (keeps : account.Keeps outside.environment)
    (there : session.manager.disposed = false) :
    account.Leaves
      (do
        outside.environment.closeIfOpen
        let gone ← Action.read fun session => session.manager.disposed
        if gone then Action.fail (.lacking .connectionGone)
        else outside.environment.disposeConnection)
      session fun entries reached =>
        GivesUp (outside.connectionState session.world) entries ∧ session.Beside reached := by
  refine Leads.bind (keeps.closeIfOpen ?_ ?_ ?_ ?_)
  · intro gone
    rw [there] at gone
    cases gone
  · intro _ closed
    refine Leads.read_bind ?_
    rw [there]
    refine keeps.disposeConnection.leads ?_ ?_
    · exact fun _ world => ⟨.already closed, world, _, rfl⟩
    · exact fun _ world => ⟨.already closed, world, _, rfl⟩
  · intro _ notClosed world
    refine Leads.read_bind ?_
    rw [there]
    refine keeps.disposeConnection.leads ?_ ?_
    · exact fun _ world => ⟨.closed notClosed, world, _, rfl⟩
    · exact fun _ world => ⟨.closed notClosed, world, _, rfl⟩
  · exact fun _ notClosed _ world => ⟨.cannotClose notClosed, world, _, rfl⟩

/-- Closing the outermost handle on behalf of the manager ends the unit of work. -/
theorem release (keeps : account.Keeps outside.environment) (coherent : session.Coherent)
    {root : Nat} (isRoot : session.manager.live.head? = some root)
    {returns : List Entry → Unit → Session ω → Prop}
    {fails : List Entry → Fault → Session ω → Prop}
    (returned : ∀ first later middle reached, Ends account session .release first middle →
      session.Concludes outside middle later true reached →
        (∀ entry ∈ first ++ later, entry.done = true) → returns (first ++ later) () reached)
    (failed : ∀ first later given fault middle reached,
      Ends account session .release first middle →
        session.Concludes outside middle later given reached →
          (∃ entry ∈ first ++ later, entry.done = false) →
            fails (first ++ later) fault reached) :
    account.Leads
      (Action.ensuring (outside.environment.closeHandle root) outside.environment.conclude)
      { session with manager := { session.manager with phase := .releasing } } returns fails := by
  have rootLive : root ∈ session.manager.live := List.mem_of_head? isRoot
  have there : session.manager.disposed = false :=
    coherent.there (List.ne_nil_of_mem rootLive)
  have current : session.currentResource = some (session.handleAt root).resource :=
    coherent.shared root rootLive
  refine Leads.ensuring (keeps.closeHandle ?_ ?_ ?_ ?_)
  · intro closed
    have skipped : Ends account session .release [] session.world := .skipped isRoot closed
    refine keeps.conclude ?_ ?_ ?_
    · exact there
    · exact fun later reached concludes => returned [] later _ reached skipped
        (concludes.of_books rfl rfl) concludes.givesBack.done
    · exact fun later fault reached concludes => failed [] later false fault _ reached skipped
        (concludes.of_books rfl rfl) concludes.givesBack.failed
  · intro _ _ _ fault world covered
    -- the manager concludes although the physical transaction could not be released
    have called : Ends account session .release
        [.ended .release (session.handleAt root).resource false] world :=
      .called current (by decide) covered
    refine keeps.conclude ?_ ?_ ?_
    · exact there
    · exact fun later reached concludes => failed _ later true fault world reached called
        (concludes.of_shut rfl rfl) ⟨_, List.mem_cons_self, rfl⟩
    · exact fun later other reached concludes => failed _ later false other world reached called
        (concludes.of_shut rfl rfl) ⟨_, List.mem_cons_self, rfl⟩
  · intro _ _ _ world covered
    have called : Ends account session .release
        [.ended .release (session.handleAt root).resource true] world :=
      .called current (by decide) covered
    have inactive : Phase.releasing ≠ .active := by decide
    refine Leads.afterClose (fun _ => keeps.conclude ?_ ?_ ?_)
      (fun active => absurd active inactive) (fun active => absurd active inactive)
    · exact there
    · intro later reached concludes
      refine returned _ later world reached called (concludes.of_shut rfl rfl) ?_
      exact List.forall_mem_cons.mpr ⟨rfl, concludes.givesBack.done⟩
    · intro later fault reached concludes
      obtain ⟨entry, member, undone⟩ := concludes.givesBack.failed
      exact failed _ later false fault world reached called (concludes.of_shut rfl rfl)
        ⟨entry, List.mem_cons_of_mem _ member, undone⟩
  · intro _ nothingToRelease
    change (session.handleAt root).isRoot = false ∨ (session.handleAt root).completed = true
      at nothingToRelease
    simp [coherent.root_isRoot isRoot, coherent.incomplete rootLive] at nothingToRelease

/-- A manager that is there takes one of the courses of a disposal, and is
disposed of in the books at the end. -/
theorem dispose_disposal (keeps : account.Keeps outside.environment) (coherent : session.Coherent)
    (there : session.manager.disposed = false) :
    account.Leaves outside.environment.dispose session fun entries reached =>
      ∃ last, Disposal account outside session entries last ∧
        reached = { last with manager := { last.manager with disposed := true } } := by
  refine Leads.read_bind ?_
  rw [there, if_neg Bool.false_ne_true]
  have marks : ∀ entries last, Disposal account outside session entries last →
      account.Leaves (adjust fun manager => { manager with disposed := true }) last
        fun later reached => ∃ last, Disposal account outside session (entries ++ later) last ∧
          reached = { last with manager := { last.manager with disposed := true } } := by
    intro entries last disposal
    refine Leads.change rfl ⟨last, ?_, rfl⟩
    rw [List.append_nil]
    exact disposal
  refine Leads.ensuring ?_
  cases levels : session.manager.live with
  | nil =>
      exact (keeps.giveUp there).mono fun entries last gaveUp =>
        marks entries last (.retired levels gaveUp.1 gaveUp.2)
  | cons root rest =>
      have isRoot : session.manager.live.head? = some root := by simp [levels]
      refine Leads.change_bind rfl (Leads.bind (keeps.release coherent isRoot ?_ ?_))
      · intro first later middle concluded ends concludes done
        have stillThere : concluded.manager.disposed = false := by
          rw [concludes.concluded.manager_eq]
          exact there
        exact (keeps.giveUp stillThere).mono fun entries last gaveUp =>
          marks _ last (.released ends concludes done gaveUp.1 gaveUp.2)
      · exact fun first later given fault middle last ends concludes failed =>
          marks _ last (.stopped ends concludes failed)

theorem dispose_performed (keeps : account.Keeps outside.environment)
    (coherent : session.Coherent) :
    account.Leaves outside.environment.dispose session (Performed outside .dispose session) := by
  cases disposed : session.manager.disposed with
  | true =>
      have moves : Operation.move session.manager.live session.manager.disposed .dispose =
          .stay := by
        rw [disposed]
        rfl
      refine Leads.read_bind ?_
      rw [disposed]
      refine Leads.answer ⟨?_, by rw [disposed]; rfl⟩
      rw [moves]
      exact .stayed (Beside.refl session)
  | false =>
      refine (keeps.dispose_disposal coherent disposed).mono ?_
      rintro entries _ ⟨last, disposal, rfl⟩
      refine ⟨?_, by simp [Operation.disposes]⟩
      rw [disposed]
      exact disposal.outcome (disposal.finished coherent).given_up

end Keeps

end Account

end EntitySql
