import EntitySql.Proofs.Session.Account
import EntitySql.Proofs.Session.Books

/-!
# What the functions of a manager do

For each function of the manager: where it ends and after which calls, over
any environment whose calls an account has entries for.  Every call may fail
here, so the statements cover every way through a function.
-/

namespace EntitySql

open Session

variable {ω : Type}

/-- The calls that open a connection: nothing if it is open, and a broken one
is closed first.  The truth value tells whether the connection was opened. -/
inductive Opens : ConnectionState → List Entry → Bool → Prop where
  | already : Opens .opened [] false
  | opened : Opens .closed [.opened true] true
  | reopened : Opens .broken [.closed true, .opened true] true
  | stillOpen : Opens .broken [.closed true] false

/-- The calls of an attempt to open a connection that failed. -/
inductive CannotOpen : ConnectionState → List Entry → Prop where
  | cannotOpen : CannotOpen .closed [.opened false]
  | cannotClose : CannotOpen .broken [.closed false]
  | cannotReopen : CannotOpen .broken [.closed true, .opened false]

/-- All calls are calls to the connection itself. -/
def ConnectionOnly (entries : List Entry) : Prop :=
  ∀ entry ∈ entries, entry.toConnection = true

theorem connectionOnly_nil : ConnectionOnly [] := by simp [ConnectionOnly]

theorem ConnectionOnly.append {entries later : List Entry} (first : ConnectionOnly entries)
    (second : ConnectionOnly later) : ConnectionOnly (entries ++ later) := by
  intro entry member
  rcases List.mem_append.mp member with before | after
  · exact first entry before
  · exact second entry after

theorem Opens.connectionOnly {state : ConnectionState} {entries : List Entry} {opened : Bool}
    (opens : Opens state entries opened) : ConnectionOnly entries := by
  cases opens <;> simp [ConnectionOnly, Entry.toConnection]

theorem Opens.noDisposal {state : ConnectionState} {entries : List Entry} {opened : Bool}
    (opens : Opens state entries opened) : ∀ entry ∈ entries, entry.isDisposal = false := by
  cases opens <;> simp [Entry.isDisposal]

theorem CannotOpen.connectionOnly {state : ConnectionState} {entries : List Entry}
    (cannot : CannotOpen state entries) : ConnectionOnly entries := by
  cases cannot <;> simp [ConnectionOnly, Entry.toConnection]

/-- An attempt to open the connection fails only with a call. -/
theorem CannotOpen.failed {state : ConnectionState} {entries : List Entry}
    (cannot : CannotOpen state entries) : ∃ entry ∈ entries, entry.done = false := by
  cases cannot <;> simp [Entry.done]

/-- The calls that give a connection back, whether it could be given back, and
the world afterwards.  A connection that was taken is closed unless it is
closed already; any other is left alone. -/
inductive GivesBack (taken : Bool) (reported : ConnectionState) (before : ω) :
    List Entry → Bool → ω → Prop where
  | spared (notTaken : taken = false) : GivesBack taken reported before [] true before
  | already (closed : reported = .closed) : GivesBack taken reported before [] true before
  | closed {done : Bool} {after : ω} (isTaken : taken = true) (notClosed : reported ≠ .closed) :
      GivesBack taken reported before [.closed done] done after

namespace GivesBack

variable {taken given : Bool} {reported : ConnectionState} {before after : ω}
variable {entries : List Entry}

theorem connectionOnly (back : GivesBack taken reported before entries given after) :
    ConnectionOnly entries := by
  cases back <;> simp [ConnectionOnly, Entry.toConnection]

theorem noDisposal (back : GivesBack taken reported before entries given after) :
    ∀ entry ∈ entries, entry.isDisposal = false := by
  cases back <;> simp [Entry.isDisposal]

theorem done (back : GivesBack taken reported before entries true after) :
    ∀ entry ∈ entries, entry.done = true := by
  cases back <;> simp [Entry.done]

theorem failed (back : GivesBack taken reported before entries false after) :
    ∃ entry ∈ entries, entry.done = false := by
  cases back
  simp [Entry.done]

theorem done_of_not_mem (back : GivesBack taken reported before entries given after)
    (closes : Entry.closed false ∉ entries) : ∀ entry ∈ entries, entry.done = true := by
  cases back with
  | spared | already => simp
  | closed _ _ =>
      cases given with
      | true => simp [Entry.done]
      | false => simp at closes

theorem nil_of_spared (back : GivesBack taken reported before entries given after)
    (notTaken : taken = false) : entries = [] := by
  cases back with
  | spared _ => rfl
  | already _ => rfl
  | closed isTaken _ =>
      rw [notTaken] at isTaken
      cases isTaken

end GivesBack

/-- The unit of work has ended in the books, and the connection has been given
back if the unit of work had taken it. -/
structure Session.Concludes (outside : Outside ω) (session : Session ω) (before : ω)
    (entries : List Entry) (given : Bool) (reached : Session ω) : Prop where
  concluded : session.Concluded reached
  givesBack : GivesBack session.manager.ownsConnection (outside.connectionState before) before
    entries given reached.world

namespace Session.Concludes

variable {outside : Outside ω} {session middle reached : Session ω} {phase : Phase}
variable {before : ω} {entries : List Entry} {given : Bool}

theorem of_concluded (concludes : middle.Concludes outside before entries given reached)
    (owns_eq : middle.manager.ownsConnection = session.manager.ownsConnection)
    (passes : middle.Concluded reached → session.Concluded reached) :
    session.Concludes outside before entries given reached where
  concluded := passes concludes.concluded
  givesBack := owns_eq ▸ concludes.givesBack

theorem of_books (concludes : middle.Concludes outside before entries given reached)
    (manager_eq : middle.manager = { session.manager with phase })
    (handles_eq : middle.handles = session.handles) :
    session.Concludes outside before entries given reached := by
  refine concludes.of_concluded ?_ fun concluded => concluded.of_books manager_eq handles_eq
  rw [manager_eq]

theorem of_complete {number : Nat}
    (concludes : middle.Concludes outside before entries given reached)
    (live : number ∈ session.manager.live)
    (manager_eq : middle.manager = { session.manager with phase })
    (handles_eq : middle.handles = (session.marked number Handle.complete).handles) :
    session.Concludes outside before entries given reached := by
  have completed : (session.marked number Handle.complete).Concludes outside before entries given
      reached := concludes.of_books manager_eq handles_eq
  exact completed.of_concluded rfl fun concluded => concluded.of_complete live

theorem of_shut {number : Nat}
    (concludes : middle.Concludes outside before entries given reached)
    (manager_eq : middle.manager = { session.manager with phase })
    (handles_eq : middle.handles = (session.marked number Handle.shut).handles) :
    session.Concludes outside before entries given reached := by
  have shut : (session.marked number Handle.shut).Concludes outside before entries given
      reached := concludes.of_books manager_eq handles_eq
  exact shut.of_concluded rfl Concluded.of_shut

end Session.Concludes

namespace Account

variable {account : Account ω} {environment : Environment ω} {session : Session ω}

theorem Leads.refuseIfDisposed {returns : List Entry → Unit → Session ω → Prop}
    {fails : List Entry → Fault → Session ω → Prop}
    (gone : session.manager.disposed = true → fails [] (.resource .disposed) session)
    (there : session.manager.disposed = false → returns [] () session) :
    account.Leads refuseIfDisposed session returns fails := by
  apply Leads.read_bind
  cases disposed : session.manager.disposed with
  | true => exact Leads.fail (gone disposed)
  | false => exact Leads.answer (there disposed)

/-- A handle whose level is over refuses to end it again. -/
theorem Leads.requireUsable {number : Nat} {returns : List Entry → Unit → Session ω → Prop}
    {fails : List Entry → Fault → Session ω → Prop}
    (unusable : (session.handleAt number).isUsable = false →
      fails [] (.resource .alreadyCompleted) session)
    (usable : (session.handleAt number).isUsable = true → returns [] () session) :
    account.Leads (environment.site number).requireUsable session returns fails := by
  refine Leads.read_bind ?_
  change account.Leads
    (if (session.handleAt number).isUsable then return ()
      else Action.fail (.resource .alreadyCompleted)) session returns fails
  cases isUsable : (session.handleAt number).isUsable with
  | true => exact Leads.answer (usable isUsable)
  | false => exact Leads.fail (unusable isUsable)

/-- What the manager does only while it is active. -/
theorem Leads.whileActive {next : Action (Session ω) Unit}
    {returns : List Entry → Unit → Session ω → Prop}
    {fails : List Entry → Fault → Session ω → Prop}
    (passed : session.manager.phase ≠ .active → returns [] () session)
    (active : session.manager.phase = .active → account.Leads next session returns fails) :
    account.Leads
      (do
        let phase ← Action.read fun session : Session ω => session.manager.phase
        if phase ≠ .active then return () else next)
      session returns fails := by
  refine Leads.read_bind ?_
  split
  · rename_i notActive
    exact Leads.answer (passed notActive)
  · rename_i isActive
    exact active (by simpa using isActive)

theorem Leads.afterCommit {number : Nat} {returns : List Entry → Unit → Session ω → Prop}
    {fails : List Entry → Fault → Session ω → Prop}
    (passed : session.manager.phase ≠ .active → returns [] () session)
    (root : session.manager.phase = .active → (session.handleAt number).isRoot = true →
      account.Leads environment.conclude session returns fails)
    (nested : session.manager.phase = .active → (session.handleAt number).isRoot = false →
      returns [] ()
        { session with
          manager := { session.manager with live := session.manager.live.erase number } }) :
    account.Leads (environment.afterCommit number) session returns fails := by
  refine Leads.whileActive passed fun active => Leads.read_bind ?_
  cases isRoot : (session.handleAt number).isRoot with
  | true => exact root active isRoot
  | false => exact Leads.change rfl (nested active isRoot)

theorem Leads.afterClose {number : Nat} {returns : List Entry → Unit → Session ω → Prop}
    {fails : List Entry → Fault → Session ω → Prop}
    (passed : session.manager.phase ≠ .active ∨ (session.handleAt number).completed = true →
      returns [] () session)
    (root : session.manager.phase = .active → (session.handleAt number).completed = false →
      (session.handleAt number).isRoot = true →
        account.Leads environment.conclude
          { session with manager := { session.manager with phase := .releasing } } returns fails)
    (nested : session.manager.phase = .active → (session.handleAt number).completed = false →
      (session.handleAt number).isRoot = false → ∀ warnings,
        account.Leads environment.rollback { session with warnings } returns fails) :
    account.Leads (environment.afterClose number) session returns fails := by
  refine Leads.read_bind (Leads.read_bind ?_)
  split
  · rename_i passes
    exact Leads.answer (passed (by simpa using passes))
  · rename_i honoured
    obtain ⟨active, incomplete⟩ : session.manager.phase = .active ∧
        (session.handleAt number).completed = false := by simpa using honoured
    cases isRoot : (session.handleAt number).isRoot with
    | true => exact Leads.change_bind rfl (root active incomplete isRoot)
    | false => exact Leads.change_bind rfl (nested active incomplete isRoot _)

namespace Keeps

variable {returns : List Entry → Unit → Session ω → Prop}
variable {fails : List Entry → Fault → Session ω → Prop}

/-! ## The connection -/

/-- A connection that was not opened for the caller is not closed. -/
theorem openIfNeeded_notClosed {returns : List Entry → Bool → Session ω → Prop}
    (keeps : account.Keeps environment)
    (gone : session.manager.disposed = true → fails [] (.resource .disposed) session)
    (opens : session.manager.disposed = false → ∀ entries opened reached,
      Opens (environment.connectionState session) entries opened → session.Beside reached →
        (opened = false → environment.connectionState reached ≠ .closed) →
          returns entries opened reached)
    (cannot : session.manager.disposed = false → ∀ entries fault reached,
      CannotOpen (environment.connectionState session) entries → session.Beside reached →
        fails entries fault reached) :
    account.Leads environment.openIfNeeded session returns fails := by
  refine Leads.bind (Leads.refuseIfDisposed gone fun there => ?_)
  refine Leads.read_bind (Leads.bind (Leads.whenever ?_ ?_))
  · intro broken
    have broken : environment.connectionState session = .broken := by simpa using broken
    refine Leads.change_bind rfl (keeps.closeConnection.leads ?_ ?_)
    · intro _ world
      refine Leads.read_bind ?_
      split
      · refine Leads.bind (keeps.openConnection.leads ?_ ?_)
        · intro _ world
          exact Leads.answer (opens there _ true _ (broken ▸ .reopened) ⟨world, _, rfl⟩ nofun)
        · intro fault world
          exact cannot there _ fault _ (broken ▸ .cannotReopen) ⟨world, _, rfl⟩
      · rename_i notClosed
        exact Leads.answer
          (opens there _ false _ (broken ▸ .stillOpen) ⟨world, _, rfl⟩ fun _ => notClosed)
    · intro fault world
      exact cannot there _ fault _ (broken ▸ .cannotClose) ⟨world, _, rfl⟩
  · intro notBroken
    have notBroken : environment.connectionState session ≠ .broken := by simpa using notBroken
    refine Leads.read_bind ?_
    split
    · rename_i closed
      refine Leads.bind (keeps.openConnection.leads ?_ ?_)
      · intro _ world
        exact Leads.answer (opens there _ true _ (closed ▸ .opened) ⟨world, _, rfl⟩ nofun)
      · intro fault world
        exact cannot there _ fault _ (closed ▸ .cannotOpen) ⟨world, _, rfl⟩
    · rename_i notClosed
      have already : environment.connectionState session = .opened := by
        cases state : environment.connectionState session <;> simp_all
      exact Leads.answer
        (opens there _ false _ (already ▸ .already) (Beside.refl session) fun _ => notClosed)

theorem openIfNeeded {returns : List Entry → Bool → Session ω → Prop}
    (keeps : account.Keeps environment)
    (gone : session.manager.disposed = true → fails [] (.resource .disposed) session)
    (opens : session.manager.disposed = false → ∀ entries opened reached,
      Opens (environment.connectionState session) entries opened → session.Beside reached →
        returns entries opened reached)
    (cannot : session.manager.disposed = false → ∀ entries fault reached,
      CannotOpen (environment.connectionState session) entries → session.Beside reached →
        fails entries fault reached) :
    account.Leads environment.openIfNeeded session returns fails :=
  keeps.openIfNeeded_notClosed gone
    (fun there entries opened reached opening beside _ =>
      opens there entries opened reached opening beside) cannot

theorem closeIfOpen (keeps : account.Keeps environment)
    (gone : session.manager.disposed = true → fails [] (.resource .disposed) session)
    (idle : session.manager.disposed = false →
      environment.connectionState session = .closed → returns [] () session)
    (closes : session.manager.disposed = false → environment.connectionState session ≠ .closed →
      ∀ world, returns [.closed true] () { session with world })
    (cannot : session.manager.disposed = false → environment.connectionState session ≠ .closed →
      ∀ fault world, fails [.closed false] fault { session with world }) :
    account.Leads environment.closeIfOpen session returns fails := by
  refine Leads.bind (Leads.refuseIfDisposed gone fun there => ?_)
  refine Leads.read_bind (Leads.whenever ?_ ?_)
  · intro notClosed
    have notClosed : environment.connectionState session ≠ .closed := by simpa using notClosed
    exact keeps.closeConnection.leads (fun _ => closes there notClosed) (cannot there notClosed)
  · intro closed
    exact idle there (by simpa using closed)

theorem closeIfOpen_beside (keeps : account.Keeps environment)
    (returned : ∀ entries reached, ConnectionOnly entries → session.Beside reached →
      returns entries () reached)
    (failed : ∀ entries fault reached, ConnectionOnly entries → session.Beside reached →
      fails entries fault reached) :
    account.Leads environment.closeIfOpen session returns fails := by
  apply keeps.closeIfOpen
  · exact fun _ => failed _ _ _ connectionOnly_nil (Beside.refl session)
  · exact fun _ _ => returned _ _ connectionOnly_nil (Beside.refl session)
  · exact fun _ _ world =>
      returned _ _ (by simp [ConnectionOnly, Entry.toConnection]) ⟨world, _, rfl⟩
  · exact fun _ _ fault world =>
      failed _ fault _ (by simp [ConnectionOnly, Entry.toConnection]) ⟨world, _, rfl⟩

/-! ## The end of a unit of work -/

section

variable {outside : Outside ω}

/-- A connection is given back. -/
theorem giveBack (keeps : account.Keeps outside.environment) {taken : Bool}
    (there : session.manager.disposed = false)
    (returned : ∀ entries world,
      GivesBack taken (outside.connectionState session.world) session.world entries true world →
        returns entries () { session with world })
    (failed : ∀ entries fault world,
      GivesBack taken (outside.connectionState session.world) session.world entries false world →
        fails entries fault { session with world }) :
    account.Leads (Action.whenever taken outside.environment.closeIfOpen) session returns
      fails := by
  refine Leads.whenever (fun isTaken => keeps.closeIfOpen ?_ ?_ ?_ ?_) fun notTaken => ?_
  · intro gone
    rw [there] at gone
    cases gone
  · exact fun _ closed => returned [] session.world (.already closed)
  · exact fun _ notClosed world => returned _ world (.closed isTaken notClosed)
  · exact fun _ notClosed fault world => failed _ fault world (.closed isTaken notClosed)
  · exact returned [] session.world (.spared notTaken)

theorem conclude (keeps : account.Keeps outside.environment)
    (there : session.manager.disposed = false)
    (returned : ∀ entries reached,
      session.Concludes outside session.world entries true reached → returns entries () reached)
    (failed : ∀ entries fault reached,
      session.Concludes outside session.world entries false reached →
        fails entries fault reached) :
    account.Leads outside.environment.conclude session returns fails := by
  have settles : session.Concluded (settled session) := concluded_settled session
  refine Leads.read_bind (Leads.change_bind rfl (Leads.read_bind ?_))
  have owned : (session.manager.ownsConnection && !(settled session).manager.disposed) =
      session.manager.ownsConnection := by
    change (session.manager.ownsConnection && !session.manager.disposed) = _
    rw [there, Bool.not_false, Bool.and_true]
  rw [owned]
  refine keeps.giveBack ?_ ?_ ?_
  · exact there
  · exact fun entries world back => returned _ _ ⟨settles.beside ⟨world, _, rfl⟩, back⟩
  · exact fun entries fault world back => failed _ _ _ ⟨settles.beside ⟨world, _, rfl⟩, back⟩

/-- A unit of work is concluded whether or not the connection can be given back. -/
theorem conclude_leaves (keeps : account.Keeps outside.environment)
    (there : session.manager.disposed = false) {property : List Entry → Session ω → Prop}
    (holds : ∀ entries given reached,
      session.Concludes outside session.world entries given reached → property entries reached) :
    account.Leaves outside.environment.conclude session property :=
  keeps.conclude there (fun entries => holds entries true) (fun entries _ => holds entries false)

theorem afterRollback (keeps : account.Keeps outside.environment)
    (there : session.manager.disposed = false)
    (passed : session.manager.phase ≠ .active → returns [] () session)
    (returned : session.manager.phase = .active → ∀ entries reached,
      session.Concludes outside session.world entries true reached → returns entries () reached)
    (failed : session.manager.phase = .active → ∀ entries fault reached,
      session.Concludes outside session.world entries false reached →
        fails entries fault reached) :
    account.Leads outside.environment.afterRollback session returns fails := by
  refine Leads.whileActive passed fun active =>
    Leads.change_bind rfl (keeps.conclude ?_ ?_ ?_)
  · exact there
  · exact fun entries reached concludes =>
      returned active entries reached (concludes.of_books rfl rfl)
  · exact fun entries fault reached concludes =>
      failed active entries fault reached (concludes.of_books rfl rfl)

end

/-! ## Handles -/

theorem commitHandle (keeps : account.Keeps environment) {number : Nat}
    (unusable : (session.handleAt number).isUsable = false →
      fails [] (.resource .alreadyCompleted) session)
    (cannot : (session.handleAt number).isUsable = true →
      (session.handleAt number).isRoot = true → ∀ fault world,
        fails [.ended .commit (session.handleAt number).resource false] fault
          { session with world })
    (root : (session.handleAt number).isUsable = true →
      (session.handleAt number).isRoot = true → ∀ world,
        account.covers session.world [.ended .commit (session.handleAt number).resource true]
            world →
          account.Leads (environment.afterCommit number)
            (marked number Handle.complete { session with world })
            (fun later =>
              returns (.ended .commit (session.handleAt number).resource true :: later))
            (fun later =>
              fails (.ended .commit (session.handleAt number).resource true :: later)))
    (nested : (session.handleAt number).isUsable = true →
      (session.handleAt number).isRoot = false →
        account.Leads (environment.afterCommit number) (session.marked number Handle.complete)
          returns fails) :
    account.Leads (environment.commitHandle number) session returns fails := by
  refine Leads.bind (Leads.requireUsable unusable fun usable => ?_)
  refine Leads.read_bind (Leads.bind (Leads.whenever ?_ ?_))
  · intro isRoot
    refine Leads.of_eq
      ((keeps.commitResource (session.handleAt number).resource).leads_covered ?_ ?_) rfl
    · intro _ world covered
      exact Leads.change_bind rfl (root usable isRoot world covered)
    · intro fault world _
      exact cannot usable isRoot fault world
  · intro isNested
    exact Leads.change_bind rfl (nested usable isNested)

theorem rollbackHandle (keeps : account.Keeps environment) {number : Nat}
    (unusable : (session.handleAt number).isUsable = false →
      fails [] (.resource .alreadyCompleted) session)
    (cannot : (session.handleAt number).isUsable = true → ∀ fault world,
      account.covers session.world [.ended .rollback (session.handleAt number).resource false]
          world →
        fails [.ended .rollback (session.handleAt number).resource false] fault
          { session with world })
    (rolledBack : (session.handleAt number).isUsable = true → ∀ world,
      account.covers session.world [.ended .rollback (session.handleAt number).resource true]
          world →
        account.Leads environment.afterRollback
          (marked number Handle.complete { session with world })
          (fun later =>
            returns (.ended .rollback (session.handleAt number).resource true :: later))
          (fun later =>
            fails (.ended .rollback (session.handleAt number).resource true :: later))) :
    account.Leads (environment.rollbackHandle number) session returns fails := by
  refine Leads.bind (Leads.requireUsable unusable fun usable => Leads.bind ?_)
  refine Leads.of_eq
    ((keeps.rollbackResource (session.handleAt number).resource).leads_covered ?_ ?_) rfl
  · intro _ world covered
    exact Leads.change_bind rfl (rolledBack usable world covered)
  · intro fault world covered
    exact cannot usable fault world covered

theorem closeHandle (keeps : account.Keeps environment) {number : Nat}
    (again : (session.handleAt number).closed = true → returns [] () session)
    (cannot : (session.handleAt number).closed = false →
      (session.handleAt number).isRoot = true → (session.handleAt number).completed = false →
        ∀ fault world,
          account.covers session.world [.ended .release (session.handleAt number).resource false]
              world →
            fails [.ended .release (session.handleAt number).resource false] fault
              (marked number Handle.shut { session with world }))
    (released : (session.handleAt number).closed = false →
      (session.handleAt number).isRoot = true → (session.handleAt number).completed = false →
        ∀ world,
          account.covers session.world [.ended .release (session.handleAt number).resource true]
              world →
            account.Leads (environment.afterClose number)
              (marked number Handle.shut { session with world })
              (fun later =>
                returns (.ended .release (session.handleAt number).resource true :: later))
              (fun later =>
                fails (.ended .release (session.handleAt number).resource true :: later)))
    (kept : (session.handleAt number).closed = false →
      (session.handleAt number).isRoot = false ∨ (session.handleAt number).completed = true →
        account.Leads (environment.afterClose number) (session.marked number Handle.shut)
          returns fails) :
    account.Leads (environment.closeHandle number) session returns fails := by
  refine Leads.read_bind ?_
  cases closed : (session.handleAt number).closed with
  | true =>
      have closedAlready : ((environment.site number).view session).closed = true := closed
      rw [closedAlready]
      exact Leads.answer (again closed)
  | false =>
      have stillOpen : ((environment.site number).view session).closed = false := closed
      rw [stillOpen]
      refine Leads.change_bind rfl (Leads.bind (Leads.whenever ?_ ?_))
      · intro releases
        have both : ((session.handleAt number).isRoot &&
            !(session.handleAt number).completed) = true := releases
        obtain ⟨isRoot, inUse⟩ : (session.handleAt number).isRoot = true ∧
            (session.handleAt number).completed = false := by simpa using both
        -- the handle is read again once it has been marked
        have sameResource := resource_marked_shut number number session
        refine Leads.of_eq
          ((keeps.closeResource (session.handleAt number).resource).leads_covered ?_ ?_)
          (congrArg (fun resource =>
            environment.closeResource resource (session.marked number Handle.shut)) sameResource)
        · intro _ world covered
          exact released closed isRoot inUse world covered
        · intro fault world covered
          exact cannot closed isRoot inUse fault world covered
      · intro keepsOpen
        apply kept closed
        cases isRoot : (session.handleAt number).isRoot with
        | false => exact .inl rfl
        | true =>
            right
            have both : ((session.handleAt number).isRoot &&
                !(session.handleAt number).completed) = false := keepsOpen
            simpa [isRoot] using both

/-! ## Whole units of work -/

/-- Rolling back ends the unit of work in the books whatever happens, and calls
the physical transaction if the outermost handle is usable. -/
theorem rollback {outside : Outside ω} (keeps : account.Keeps outside.environment)
    {property : List Entry → Session ω → Prop}
    {root : Nat} {rest : List Nat} (levels : session.manager.live = root :: rest)
    (notUnderWay : session.manager.phase ≠ .rollingBack)
    (there : session.manager.disposed = false)
    (refused : (session.handleAt root).isUsable = false → ∀ entries given reached,
      session.Concludes outside session.world entries given reached → property entries reached)
    (ended : (session.handleAt root).isUsable = true → ∀ done middle entries given reached,
      account.covers session.world [.ended .rollback (session.handleAt root).resource done]
          middle →
        session.Concludes outside middle entries given reached →
          property (.ended .rollback (session.handleAt root).resource done :: entries) reached) :
    account.Leaves outside.environment.rollback session property := by
  refine Leads.read_bind ?_
  rw [if_neg notUnderWay, levels]
  refine Leads.change_bind rfl (Leads.ensuring (keeps.rollbackHandle ?_ ?_ ?_))
  · intro unusable
    refine keeps.conclude_leaves ?_ fun entries given reached concludes => ?_
    · exact there
    · exact refused unusable entries given reached (concludes.of_books rfl rfl)
  · intro usable fault world covered
    refine keeps.conclude_leaves ?_ fun entries given reached concludes => ?_
    · exact there
    · exact ended usable false world entries given reached covered (concludes.of_books rfl rfl)
  · intro usable world covered
    have rootLive : root ∈ session.manager.live := by simp [levels]
    -- the manager has left the active phase, so it passes over what the handle reports
    have inactive : Phase.rollingBack ≠ .active := by decide
    refine keeps.afterRollback ?_ (fun _ => keeps.conclude_leaves ?_ ?_)
      (fun active => absurd active inactive) (fun active => absurd active inactive)
    · exact there
    · exact there
    · intro entries given reached concludes
      exact ended usable true world entries given reached covered
        (concludes.of_complete rootLive rfl rfl)

end Keeps

end Account

end EntitySql
