import EntitySql.Proofs.Session.Outcome

/-!
# The course of an operation

An outcome says what an operation leaves in the books.  Its course says besides
how the operation comes by the connection and gives it back, and in which
world it looked whether the connection is open.  Every course of an operation
has an outcome of its move.
-/

namespace EntitySql

open Session

variable {ω : Type}

/-! ## Finishing a unit of work -/

/-- The call that ends the physical transaction of the unit of work, and the
world after it.  There is none if the outermost handle has been closed. -/
inductive Ends (account : Account ω) (session : Session ω) (ending : Ending) :
    List Entry → ω → Prop where
  | called {resource : Nat} {done : Bool} {middle : ω}
      (current : session.currentResource = some resource)
      (committed : ending = .commit → done = true)
      (reaches : account.covers session.world [.ended ending resource done] middle) :
      Ends account session ending [.ended ending resource done] middle
  | skipped {root : Nat} (isRoot : session.manager.live.head? = some root)
      (closed : (session.handleAt root).closed = true) :
      Ends account session ending [] session.world

/-- The courses of an operation that is to finish the unit of work. -/
inductive Finish (account : Account ω) (outside : Outside ω) (session : Session ω)
    (ending : Ending) : List Entry → Session ω → Prop where
  | refused {root : Nat} {reached : Session ω}
      (isRoot : session.manager.live.head? = some root)
      (closed : (session.handleAt root).closed = true) (beside : session.Beside reached) :
      Finish account outside session ending [] reached
  | notEnded {resource : Nat} {reached : Session ω} (notRelease : ending ≠ .release)
      (current : session.currentResource = some resource) (beside : session.Beside reached) :
      Finish account outside session ending [.ended ending resource false] reached
  | notReleased {root resource : Nat} {world : ω} (isRelease : ending = .release)
      (isRoot : session.manager.live.head? = some root)
      (current : session.currentResource = some resource) :
      Finish account outside session ending [.ended ending resource false]
        (Session.marked root Handle.shut { session with world })
  | concluded {first later : List Entry} {given : Bool} {middle : ω} {reached : Session ω}
      (ends : Ends account session ending first middle)
      (concludes : session.Concludes outside middle later given reached) :
      Finish account outside session ending (first ++ later) reached

theorem Ends.live {account : Account ω} {session : Session ω} {ending : Ending}
    {entries : List Entry} {middle : ω} (ends : Ends account session ending entries middle) :
    session.manager.live ≠ [] := by
  intro noneLive
  cases ends with
  | called current _ _ => simp [currentResource, noneLive] at current
  | skipped isRoot _ => simp [noneLive] at isRoot

theorem Ends.noDisposal {account : Account ω} {session : Session ω} {ending : Ending}
    {entries : List Entry} {middle : ω} (ends : Ends account session ending entries middle) :
    ∀ entry ∈ entries, entry.isDisposal = false := by
  cases ends with
  | called _ _ _ => simp [Entry.isDisposal]
  | skipped _ _ => simp

theorem Ends.outcome {account : Account ω} {outside : Outside ω} {session reached : Session ω}
    {ending : Ending} {first later : List Entry} {middle : ω}
    (ends : Ends account session ending first middle) (only : ConnectionOnly later)
    (finished : session.Finished reached) :
    Outcome outside session (.finish ending) (first ++ later) reached := by
  cases ends with
  | called current committed _ => exact .ended current committed only finished
  | skipped isRoot closed => exact .abandoned isRoot closed only finished

theorem Finish.outcome {account : Account ω} {outside : Outside ω}
    {session reached : Session ω} {ending : Ending} {entries : List Entry}
    (finish : Finish account outside session ending entries reached)
    (coherent : session.Coherent) : Outcome outside session (.finish ending) entries reached := by
  cases finish with
  | refused isRoot closed beside => exact .refused isRoot closed beside
  | notEnded notRelease current beside => exact .notEnded notRelease current beside
  | notReleased isRelease isRoot current =>
      subst isRelease
      exact .notReleased isRoot current
  | concluded ends concludes =>
      exact ends.outcome concludes.givesBack.connectionOnly
        (coherent.finished concludes.concluded)

theorem Finish.disposed_eq {account : Account ω} {outside : Outside ω}
    {session reached : Session ω} {ending : Ending} {entries : List Entry}
    (finish : Finish account outside session ending entries reached) :
    reached.manager.disposed = session.manager.disposed := by
  cases finish with
  | refused _ _ beside => rw [beside.manager_eq]
  | notEnded _ _ beside => rw [beside.manager_eq]
  | notReleased _ _ _ => rfl
  | concluded _ concludes => rw [concludes.concluded.manager_eq]

/-- The physical transaction has been ended through a handle in use, and the
unit of work with it. -/
theorem Finish.of_handle {account : Account ω} {outside : Outside ω}
    {session reached : Session ω} {ending : Ending} {number : Nat} {world : ω} {phase : Phase}
    {later : List Entry} {given : Bool} (coherent : session.Coherent)
    (live : number ∈ session.manager.live)
    (covered : account.covers session.world
      [.ended ending (session.handleAt number).resource true] world)
    (concludes : (marked number Handle.complete
      { session with world, manager := { session.manager with phase } }).Concludes outside world
        later given reached) :
    Finish account outside session ending
      (.ended ending (session.handleAt number).resource true :: later) reached := by
  have ends : Ends account session ending
      [.ended ending (session.handleAt number).resource true] world :=
    .called (coherent.shared number live) (fun _ => rfl) covered
  exact .concluded ends (concludes.of_complete live rfl rfl)

/-! ## Giving a manager up -/

/-- The calls that give up a connection: it is closed unless it is closed
already, and then disposed of. -/
inductive GivesUp (reported : ConnectionState) : List Entry → Prop where
  | already {done : Bool} (closed : reported = .closed) : GivesUp reported [.disposed done]
  | closed {done : Bool} (notClosed : reported ≠ .closed) :
      GivesUp reported [.closed true, .disposed done]
  | cannotClose (notClosed : reported ≠ .closed) : GivesUp reported [.closed false]

/-- The courses of the disposal of a manager, up to the last entry in its books.
After a call that failed, the connection is not given up. -/
inductive Disposal (account : Account ω) (outside : Outside ω) (session : Session ω) :
    List Entry → Session ω → Prop where
  | retired {entries : List Entry} {reached : Session ω} (noneLive : session.manager.live = [])
      (givesUp : GivesUp (outside.connectionState session.world) entries)
      (beside : session.Beside reached) : Disposal account outside session entries reached
  | stopped {first later : List Entry} {given : Bool} {middle : ω} {reached : Session ω}
      (ends : Ends account session .release first middle)
      (concludes : session.Concludes outside middle later given reached)
      (failed : ∃ entry ∈ first ++ later, entry.done = false) :
      Disposal account outside session (first ++ later) reached
  | released {first later last : List Entry} {given : Bool} {middle : ω}
      {concluded reached : Session ω} (ends : Ends account session .release first middle)
      (concludes : session.Concludes outside middle later given concluded)
      (done : ∀ entry ∈ first ++ later, entry.done = true)
      (givesUp : GivesUp (outside.connectionState concluded.world) last)
      (beside : concluded.Beside reached) :
      Disposal account outside session (first ++ later ++ last) reached

theorem GivesUp.connectionOnly {reported : ConnectionState} {entries : List Entry}
    (givesUp : GivesUp reported entries) : ConnectionOnly entries := by
  cases givesUp <;> simp [ConnectionOnly, Entry.toConnection]

theorem Disposal.finished {account : Account ω} {outside : Outside ω}
    {session reached : Session ω} {entries : List Entry}
    (disposal : Disposal account outside session entries reached)
    (coherent : session.Coherent) : session.Finished reached := by
  cases disposal with
  | retired noneLive _ beside => exact (coherent.finished_of_idle noneLive).beside beside
  | stopped _ concludes _ => exact coherent.finished concludes.concluded
  | released _ concludes _ _ beside =>
      exact (coherent.finished concludes.concluded).beside beside

theorem Disposal.outcome {account : Account ω} {outside : Outside ω}
    {session reached last : Session ω} {entries : List Entry}
    (disposal : Disposal account outside session entries reached)
    (finished : session.Finished last) :
    Outcome outside session (if session.manager.live = [] then .retire else .finish .release)
      entries last := by
  cases disposal with
  | retired noneLive givesUp _ =>
      rw [if_pos noneLive]
      exact .retired noneLive givesUp.connectionOnly finished
  | stopped ends concludes _ =>
      rw [if_neg ends.live]
      exact ends.outcome concludes.givesBack.connectionOnly finished
  | released ends concludes _ givesUp _ =>
      rw [if_neg ends.live, List.append_assoc]
      exact ends.outcome
        (concludes.givesBack.connectionOnly.append givesUp.connectionOnly) finished

/-! ## Attending to a statement -/

/-- The courses of an operation that reads or writes entities: no call at all, an
attempt to open the connection, or one statement handed over with the
connection taken before and given back afterwards. -/
inductive Attends (account : Account ω) (outside : Outside ω) (session : Session ω) :
    List Entry → Session ω → Prop where
  | nothing {reached : Session ω} (beside : session.Beside reached) :
      Attends account outside session [] reached
  | cannotOpen {entries : List Entry} {reached : Session ω}
      (cannot : CannotOpen (outside.connectionState session.world) entries)
      (beside : session.Beside reached) : Attends account outside session entries reached
  | statement {before later : List Entry} {opened given done : Bool} {request : Request}
      {first middle : ω} {reached : Session ω}
      (opens : Opens (outside.connectionState session.world) before opened)
      (opening : account.covers session.world before first)
      (bound : request.transaction = session.currentResource)
      (running : account.covers first [.executed request done] middle)
      (givesBack : GivesBack opened (outside.connectionState middle) middle later given
        reached.world)
      (beside : session.Beside reached) :
      Attends account outside session (before ++ .executed request done :: later) reached

theorem Attends.beside {account : Account ω} {outside : Outside ω}
    {session reached : Session ω} {entries : List Entry}
    (attends : Attends account outside session entries reached) : session.Beside reached := by
  cases attends with
  | nothing beside => exact beside
  | cannotOpen _ beside => exact beside
  | statement _ _ _ _ _ beside => exact beside

theorem Attends.visit {account : Account ω} {outside : Outside ω}
    {session reached : Session ω} {entries : List Entry}
    (attends : Attends account outside session entries reached) :
    Visit outside session entries := by
  cases attends with
  | nothing _ => exact .connection connectionOnly_nil fun _ _ => rfl
  | cannotOpen cannot _ =>
      refine .connection cannot.connectionOnly fun _ already => ?_
      rw [already] at cannot
      cases cannot
  | statement opens _ bound _ givesBack _ =>
      exact .statement opens bound givesBack.connectionOnly givesBack.nil_of_spared

/-- The statement that a plan hands over, with the physical transaction of the
unit of work. -/
def Plan.request (plan : Plan) (session : Session ω) : Request where
  kind := plan.kind
  sql := plan.compiled.sql
  parameters := plan.compiled.parameters
  type := plan.type
  transaction := session.currentResource

/-- The courses of an operation whose statement has been compiled: the connection
cannot be opened, or the statement is handed over once, with the connection taken
before and given back afterwards. -/
inductive Serves (account : Account ω) (outside : Outside ω) (session : Session ω) (plan : Plan) :
    List Entry → Session ω → Prop where
  | cannotOpen {entries : List Entry} {reached : Session ω}
      (cannot : CannotOpen (outside.connectionState session.world) entries)
      (beside : session.Beside reached) : Serves account outside session plan entries reached
  | served {before later : List Entry} {opened given done : Bool} {first middle : ω}
      {reached : Session ω} (opens : Opens (outside.connectionState session.world) before opened)
      (opening : account.covers session.world before first)
      (notClosed : opened = false → outside.connectionState first ≠ .closed)
      (running : account.covers first [.executed (plan.request session) done] middle)
      (givesBack : GivesBack opened (outside.connectionState middle) middle later given
        reached.world)
      (beside : session.Beside reached) :
      Serves account outside session plan
        (before ++ .executed (plan.request session) done :: later) reached

/-- Warnings raised beforehand make no difference. -/
theorem Serves.of_warned {account : Account ω} {outside : Outside ω}
    {session reached : Session ω} {plan : Plan} {warnings : List Warning} {entries : List Entry}
    (serves : Serves account outside { session with warnings } plan entries reached) :
    Serves account outside session plan entries reached := by
  have warned : session.Beside { session with warnings } := ⟨session.world, warnings, rfl⟩
  cases serves with
  | cannotOpen cannot beside => exact .cannotOpen cannot (warned.trans beside)
  | served opens opening notClosed running givesBack beside =>
      exact .served opens opening notClosed running givesBack (warned.trans beside)

theorem Serves.attends {account : Account ω} {outside : Outside ω}
    {session reached : Session ω} {plan : Plan} {entries : List Entry}
    (serves : Serves account outside session plan entries reached) :
    Attends account outside session entries reached := by
  cases serves with
  | cannotOpen cannot beside => exact .cannotOpen cannot beside
  | served opens opening _ running givesBack beside =>
      exact .statement opens opening rfl running givesBack beside

/-! ## Failing to begin -/

/-- The courses of a begin that fails to start a unit of work: the connection cannot be opened,
or the physical transaction cannot be begun, and the connection taken before is given back. -/
inductive FailsToBegin (account : Account ω) (outside : Outside ω) (session : Session ω) :
    List Entry → Session ω → Prop where
  | cannotOpen {entries : List Entry} {reached : Session ω}
      (cannot : CannotOpen (outside.connectionState session.world) entries)
      (beside : session.Beside reached) : FailsToBegin account outside session entries reached
  | notBegun {before later : List Entry} {opened given : Bool} {first middle : ω}
      {reached : Session ω} (opens : Opens (outside.connectionState session.world) before opened)
      (opening : account.covers session.world before first)
      (notClosed : opened = false → outside.connectionState first ≠ .closed)
      (beginning : account.covers first [.beginFailed] middle)
      (givesBack : GivesBack opened (outside.connectionState middle) middle later given
        reached.world)
      (beside : session.Beside reached) :
      FailsToBegin account outside session (before ++ .beginFailed :: later) reached

namespace FailsToBegin

variable {account : Account ω} {outside : Outside ω} {session reached : Session ω}
variable {entries : List Entry}

theorem beside (fails : FailsToBegin account outside session entries reached) :
    session.Beside reached := by
  cases fails with
  | cannotOpen _ beside => exact beside
  | notBegun _ _ _ _ _ beside => exact beside

theorem preparing (fails : FailsToBegin account outside session entries reached) :
    ∀ entry ∈ entries, entry.toConnection = true ∨ entry = .beginFailed := by
  cases fails with
  | cannotOpen cannot _ => exact fun entry member => .inl (cannot.connectionOnly entry member)
  | notBegun opens _ _ _ givesBack _ =>
      intro entry member
      rcases List.mem_append.mp member with early | late
      · exact .inl (opens.connectionOnly entry early)
      · rcases List.mem_cons.mp late with rfl | closing
        · exact .inr rfl
        · exact .inl (givesBack.connectionOnly entry closing)

theorem failed (fails : FailsToBegin account outside session entries reached) :
    ∃ entry ∈ entries, entry.done = false := by
  cases fails with
  | cannotOpen cannot _ => exact cannot.failed
  | notBegun => exact ⟨.beginFailed, by simp, rfl⟩

end FailsToBegin

end EntitySql
