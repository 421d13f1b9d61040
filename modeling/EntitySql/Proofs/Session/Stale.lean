import EntitySql.Proofs.Session.Erasure
import EntitySql.Proofs.Session.Samples

/-!
# Stale handles

Callers keep handles whose levels are over, and a handle notifies the manager,
not the unit of work that it was given out for.  That later units of work are
safe from stale handles rests on the marks: in coherent books a handle that is
not live is completed, and a completed handle neither makes a call nor is
listened to.
-/

namespace EntitySql

open Session

variable {σ ω : Type}

/-! ## Completed handles -/

namespace HandleSite

variable {site : HandleSite σ} {notify : Action σ Unit} {state : σ}

theorem requireUsable_of_unusable (unusable : (site.view state).isUsable = false) :
    site.requireUsable state = (.error (.resource .alreadyCompleted), state) := by
  have read : Action.read site.view state = (.ok (site.view state), state) := rfl
  rw [requireUsable, Action.bind_of_ok read, unusable]
  rfl

theorem commit_of_unusable (unusable : (site.view state).isUsable = false) :
    site.commit notify state = (.error (.resource .alreadyCompleted), state) :=
  Action.bind_of_error (requireUsable_of_unusable unusable)

theorem rollback_of_unusable (unusable : (site.view state).isUsable = false) :
    site.rollback notify state = (.error (.resource .alreadyCompleted), state) :=
  Action.bind_of_error (requireUsable_of_unusable unusable)

end HandleSite

namespace Session

variable {session : Session ω} {number : Nat}

theorem marked_of_unchanged {change : Handle → Handle} (issued : number < session.handles.length)
    (unchanged : change (session.handleAt number) = session.handleAt number) :
    session.marked number change = session := by
  have same : session.handles.modify number change = session.handles := by
    apply List.ext_getElem?
    intro index
    rw [List.getElem?_modify]
    by_cases here : number = index
    · subst index
      rw [handleAt, List.getElem?_eq_getElem issued, Option.getD_some] at unchanged
      simp [issued, unchanged]
    · simp [here]
  rw [marked, same]

/-- A handle of coherent books that is not live is of no use any more. -/
theorem Coherent.unusable (coherent : session.Coherent) (issued : number < session.handles.length)
    (stale : number ∉ session.manager.live) : (session.handleAt number).isUsable = false := by
  simp [Handle.isUsable, coherent.completed issued stale]

end Session

/-- A manager does not listen to the close of a completed handle. -/
theorem Environment.afterClose_of_completed {environment : Environment ω} {session : Session ω}
    {number : Nat} (completed : (session.handleAt number).completed = true) :
    environment.afterClose number session = (.ok (), session) := by
  have phase : Action.read (fun session => session.manager.phase) session =
      (.ok session.manager.phase, session) := rfl
  have handle : Action.read (fun session => session.handleAt number) session =
      (.ok (session.handleAt number), session) := rfl
  rw [afterClose, Action.bind_of_ok phase, Action.bind_of_ok handle, completed, Bool.or_true]
  rfl

/-- A completed handle is only marked as closed. -/
theorem Environment.closeHandle_of_completed {environment : Environment ω} {session : Session ω}
    {number : Nat} (issued : number < session.handles.length)
    (completed : (session.handleAt number).completed = true) :
    environment.closeHandle number session = (.ok (), session.marked number Handle.shut) := by
  have read : Action.read (environment.site number).view session =
      (.ok (session.handleAt number), session) := rfl
  rw [closeHandle, HandleSite.close, Action.bind_of_ok read]
  cases closed : (session.handleAt number).closed with
  | true =>
      have unchanged : (session.handleAt number).shut = session.handleAt number := by
        rw [Handle.shut, ← closed]
      rw [marked_of_unchanged issued unchanged]
      rfl
  | false =>
      have stillCompleted : ((session.marked number Handle.shut).handleAt number).completed = true := by
        rw [completed_marked_shut, completed]
      rw [completed, Bool.not_true, Bool.and_false]
      exact afterClose_of_completed stillCompleted

/-! ## Stale handles in a run -/

namespace Outside

/-- A handle whose level is over can be neither committed nor rolled back, and
closing it marks it and no more.  Nothing else in the books changes, and no
operation on it makes a call, whether or not a later unit of work is active. -/
theorem stale_handles_inert (outside : Outside ω) (world : ω) (operations : List Operation)
    (number : Nat)
    (issued : number < (outside.after (fresh world) operations).handles.length)
    (stale : number ∉ (outside.after (fresh world) operations).manager.live) :
    let session := outside.after (fresh world) operations
    outside.environment.commitHandle number session =
        (.error (.resource .alreadyCompleted), session) ∧
      outside.environment.rollbackHandle number session =
        (.error (.resource .alreadyCompleted), session) ∧
      outside.environment.closeHandle number session =
        (.ok (), session.marked number Handle.shut) ∧
      ∀ operation : Operation, operation.handle = some number →
        (outside.step session operation).manager = session.manager ∧
          outside.callsOf world operations operation = [] := by
  intro session
  have coherent : session.Coherent := outside.run_coherent world operations
  have unusable : (session.handleAt number).isUsable = false := coherent.unusable issued stale
  have commits : outside.environment.commitHandle number session =
      (.error (.resource .alreadyCompleted), session) := HandleSite.commit_of_unusable unusable
  have rollsBack : outside.environment.rollbackHandle number session =
      (.error (.resource .alreadyCompleted), session) := HandleSite.rollback_of_unusable unusable
  have closes : outside.environment.closeHandle number session =
      (.ok (), session.marked number Handle.shut) :=
    Environment.closeHandle_of_completed issued (coherent.completed issued stale)
  refine ⟨commits, rollsBack, closes, fun operation called => ⟨?_, ?_⟩⟩
  · cases operation with
    | commitHandle other =>
        cases called
        rw [step, stepHandle, if_pos issued, commits]
    | rollbackHandle other =>
        cases called
        rw [step, stepHandle, if_pos issued, rollsBack]
    | closeHandle other =>
        cases called
        rw [step, stepHandle, if_pos issued, closes, marked_manager]
    | _ => cases called
  · exact callsOf_stay (Operation.move_of_stale called stale)

/-- The handle of a committed transaction does not reach the next one. -/
theorem committed_handle_inert :
    let operations := [.begin .null, .commit, .begin .null]
    let session := obliging.after (fresh .closed) operations
    0 < session.handles.length ∧ 0 ∉ session.manager.live ∧ session.manager.phase = .active ∧
      obliging.environment.closeHandle 0 session = (.ok (), session.marked 0 Handle.shut) ∧
      obliging.callsOf .closed operations (.rollbackHandle 0) = [] := by
  intro operations session
  have issued : 0 < session.handles.length := by decide +kernel
  have stale : 0 ∉ session.manager.live := by decide +kernel
  obtain ⟨_, _, closes, calls⟩ := stale_handles_inert obliging .closed operations 0 issued stale
  exact ⟨issued, stale, by decide +kernel, closes, (calls (.rollbackHandle 0) rfl).2⟩

end Outside

end EntitySql
