import EntitySql.Proofs.Session.Coherence
import EntitySql.Proofs.Session.Lifecycle

/-!
# What an operation can do

An operation on a manager or a handle makes one of a few moves: which one
depends only on the levels in use and on whether the manager has been
disposed.  For each move there are a few outcomes, with the calls they take
and the books they leave.
-/

namespace EntitySql

variable {ω : Type}

/-! ## Moves -/

/-- What an operation asks for. -/
inductive Move where
  | stay
  | ask
  | start
  | nest
  | leave (number : Nat)
  | finish (ending : Ending)
  | retire
  deriving DecidableEq, Repr

namespace Operation

/-- The move of an operation, given the handles of the levels in use, the
outermost first, and whether the manager has been disposed. -/
def move (levels : List Nat) (disposed : Bool) : Operation → Move
  | .openConnection | .work _ _ => .ask
  | .close => if levels = [] then .ask else .stay
  | .begin level =>
    if disposed then .stay
    else if levels ≠ [] then .nest
    else if (Environment.isolationLevel level).isOk then .start
    else .stay
  | .commit =>
    match levels.tail.getLast? with
    | some number => .leave number
    | none => if levels = [] then .stay else .finish .commit
  | .rollback => if levels = [] then .stay else .finish .rollback
  | .dispose =>
    if disposed then .stay else if levels = [] then .retire else .finish .release
  | .commitHandle number =>
    if levels.head? = some number then .finish .commit
    else if number ∈ levels then .leave number
    else .stay
  | .rollbackHandle number => if number ∈ levels then .finish .rollback else .stay
  | .closeHandle number =>
    if levels.head? = some number then .finish .release
    else if number ∈ levels then .finish .rollback
    else .stay
  | .wait => .stay

/-- Whether the operation gives the manager up. -/
def disposes : Operation → Bool
  | .dispose => true
  | _ => false

/-- The handle that the operation is called on, if it is one of a handle. -/
def handle : Operation → Option Nat
  | .commitHandle number | .rollbackHandle number | .closeHandle number => some number
  | _ => none

theorem move_of_stale {operation : Operation} {levels : List Nat} {disposed : Bool}
    {number : Nat} (called : operation.handle = some number) (stale : number ∉ levels) :
    operation.move levels disposed = .stay := by
  have notRoot : levels.head? ≠ some number := fun isRoot => stale (List.mem_of_head? isRoot)
  cases operation with
  | commitHandle other =>
      cases called
      rw [move, if_neg notRoot, if_neg stale]
  | rollbackHandle other =>
      cases called
      rw [move, if_neg stale]
  | closeHandle other =>
      cases called
      rw [move, if_neg notRoot, if_neg stale]
  | _ => cases called

/-- Whether the operation is to end a level, or all of them. -/
def endsLevel : Operation → Bool
  | .commit | .rollback | .commitHandle _ | .rollbackHandle _ | .closeHandle _ => true
  | _ => false

theorem move_of_endsLevel {operation : Operation} (ends : operation.endsLevel = true)
    (levels : List Nat) (disposed : Bool) :
    operation.move levels disposed = .stay ∨
      (∃ number, operation.move levels disposed = .leave number) ∨
        ∃ ending, operation.move levels disposed = .finish ending := by
  cases operation with
  | commit =>
      rw [move]
      split
      · exact .inr (.inl ⟨_, rfl⟩)
      · split
        · exact .inl rfl
        · exact .inr (.inr ⟨_, rfl⟩)
  | rollback =>
      rw [move]
      split
      · exact .inl rfl
      · exact .inr (.inr ⟨_, rfl⟩)
  | commitHandle number =>
      rw [move]
      split
      · exact .inr (.inr ⟨_, rfl⟩)
      · split
        · exact .inr (.inl ⟨_, rfl⟩)
        · exact .inl rfl
  | rollbackHandle number =>
      rw [move]
      split
      · exact .inr (.inr ⟨_, rfl⟩)
      · exact .inl rfl
  | closeHandle number =>
      rw [move]
      split
      · exact .inr (.inr ⟨_, rfl⟩)
      · split
        · exact .inr (.inr ⟨_, rfl⟩)
        · exact .inl rfl
  | _ => cases ends

/-- A handle is the outermost one in use, a nested one in use, or not in use. -/
theorem level_cases (levels : List Nat) (number : Nat) :
    levels.head? = some number ∨ (levels.head? ≠ some number ∧ number ∈ levels.tail) ∨
      number ∉ levels := by
  cases levels with
  | nil => simp
  | cons root rest =>
      by_cases same : root = number
      · exact .inl (by simp [same])
      · by_cases nested : number ∈ rest
        · exact .inr (.inl ⟨by simpa using same, nested⟩)
        · exact .inr (.inr (by simp [nested, Ne.symm same]))

/-- An operation other than a disposal is to finish the unit of work in this way. -/
inductive Finishes (levels : List Nat) : Operation → Ending → Prop where
  | commit {root : Nat} (only : levels = [root]) : Finishes levels .commit .commit
  | rollback (live : levels ≠ []) : Finishes levels .rollback .rollback
  | commitRoot {number : Nat} (isRoot : levels.head? = some number) :
      Finishes levels (.commitHandle number) .commit
  | rollbackLive {number : Nat} (live : number ∈ levels) :
      Finishes levels (.rollbackHandle number) .rollback
  | closeRoot {number : Nat} (isRoot : levels.head? = some number) :
      Finishes levels (.closeHandle number) .release
  | closeNested {number : Nat} (notRoot : levels.head? ≠ some number)
      (nested : number ∈ levels.tail) : Finishes levels (.closeHandle number) .rollback

theorem finishes_of_move {operation : Operation} {levels : List Nat} {disposed : Bool}
    {ending : Ending} (moves : operation.move levels disposed = .finish ending)
    (keepsManager : operation.disposes = false) : Finishes levels operation ending := by
  cases operation with
  | commit =>
      rcases levels with _ | ⟨root, _ | ⟨nested, others⟩⟩
      · cases moves
      · cases moves
        exact .commit rfl
      · have innermost := List.getLast?_eq_some_getLast (List.cons_ne_nil nested others)
        rw [move, List.tail_cons, innermost] at moves
        cases moves
  | rollback =>
      rw [move] at moves
      split at moves <;> cases moves
      exact .rollback ‹_›
  | commitHandle number =>
      rw [move] at moves
      split at moves
      · cases moves
        exact .commitRoot ‹_›
      · split at moves <;> cases moves
  | rollbackHandle number =>
      rw [move] at moves
      split at moves <;> cases moves
      exact .rollbackLive ‹_›
  | closeHandle number =>
      rw [move] at moves
      rcases level_cases levels number with isRoot | ⟨notRoot, nested⟩ | stale
      · rw [if_pos isRoot] at moves
        cases moves
        exact .closeRoot isRoot
      · rw [if_neg notRoot, if_pos (List.mem_of_mem_tail nested)] at moves
        cases moves
        exact .closeNested notRoot nested
      · rw [if_neg fun isRoot => stale (List.mem_of_head? isRoot), if_neg stale] at moves
        cases moves
  | close =>
      rw [move] at moves
      split at moves <;> cases moves
  | begin level =>
      rw [move] at moves
      repeat' split at moves
      all_goals cases moves
  | dispose => cases keepsManager
  | _ => cases moves

end Operation

/-! ## Outcomes -/

/-- The calls of an operation that asks for the connection.  A statement is
handed over at most once, with the physical transaction of the unit of work,
after the connection has been opened if it was not open; then the connection
is closed again if it was opened for the statement. -/
inductive Visit (outside : Outside ω) (session : Session ω) : List Entry → Prop where
  | connection {entries : List Entry} (only : ConnectionOnly entries)
      (steady : session.manager.live ≠ [] →
        outside.connectionState session.world = .opened → entries = []) :
      Visit outside session entries
  | statement {before after : List Entry} {opened : Bool} {request : Request} {done : Bool}
      (opens : Opens (outside.connectionState session.world) before opened)
      (bound : request.transaction = session.currentResource)
      (only : ConnectionOnly after) (steady : opened = false → after = []) :
      Visit outside session (before ++ .executed request done :: after)

/-- The outcomes of the moves. -/
inductive Outcome (outside : Outside ω) (session : Session ω) :
    Move → List Entry → Session ω → Prop where
  | stayed {reached : Session ω} (beside : session.Beside reached) :
      Outcome outside session .stay [] reached
  | shut {number : Nat} (stale : number ∉ session.manager.live) :
      Outcome outside session .stay [] (session.marked number Handle.shut)
  | asked {entries : List Entry} {reached : Session ω} (visit : Visit outside session entries)
      (beside : session.Beside reached) : Outcome outside session .ask entries reached
  | notStarted {entries : List Entry} {reached : Session ω}
      (noneLive : session.manager.live = [])
      (preparing : ∀ entry ∈ entries, entry.toConnection = true ∨ entry = .beginFailed)
      (failed : ∃ entry ∈ entries, entry.done = false) (beside : session.Beside reached) :
      Outcome outside session .start entries reached
  | started {entries : List Entry} {reached : Session ω} {resource : Nat} {owns : Bool}
      (there : session.manager.disposed = false) (noneLive : session.manager.live = [])
      (only : ConnectionOnly entries) (beside : session.Beside reached) :
      Outcome outside session .start (entries ++ [.begun resource])
        ((reached.activated owns).pushed resource)
  | nested {resource : Nat} (current : session.currentResource = some resource) :
      Outcome outside session .nest [] (session.pushed resource)
  | left {number : Nat} (nested : number ∈ session.manager.live.tail) :
      Outcome outside session (.leave number) [] (session.left number)
  | notEnded {ending : Ending} {resource : Nat} {reached : Session ω}
      (notRelease : ending ≠ .release) (current : session.currentResource = some resource)
      (beside : session.Beside reached) :
      Outcome outside session (.finish ending) [.ended ending resource false] reached
  | notReleased {root resource : Nat} {world : ω}
      (isRoot : session.manager.live.head? = some root)
      (current : session.currentResource = some resource) :
      Outcome outside session (.finish .release) [.ended .release resource false]
        (Session.marked root Handle.shut { session with world })
  | refused {ending : Ending} {root : Nat} {reached : Session ω}
      (isRoot : session.manager.live.head? = some root)
      (closed : (session.handleAt root).closed = true) (beside : session.Beside reached) :
      Outcome outside session (.finish ending) [] reached
  | ended {ending : Ending} {resource : Nat} {done : Bool} {entries : List Entry}
      {reached : Session ω} (current : session.currentResource = some resource)
      (committed : ending = .commit → done = true) (only : ConnectionOnly entries)
      (finished : session.Finished reached) :
      Outcome outside session (.finish ending) (.ended ending resource done :: entries) reached
  | abandoned {ending : Ending} {root : Nat} {entries : List Entry} {reached : Session ω}
      (isRoot : session.manager.live.head? = some root)
      (closed : (session.handleAt root).closed = true) (only : ConnectionOnly entries)
      (finished : session.Finished reached) :
      Outcome outside session (.finish ending) entries reached
  | retired {entries : List Entry} {reached : Session ω}
      (noneLive : session.manager.live = []) (only : ConnectionOnly entries)
      (finished : session.Finished reached) : Outcome outside session .retire entries reached

open Session

/-- To stay where one is takes no call. -/
theorem Outcome.stay {outside : Outside ω} {session reached : Session ω} {entries : List Entry}
    (outcome : Outcome outside session .stay entries reached) : entries = [] := by
  cases outcome with
  | stayed _ => rfl
  | shut _ => rfl

/-- Every outcome leaves coherent books. -/
theorem Outcome.coherent {outside : Outside ω} {session reached : Session ω} {move : Move}
    {entries : List Entry} (outcome : Outcome outside session move entries reached)
    (coherent : session.Coherent) : reached.Coherent := by
  cases outcome with
  | stayed beside => exact coherent.beside beside
  | shut stale => exact coherent.shut fun nested => stale (List.mem_of_mem_tail nested)
  | asked _ beside => exact coherent.beside beside
  | notStarted _ _ _ beside => exact coherent.beside beside
  | started there noneLive _ beside =>
      apply (coherent.beside beside).started
      · rw [beside.manager_eq]
        exact there
      · rw [beside.manager_eq]
        exact noneLive
  | nested current => exact coherent.nested current
  | left nested => exact coherent.left nested
  | notEnded _ _ beside => exact coherent.beside beside
  | notReleased isRoot _ =>
      -- the outermost handle is closed, and no nested one is
      refine (coherent.beside ⟨_, _, rfl⟩).shut ?_
      exact coherent.root_notMem_tail isRoot
  | refused _ _ beside => exact coherent.beside beside
  | ended _ _ _ finished => exact finished.coherent
  | abandoned _ _ _ finished => exact finished.coherent
  | retired _ _ finished => exact finished.coherent

/-! ## The outermost handle -/

namespace Session

variable {session : Session ω}

/-- The outermost handle in use, if there is one. -/
def outermost (session : Session ω) : Option Handle :=
  session.manager.live.head?.map session.handleAt

/-- The outermost handle in use has been closed.  This happens only when its
physical transaction could not be released. -/
def RootShut (session : Session ω) : Prop :=
  ∃ handle, session.outermost = some handle ∧ handle.closed = true

theorem currentResource_eq (session : Session ω) :
    session.currentResource = session.outermost.map Handle.resource := by
  rw [outermost, Option.map_map]
  rfl

theorem outermost_root {root : Nat} (isRoot : session.manager.live.head? = some root) :
    session.outermost = some (session.handleAt root) := by
  rw [outermost, isRoot, Option.map_some]

theorem outermost_idle (noneLive : session.manager.live = []) : session.outermost = none := by
  simp [outermost, noneLive]

theorem Beside.outermost_eq {reached : Session ω} (beside : session.Beside reached) :
    reached.outermost = session.outermost := by
  obtain ⟨_, _, rfl⟩ := beside
  rfl

theorem outermost_shut {number : Nat} (stale : number ∉ session.manager.live) :
    (session.marked number Handle.shut).outermost = session.outermost := by
  refine Option.map_congr fun root isRoot => ?_
  have different : number ≠ root := fun same => stale (same ▸ List.mem_of_head? isRoot)
  exact handleAt_marked_of_ne different Handle.shut session

theorem currentResource_shut (number : Nat) (session : Session ω) :
    (session.marked number Handle.shut).currentResource = session.currentResource :=
  Option.map_congr fun other _ => resource_marked_shut number other session

theorem outermost_started (noneLive : session.manager.live = []) (resource : Nat) (owns : Bool) :
    ((session.activated owns).pushed resource).outermost = some { resource, depth := 1 } := by
  have isRoot : ((session.activated owns).pushed resource).manager.live.head? =
      some (session.activated owns).handles.length := by
    simp [pushed, activated, noneLive]
  rw [outermost_root isRoot, handleAt_pushed_new]
  simp [activated, noneLive]

theorem Coherent.outermost_pushed (coherent : session.Coherent) {resource : Nat}
    (current : session.currentResource = some resource) :
    (session.pushed resource).outermost = session.outermost := by
  cases levels : session.manager.live with
  | nil => simp [currentResource, levels] at current
  | cons root rest =>
      have isRoot : session.manager.live.head? = some root := by simp [levels]
      have issued := coherent.issued root (List.mem_of_head? isRoot)
      have stillRoot : (session.pushed resource).manager.live.head? = some root := by
        simp [pushed, levels]
      rw [outermost_root isRoot, outermost_root stillRoot, handleAt_pushed_of_lt session issued]

theorem Coherent.outermost_left (coherent : session.Coherent) {number : Nat}
    (nested : number ∈ session.manager.live.tail) :
    (session.left number).outermost = session.outermost := by
  cases levels : session.manager.live with
  | nil => simp [levels] at nested
  | cons root rest =>
      have isRoot : session.manager.live.head? = some root := by simp [levels]
      obtain ⟨different, levelsAfter⟩ := coherent.live_left levels (by simpa [levels] using nested)
      have stillRoot : (session.left number).manager.live.head? = some root := by
        rw [levelsAfter, List.head?_cons]
      rw [outermost_root isRoot, outermost_root stillRoot]
      exact congrArg some (handleAt_marked_of_ne different Handle.complete session)

end Session

/-- The outermost handle in use is closed only by a failed release. -/
theorem Outcome.rootShut {outside : Outside ω} {session reached : Session ω} {move : Move}
    {entries : List Entry} (outcome : Outcome outside session move entries reached)
    (coherent : session.Coherent) (shut : reached.RootShut) :
    session.RootShut ∨ ∃ entry ∈ entries, entry.failsToEnd = true := by
  have same : reached.outermost = session.outermost → session.RootShut := by
    intro same
    obtain ⟨handle, isOutermost, closed⟩ := shut
    exact ⟨handle, same ▸ isOutermost, closed⟩
  have emptied : reached.manager.live = [] → False := by
    intro noneLive
    obtain ⟨handle, isOutermost, _⟩ := shut
    rw [outermost_idle noneLive] at isOutermost
    cases isOutermost
  cases outcome with
  | stayed beside => exact .inl (same beside.outermost_eq)
  | shut stale => exact .inl (same (outermost_shut stale))
  | asked _ beside => exact .inl (same beside.outermost_eq)
  | notStarted _ _ _ beside => exact .inl (same beside.outermost_eq)
  | started _ noneLive _ beside =>
      obtain ⟨handle, isOutermost, closed⟩ := shut
      rw [outermost_started (beside.manager_eq ▸ noneLive)] at isOutermost
      cases isOutermost
      cases closed
  | nested current => exact .inl (same (coherent.outermost_pushed current))
  | left nested => exact .inl (same (coherent.outermost_left nested))
  | notEnded _ _ _ => exact .inr ⟨_, List.mem_singleton_self _, rfl⟩
  | notReleased _ _ => exact .inr ⟨_, List.mem_singleton_self _, rfl⟩
  | refused _ _ beside => exact .inl (same beside.outermost_eq)
  | ended _ _ _ finished => exact (emptied finished.live_eq).elim
  | abandoned _ _ _ finished => exact (emptied finished.live_eq).elim
  | retired _ _ finished => exact (emptied finished.live_eq).elim

end EntitySql
