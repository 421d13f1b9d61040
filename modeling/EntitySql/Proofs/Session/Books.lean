import EntitySql.Session.Lifecycle

/-!
# The books of a manager

The books are the state of the manager and the handles it gave out.  This
file says how the steps that only write in the books change what is read off
them, and names the two ways in which a longer step may leave them: as they
were, or with the unit of work ended.
-/

namespace EntitySql

variable {ω : Type}

namespace Handle

/-- The handle with its nesting level over. -/
def complete (handle : Handle) : Handle := { handle with completed := true }

/-- The handle once it has been closed. -/
def shut (handle : Handle) : Handle := { handle with closed := true }

end Handle

namespace Session

/-- The session with one handle changed. -/
def marked (number : Nat) (change : Handle → Handle) (session : Session ω) : Session ω :=
  { session with handles := session.handles.modify number change }

@[simp]
theorem marked_manager (number : Nat) (change : Handle → Handle) (session : Session ω) :
    (session.marked number change).manager = session.manager :=
  rfl

@[simp]
theorem marked_world (number : Nat) (change : Handle → Handle) (session : Session ω) :
    (session.marked number change).world = session.world :=
  rfl

@[simp]
theorem marked_length (number : Nat) (change : Handle → Handle) (session : Session ω) :
    (session.marked number change).handles.length = session.handles.length :=
  List.length_modify _ _ _

theorem handleAt_marked_self {number : Nat} {session : Session ω}
    (issued : number < session.handles.length) (change : Handle → Handle) :
    (session.marked number change).handleAt number = change (session.handleAt number) := by
  simp [handleAt, marked, List.getElem?_eq_getElem issued]

theorem handleAt_marked_of_ne {number other : Nat} (different : number ≠ other)
    (change : Handle → Handle) (session : Session ω) :
    (session.marked number change).handleAt other = session.handleAt other := by
  simp [handleAt, marked, List.getElem?_modify_ne _ _ different]

/-- A change that leaves something about a handle alone leaves it alone everywhere. -/
theorem handleAt_marked_view {α : Type} (view : Handle → α) (change : Handle → Handle)
    (unchanged : ∀ handle, view (change handle) = view handle) (number other : Nat)
    (session : Session ω) :
    view ((session.marked number change).handleAt other) = view (session.handleAt other) := by
  by_cases same : number = other
  · subst other
    by_cases issued : number < session.handles.length
    · rw [handleAt_marked_self issued, unchanged]
    · have missing : session.handles[number]? = none := List.getElem?_eq_none (by omega)
      simp [handleAt, marked, missing]
  · rw [handleAt_marked_of_ne same]

theorem isRoot_marked_complete (number other : Nat) (session : Session ω) :
    ((session.marked number Handle.complete).handleAt other).isRoot =
      (session.handleAt other).isRoot :=
  handleAt_marked_view Handle.isRoot Handle.complete (fun _ => rfl) number other session

theorem isRoot_marked_shut (number other : Nat) (session : Session ω) :
    ((session.marked number Handle.shut).handleAt other).isRoot =
      (session.handleAt other).isRoot :=
  handleAt_marked_view Handle.isRoot Handle.shut (fun _ => rfl) number other session

theorem completed_marked_shut (number other : Nat) (session : Session ω) :
    ((session.marked number Handle.shut).handleAt other).completed =
      (session.handleAt other).completed :=
  handleAt_marked_view Handle.completed Handle.shut (fun _ => rfl) number other session

theorem resource_marked_shut (number other : Nat) (session : Session ω) :
    ((session.marked number Handle.shut).handleAt other).resource =
      (session.handleAt other).resource :=
  handleAt_marked_view Handle.resource Handle.shut (fun _ => rfl) number other session

/-- Completing many handles completes each of them and no other one. -/
theorem getElem?_completed (numbers : List Nat) (handles : List Handle) (number : Nat) :
    (numbers.foldl
        (fun handles number => handles.modify number fun handle => { handle with completed := true })
        handles)[number]? =
      handles[number]?.map fun handle => if number ∈ numbers then handle.complete else handle := by
  induction numbers generalizing handles with
  | nil => simp
  | cons first rest ih =>
      rw [List.foldl_cons, ih, List.getElem?_modify]
      cases handles[number]? with
      | none => rfl
      | some handle =>
          by_cases here : first = number
          · by_cases later : number ∈ rest <;> simp [here, later, Handle.complete]
          · have different : number ≠ first := Ne.symm here
            simp [here, different]

@[simp]
theorem settled_length (session : Session ω) :
    (settled session).handles.length = session.handles.length := by
  unfold settled
  generalize session.handles = handles
  induction session.manager.live generalizing handles with
  | nil => rfl
  | cons first rest ih =>
      rw [List.foldl_cons, ih, List.length_modify]

/-- Settling the books completes the live handles. -/
theorem handleAt_settled {number : Nat} {session : Session ω}
    (issued : number < session.handles.length) :
    (settled session).handleAt number =
      if number ∈ session.manager.live then (session.handleAt number).complete
      else session.handleAt number := by
  unfold handleAt settled
  rw [getElem?_completed, List.getElem?_eq_getElem issued]
  rfl

/-- Nothing in the books has changed. -/
def Beside (session reached : Session ω) : Prop :=
  ∃ world warnings, reached = { session with world, warnings }

theorem Beside.refl (session : Session ω) : session.Beside session :=
  ⟨session.world, session.warnings, rfl⟩

theorem Beside.trans {first middle last : Session ω} (before : first.Beside middle)
    (after : middle.Beside last) : first.Beside last := by
  obtain ⟨_, _, rfl⟩ := before
  obtain ⟨world, warnings, rfl⟩ := after
  exact ⟨world, warnings, rfl⟩

theorem Beside.manager_eq {session reached : Session ω} (beside : session.Beside reached) :
    reached.manager = session.manager := by
  obtain ⟨_, _, rfl⟩ := beside
  rfl

theorem Beside.handles_eq {session reached : Session ω} (beside : session.Beside reached) :
    reached.handles = session.handles := by
  obtain ⟨_, _, rfl⟩ := beside
  rfl

theorem Beside.handleAt_eq {session reached : Session ω} (beside : session.Beside reached)
    (number : Nat) : reached.handleAt number = session.handleAt number := by
  rw [handleAt, beside.handles_eq, handleAt]

theorem Beside.currentResource_eq {session reached : Session ω} (beside : session.Beside reached) :
    reached.currentResource = session.currentResource := by
  obtain ⟨_, _, rfl⟩ := beside
  rfl

/-- The unit of work has ended in the books: its handles are completed, and
no handle is live any more. -/
structure Concluded (session reached : Session ω) : Prop where
  manager_eq : reached.manager =
    { session.manager with phase := .idle, live := [], ownsConnection := false }
  length_eq : reached.handles.length = session.handles.length
  completed_eq : ∀ number < session.handles.length,
    (reached.handleAt number).completed =
      ((session.handleAt number).completed || decide (number ∈ session.manager.live))

theorem concluded_settled (session : Session ω) : session.Concluded (settled session) where
  manager_eq := rfl
  length_eq := settled_length session
  completed_eq number issued := by
    rw [handleAt_settled issued]
    by_cases member : number ∈ session.manager.live <;> simp [member, Handle.complete]

theorem Concluded.beside {session reached last : Session ω}
    (concluded : session.Concluded reached) (beside : reached.Beside last) :
    session.Concluded last where
  manager_eq := beside.manager_eq.trans concluded.manager_eq
  length_eq := by rw [beside.handles_eq, concluded.length_eq]
  completed_eq number issued := by
    rw [beside.handleAt_eq, concluded.completed_eq number issued]

/-- The phase from which a unit of work is concluded makes no difference, nor does
anything outside the books. -/
theorem Concluded.of_books {session middle reached : Session ω} {phase : Phase}
    (concluded : middle.Concluded reached)
    (manager_eq : middle.manager = { session.manager with phase })
    (handles_eq : middle.handles = session.handles) : session.Concluded reached where
  manager_eq := by rw [concluded.manager_eq, manager_eq]
  length_eq := by rw [concluded.length_eq, handles_eq]
  completed_eq number issued := by
    rw [concluded.completed_eq number (by rwa [handles_eq]), manager_eq, handleAt, handles_eq,
      handleAt]

/-- Completing a live handle beforehand makes no difference. -/
theorem Concluded.of_complete {session reached : Session ω} {number : Nat}
    (concluded : (session.marked number Handle.complete).Concluded reached)
    (live : number ∈ session.manager.live) : session.Concluded reached where
  manager_eq := concluded.manager_eq
  length_eq := by rw [concluded.length_eq, marked_length]
  completed_eq other issued := by
    rw [concluded.completed_eq other (by rwa [marked_length])]
    by_cases same : number = other
    · subst other
      simp [live]
    · rw [handleAt_marked_of_ne same, marked_manager]

theorem Concluded.of_shut {session reached : Session ω} {number : Nat}
    (concluded : (session.marked number Handle.shut).Concluded reached) :
    session.Concluded reached where
  manager_eq := concluded.manager_eq
  length_eq := by rw [concluded.length_eq, marked_length]
  completed_eq other issued := by
    rw [concluded.completed_eq other (by rwa [marked_length]), marked_manager,
      completed_marked_shut]

end Session

end EntitySql
