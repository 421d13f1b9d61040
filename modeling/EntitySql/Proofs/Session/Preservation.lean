import EntitySql.Proofs.Action
import EntitySql.Proofs.Session.Run

/-!
# What runs preserve

A manager opens its connection only where it is reported closed, and it begins a physical
transaction only at the level that the operation asks for.  A property of the world that the
calls preserve as far as they are made under these conditions is preserved by every run.
-/

namespace EntitySql

open Session

variable {ω : Type}

/-- The isolation of the physical transaction that the operation may begin. -/
def Operation.asked : Operation → Option (Option IsolationLevel)
  | .begin level => (Environment.isolationLevel level).toOption
  | _ => none

theorem Operation.asked_eq_some {operation : Operation} {level : Option IsolationLevel} :
    operation.asked = some level ↔
      ∃ value, operation = .begin value ∧ Environment.isolationLevel value = .ok level := by
  cases operation with
  | begin value =>
      cases known : Environment.isolationLevel value <;> simp [asked, known, Except.toOption]
  | _ => simp [asked]

namespace Outside

/-- The same world, except that the calls which the operation never makes fail. -/
def cautious (outside : Outside ω) (operation : Operation) : Outside ω :=
  { outside with
    openConnection := outside.openConnection.guarded fun world =>
      outside.connectionState world = .closed
    beginTransaction := fun level =>
      (outside.beginTransaction level).guarded fun _ => operation.asked = some level }

section

variable (outside : Outside ω) (operation : Operation)

theorem cautious_opens {world reached : ω}
    (ran : (outside.cautious operation).openConnection world = (.ok (), reached)) :
    outside.connectionState world = .closed ∧ outside.openConnection world = (.ok (), reached) := by
  have permitted : outside.openConnection.guarded
      (fun world => outside.connectionState world = .closed) world = (.ok (), reached) := ran
  simpa [Action.guarded_eq_ok] using permitted

theorem cautious_begins {level : Option IsolationLevel} {world reached : ω} {resource : Nat}
    (ran : (outside.cautious operation).beginTransaction level world = (.ok resource, reached)) :
    operation.asked = some level ∧
      outside.beginTransaction level world = (.ok resource, reached) := by
  have permitted : (outside.beginTransaction level).guarded
      (fun _ => operation.asked = some level) world = (.ok resource, reached) := ran
  simpa [Action.guarded_eq_ok] using permitted

theorem openIfNeeded_cautious :
    (outside.cautious operation).environment.openIfNeeded = outside.environment.openIfNeeded := by
  unfold Environment.openIfNeeded
  refine congrArg (refuseIfDisposed >>= ·) (funext fun _ => ?_)
  refine congrArg (Action.read _ >>= ·) (funext fun _ => ?_)
  refine congrArg (Action.whenever _ _ >>= ·) (funext fun _ => funext fun session => ?_)
  -- the two differ only in the call that opens, which is made where the connection is closed
  refine Action.bind_congr rfl fun current reached reads => ?_
  cases reads
  change (ite (outside.environment.connectionState session = .closed) _ _ : Action _ _) session =
    (ite (outside.environment.connectionState session = .closed) _ _ : Action _ _) session
  by_cases closed : outside.environment.connectionState session = .closed
  · have permits : decide (outside.connectionState session.world = .closed) = true :=
      decide_eq_true closed
    have opens : (outside.cautious operation).openConnection session.world =
        outside.openConnection session.world := if_pos permits
    have opensSession : (outside.cautious operation).environment.openConnection session =
        outside.environment.openConnection session :=
      congrArg (fun ended => (ended.1, { session with world := ended.2 })) opens
    rw [if_pos closed, if_pos closed]
    exact Action.bind_congr opensSession fun _ _ _ => rfl
  · rw [if_neg closed, if_neg closed]

theorem withConnection_cautious {α : Type} (body : Action (Session ω) α) :
    (outside.cautious operation).environment.withConnection body =
      outside.environment.withConnection body := by
  unfold Environment.withConnection
  rw [openIfNeeded_cautious]
  rfl

theorem perform_cautious (dialect : Dialect) (work : Work) :
    (outside.cautious operation).environment.perform dialect work =
      outside.environment.perform dialect work := by
  unfold Environment.perform
  simp only [withConnection_cautious]
  rfl

theorem begin_cautious (level : Value) :
    (outside.cautious (.begin level)).environment.begin level =
      outside.environment.begin level := by
  have begins : (outside.cautious (.begin level)).environment.beginResource level =
      outside.environment.beginResource level := by
    unfold Environment.beginResource
    cases asked : Environment.isolationLevel level with
    | error fault => rfl
    | ok isolation =>
        have same : (outside.cautious (.begin level)).environment.beginTransaction isolation =
            outside.environment.beginTransaction isolation := by
          have permits : decide (Operation.asked (.begin level) = some isolation) = true := by
            simp [Operation.asked, asked, Except.toOption]
          exact congrArg outward (funext fun world => if_pos permits)
        change (outside.cautious (.begin level)).environment.openIfNeeded >>= _ =
          outside.environment.openIfNeeded >>= _
        rw [openIfNeeded_cautious]
        refine congrArg (outside.environment.openIfNeeded >>= ·) (funext fun opened => ?_)
        change (refuseIfDisposed >>= fun _ => _).onFailure _ >>= _ = _
        rw [same]
        rfl
  unfold Environment.begin
  rw [begins]

/-- The operation never makes the calls that fail. -/
theorem step_cautious (session : Session ω) :
    (outside.cautious operation).step session operation = outside.step session operation := by
  cases operation with
  | openConnection =>
      change ((outside.cautious .openConnection).environment.openIfNeeded session).2 = _
      rw [openIfNeeded_cautious]
      rfl
  | begin level =>
      change ((outside.cautious (.begin level)).environment.begin level session).2 = _
      rw [begin_cautious]
      rfl
  | work dialect work =>
      change ((outside.cautious (.work dialect work)).environment.perform dialect work
        session).2 = _
      rw [perform_cautious]
      rfl
  | close | commit | rollback | dispose | commitHandle | rollbackHandle | closeHandle | wait => rfl

end

/-- What the calls preserve, as far as a manager makes them in an operation. -/
structure Preserves (outside : Outside ω) (operation : Operation) (property : ω → Prop) : Prop where
  openConnection : ∀ world, outside.connectionState world = .closed → property world →
    property (outside.openConnection world).2
  closeConnection : outside.closeConnection.Preserves property
  beginTransaction : ∀ level, operation.asked = some level →
    (outside.beginTransaction level).Preserves property
  disposeConnection : outside.disposeConnection.Preserves property
  commitResource : ∀ resource, (outside.commitResource resource).Preserves property
  rollbackResource : ∀ resource, (outside.rollbackResource resource).Preserves property
  closeResource : ∀ resource, (outside.closeResource resource).Preserves property
  run : ∀ request, (outside.run request).Preserves property
  elapse : ∀ world, property world → property (outside.elapse world)

/-- The account of a property that calls carry on. -/
def carrying (property : ω → Prop) : Account ω where
  covers before _ after := property before → property after
  still _ := id
  append first second := second ∘ first

variable {outside : Outside ω} {property : ω → Prop}

theorem Preserves.keeps {operation : Operation} (preserves : outside.Preserves operation property) :
    (carrying property).Keeps (outside.cautious operation).environment where
  openConnection := Account.notes_outward <| Action.Preserves.guarded fun world closed =>
    preserves.openConnection world (by simpa using closed)
  closeConnection := Account.notes_outward preserves.closeConnection
  beginTransaction level := Account.notes_outward <| Action.Preserves.guarded fun world asked =>
    preserves.beginTransaction level (by simpa using asked) world
  disposeConnection := Account.notes_outward preserves.disposeConnection
  commitResource resource := Account.notes_outward (preserves.commitResource resource)
  rollbackResource resource := Account.notes_outward (preserves.rollbackResource resource)
  closeResource resource := Account.notes_outward (preserves.closeResource resource)
  run request := Account.notes_outward (preserves.run request)

theorem step_preserves {session : Session ω} {operation : Operation}
    (preserves : outside.Preserves operation property) (coherent : session.Coherent)
    (holds : property session.world) : property (outside.step session operation).world := by
  obtain ⟨_, carried, _⟩ :=
    Account.step_performed preserves.keeps preserves.elapse coherent operation
  rw [step_cautious] at carried
  exact carried holds

/-- What every operation of a run preserves holds after the run. -/
theorem run_preserves (property : ω → Prop) {world : ω} (start : property world)
    {operations : List Operation}
    (preserves : ∀ operation ∈ operations, outside.Preserves operation property) :
    property (outside.after (fresh world) operations).world := by
  induction operations using List.reverseRecOn with
  | nil => exact start
  | append_singleton earlier operation ih =>
      rw [after_snoc]
      exact step_preserves (preserves operation (by simp)) (outside.run_coherent world earlier)
        (ih fun other member => preserves other (by simp [member]))

end Outside

end EntitySql
