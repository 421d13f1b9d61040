import EntitySql.Fault

/-!
# Actions

A step on a state that may fail.  A failing step keeps the state it had
reached, so what happened before the failure remains visible after it.
-/

namespace EntitySql

/-- A step on states of type `σ` that answers with an `α` or fails. -/
def Action (σ α : Type) : Type := σ → Except Fault α × σ

namespace Action

variable {σ α β : Type}

def run (action : Action σ α) (state : σ) : Except Fault α × σ := action state

def answer (value : α) : Action σ α := fun state => (.ok value, state)

/-- Runs a step and, unless it fails, the next one from the state it reached. -/
def andThen (action : Action σ α) (next : α → Action σ β) : Action σ β := fun state =>
  match action state with
  | (.ok value, reached) => next value reached
  | (.error fault, reached) => (.error fault, reached)

instance : Monad (Action σ) where
  pure := answer
  bind := andThen

def fail (fault : Fault) : Action σ α := fun state => (.error fault, state)

def ofExcept (result : Except Fault α) : Action σ α := fun state => (result, state)

def read (view : σ → α) : Action σ α := fun state => (.ok (view state), state)

def change (update : σ → σ) : Action σ Unit := fun state => (.ok (), update state)

/-- Runs `cleanup` after the step whether it fails or not.  A failing
cleanup takes the place of the step's own result. -/
def ensuring (action : Action σ α) (cleanup : Action σ Unit) : Action σ α := fun state =>
  let (result, reached) := action state
  match cleanup reached with
  | (.ok (), cleaned) => (result, cleaned)
  | (.error fault, cleaned) => (.error fault, cleaned)

/-- Runs `recovery` only after a failing step, which then fails all the same;
a failing recovery takes the place of the failure.  Every fault is recovered
from, since every fault is an exception that programs handle (see `Fault`). -/
def onFailure (action : Action σ α) (recovery : Action σ Unit) : Action σ α := fun state =>
  match action state with
  | (.ok value, reached) => (.ok value, reached)
  | (.error fault, reached) =>
    match recovery reached with
    | (.ok (), recovered) => (.error fault, recovered)
    | (.error other, recovered) => (.error other, recovered)

/-- Turns failure into an answer. -/
def attempt (action : Action σ α) : Action σ (Except Fault α) := fun state =>
  let (result, reached) := action state
  (.ok result, reached)

def whenever (condition : Bool) (action : Action σ Unit) : Action σ Unit :=
  if condition then action else answer ()

/-! ## What combined steps reach -/

variable {first action : Action σ α} {next : α → Action σ β} {cleanup : Action σ Unit}
variable {state reached last : σ} {value : α} {result : Except Fault α} {fault other : Fault}

theorem bind_of_ok (ran : first state = (.ok value, reached)) :
    (first >>= next) state = next value reached := by
  change andThen first next state = next value reached
  rw [andThen, ran]

theorem bind_of_error (ran : first state = (.error fault, reached)) :
    (first >>= next) state = (.error fault, reached) := by
  change andThen first next state = (.error fault, reached)
  rw [andThen, ran]

/-- A chain answers exactly if both of its steps do. -/
theorem bind_eq_ok {answer : β} :
    (first >>= next) state = (.ok answer, last) ↔
      ∃ value reached, first state = (.ok value, reached) ∧
        next value reached = (.ok answer, last) := by
  constructor
  · intro ran
    rcases firstRan : first state with ⟨fault | value, reached⟩
    · rw [bind_of_error firstRan] at ran
      cases ran
    · exact ⟨value, reached, rfl, (bind_of_ok firstRan).symm.trans ran⟩
  · rintro ⟨value, reached, firstRan, nextRan⟩
    exact (bind_of_ok firstRan).trans nextRan

theorem answer_eq_ok {other : α} :
    (pure value : Action σ α) state = (.ok other, last) ↔ value = other ∧ state = last := by
  change (Except.ok value, state) = (Except.ok other, last) ↔ _
  simp

theorem fail_ne_ok : (fail fault : Action σ α) state ≠ (.ok value, last) :=
  nofun

theorem ofExcept_bind_eq_ok {answer : β} :
    (ofExcept result >>= next) state = (.ok answer, last) ↔
      ∃ value, result = .ok value ∧ next value state = (.ok answer, last) := by
  simp [bind_eq_ok, ofExcept, and_assoc]

theorem ofExcept_map_bind {γ : Type} (result : Except Fault α) (view : α → β)
    (next : β → Action σ γ) :
    (ofExcept (result.map view) >>= next) = ofExcept result >>= fun value => next (view value) := by
  cases result <;> rfl

theorem ensuring_of_ok (ran : action state = (result, reached))
    (cleaned : cleanup reached = (.ok (), last)) :
    ensuring action cleanup state = (result, last) := by
  simp only [ensuring, ran, cleaned]

theorem ensuring_of_error (ran : action state = (result, reached))
    (cleaned : cleanup reached = (.error other, last)) :
    ensuring action cleanup state = (.error other, last) := by
  simp only [ensuring, ran, cleaned]

theorem onFailure_of_ok (ran : action state = (.ok value, reached)) :
    onFailure action cleanup state = (.ok value, reached) := by
  rw [onFailure, ran]

theorem onFailure_of_error (ran : action state = (.error fault, reached))
    (recovered : cleanup reached = (.ok (), last)) :
    onFailure action cleanup state = (.error fault, last) := by
  simp only [onFailure, ran, recovered]

theorem onFailure_of_errors (ran : action state = (.error fault, reached))
    (recovered : cleanup reached = (.error other, last)) :
    onFailure action cleanup state = (.error other, last) := by
  simp only [onFailure, ran, recovered]

/-- After a step that answers, only the last one may fail and need a recovery. -/
theorem onFailure_bind_fst {second recovery : Action σ Unit}
    (ran : action state = (.ok value, reached)) :
    (onFailure (action >>= fun value => second >>= fun _ => pure value) recovery state).1 =
      (onFailure second recovery reached).1.map fun _ => value := by
  have continued : (action >>= fun value => second >>= fun _ => pure value) state =
      (second >>= fun _ => pure value) reached := bind_of_ok ran
  rcases ended : second reached with ⟨fault | _, last⟩
  · have failed := continued.trans (bind_of_error ended)
    rcases recovered : recovery last with ⟨other | _, final⟩
    · rw [onFailure_of_errors failed recovered, onFailure_of_errors ended recovered]
      rfl
    · rw [onFailure_of_error failed recovered, onFailure_of_error ended recovered]
      rfl
  · have answered := continued.trans (bind_of_ok ended)
    rw [onFailure_of_ok ended]
    exact congrArg Prod.fst (onFailure_of_ok answered)

end Action

end EntitySql
