import EntitySql.Action

/-!
# What actions agree on and what they preserve

Two chains agree if their first steps do and the rest agrees from where these get.  An action
preserves a property of states if every state it reaches from one with the property has it
too, whether the action answers or fails.  It avoids a fault if it never fails with it.
-/

namespace EntitySql.Action

variable {σ α β : Type} {property : σ → Prop} {action : Action σ α}

theorem bind_congr {other : Action σ α} {next later : α → Action σ β} {state : σ}
    (same : action state = other state)
    (continued : ∀ value reached, action state = (.ok value, reached) →
      next value reached = later value reached) :
    (action >>= next) state = (other >>= later) state := by
  rcases ran : action state with ⟨fault | value, reached⟩
  · rw [bind_of_error ran, bind_of_error (same.symm.trans ran)]
  · rw [bind_of_ok ran, bind_of_ok (same.symm.trans ran), continued value reached ran]

/-- Chains agree if what counts of the answers of their first steps does. -/
theorem bind_congr_view {γ δ : Type} {first : Action σ α} {second : Action σ β} {view : α → γ}
    {other : β → γ}
    (same : (first >>= fun value => pure (view value)) = second >>= fun value => pure (other value))
    {next : α → Action σ δ} {later : β → Action σ δ}
    (continued : ∀ value given, view value = other given → next value = later given) :
    first >>= next = second >>= later := by
  funext state
  have same := congrFun same state
  rcases firstRan : first state with ⟨fault | value, reached⟩ <;>
    rcases secondRan : second state with ⟨fault' | given, reached'⟩
  · rw [bind_of_error firstRan, bind_of_error secondRan] at same
    cases same
    rw [bind_of_error firstRan, bind_of_error secondRan]
  · rw [bind_of_error firstRan, bind_of_ok secondRan] at same
    cases same
  · rw [bind_of_ok firstRan, bind_of_error secondRan] at same
    cases same
  · rw [bind_of_ok firstRan, bind_of_ok secondRan] at same
    obtain ⟨viewed, rfl⟩ := Prod.mk.inj same
    rw [bind_of_ok firstRan, bind_of_ok secondRan, continued _ _ (Except.ok.inj viewed)]

theorem read_bind (view : σ → α) (next : α → Action σ β) (state : σ) :
    (read view >>= next) state = next (view state) state :=
  rfl

/-- A step with a cleanup ends in the result of the step unless the cleanup fails. -/
theorem ensuring_eq {cleanup : Action σ Unit} {state reached : σ} {result : Except Fault α}
    (ran : action state = (result, reached)) :
    ensuring action cleanup state =
      ((cleanup reached).1 >>= fun _ => result, (cleanup reached).2) := by
  rcases cleaned : cleanup reached with ⟨fault | _, last⟩
  · exact ensuring_of_error ran cleaned
  · exact ensuring_of_ok ran cleaned

theorem ensuring_congr {other : Action σ α} {cleanup : Action σ Unit} {state : σ}
    (same : action state = other state) :
    ensuring action cleanup state = ensuring other cleanup state := by
  rw [ensuring, ensuring, same]

theorem onFailure_congr {other : Action σ α} {recovery : Action σ Unit} {state : σ}
    (same : action state = other state) :
    onFailure action recovery state = onFailure other recovery state := by
  rw [onFailure, onFailure, same]

theorem bind_answer (action : Action σ α) : action >>= pure = action := by
  funext state
  rcases ran : action state with ⟨fault | value, reached⟩
  · exact bind_of_error ran
  · exact bind_of_ok ran

theorem bind_bind {γ : Type} (action : Action σ α) (next : α → Action σ β) (last : β → Action σ γ) :
    action >>= next >>= last = action >>= fun value => next value >>= last := by
  funext state
  rcases ran : action state with ⟨fault | value, reached⟩
  · rw [bind_of_error ran, bind_of_error (bind_of_error ran)]
  · rw [bind_of_ok ran]
    rcases continued : next value reached with ⟨fault | later, last⟩
    · rw [bind_of_error continued, bind_of_error ((bind_of_ok ran).trans continued)]
    · rw [bind_of_ok continued, bind_of_ok ((bind_of_ok ran).trans continued)]

instance : LawfulMonad (Action σ) := .mk' _ bind_answer (fun _ _ => rfl) bind_bind

/-- The action in the states where it is allowed; it fails in the others. -/
def guarded (allowed : σ → Bool) (action : Action σ α) : Action σ α := fun state =>
  if allowed state then action state else (.error (.resource .notOpen), state)

theorem guarded_eq_ok {allowed : σ → Bool} {state reached : σ} {value : α} :
    action.guarded allowed state = (.ok value, reached) ↔
      allowed state = true ∧ action state = (.ok value, reached) := by
  unfold guarded
  split <;> simp_all

/-- However the action ends, the property still holds. -/
def Preserves (action : Action σ α) (property : σ → Prop) : Prop :=
  ∀ state, property state → property (action state).2

namespace Preserves

theorem reached (kept : action.Preserves property) {state last : σ} {result : Except Fault α}
    (ran : action state = (result, last)) (holds : property state) : property last := by
  have kept := kept state holds
  rwa [ran] at kept

theorem answer (value : α) : (pure value : Action σ α).Preserves property :=
  fun _ holds => holds

theorem ofExcept (result : Except Fault α) : (Action.ofExcept result).Preserves property :=
  fun _ holds => holds

theorem read (view : σ → α) : (Action.read view).Preserves property :=
  fun _ holds => holds

theorem bind {next : α → Action σ β} (kept : action.Preserves property)
    (continued : ∀ value, (next value).Preserves property) :
    (action >>= next).Preserves property := by
  intro state holds
  rcases ran : action state with ⟨fault | value, middle⟩
  · rw [bind_of_error ran]
    exact kept.reached ran holds
  · rw [bind_of_ok ran]
    exact continued value middle (kept.reached ran holds)

theorem guarded {allowed : σ → Bool}
    (kept : ∀ state, allowed state = true → property state → property (action state).2) :
    (action.guarded allowed).Preserves property := by
  intro state holds
  unfold Action.guarded
  split
  · exact kept state ‹_› holds
  · exact holds

theorem ensuring {cleanup : Action σ Unit} (kept : action.Preserves property)
    (cleaned : cleanup.Preserves property) : (action.ensuring cleanup).Preserves property := by
  intro state holds
  rcases ran : action state with ⟨result, middle⟩
  rcases ended : cleanup middle with ⟨fault | _, last⟩
  · rw [ensuring_of_error ran ended]
    exact cleaned.reached ended (kept.reached ran holds)
  · rw [ensuring_of_ok ran ended]
    exact cleaned.reached ended (kept.reached ran holds)

theorem onFailure {recovery : Action σ Unit} (kept : action.Preserves property)
    (recovered : recovery.Preserves property) : (action.onFailure recovery).Preserves property := by
  intro state holds
  rcases ran : action state with ⟨fault | value, middle⟩
  · rcases ended : recovery middle with ⟨other | _, last⟩
    · rw [onFailure_of_errors ran ended]
      exact recovered.reached ended (kept.reached ran holds)
    · rw [onFailure_of_error ran ended]
      exact recovered.reached ended (kept.reached ran holds)
  · rw [onFailure_of_ok ran]
    exact kept.reached ran holds

theorem whenever {condition : Bool} {action : Action σ Unit} (kept : action.Preserves property) :
    (Action.whenever condition action).Preserves property := by
  cases condition with
  | true => exact kept
  | false => exact answer ()

end Preserves

/-- The action never fails with a fault. -/
def Avoids (action : Action σ α) (fault : Fault) : Prop :=
  ∀ state, (action state).1 ≠ .error fault

namespace Avoids

variable {fault : Fault} {action : Action σ α} {next : α → Action σ β}

theorem answer (value : α) : Avoids (pure value : Action σ α) fault :=
  fun _ => nofun

theorem fail {other : Fault} (different : other ≠ fault) :
    Avoids (Action.fail other : Action σ α) fault :=
  fun _ same => different (Except.error.inj same)

theorem ofExcept {result : Except Fault α} (start : result ≠ .error fault) :
    Avoids (Action.ofExcept result : Action σ α) fault :=
  fun _ => start

theorem bind (start : action.Avoids fault) (continued : ∀ value, (next value).Avoids fault) :
    (action >>= next).Avoids fault := by
  intro state
  rcases ran : action state with ⟨other | value, reached⟩
  · rw [bind_of_error ran]
    have avoided := start state
    rw [ran] at avoided
    exact fun same => avoided (congrArg Except.error (Except.error.inj same))
  · rw [bind_of_ok ran]
    exact continued value reached

end Avoids

end EntitySql.Action
