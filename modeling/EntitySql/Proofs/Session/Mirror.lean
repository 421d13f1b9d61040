import EntitySql.Proofs.Session.Run

/-!
# Steps that mirror each other

A session of a journaled world becomes one of the world itself when the
journal is forgotten and physical transactions get back the names that the
world gave them.  Two steps mirror each other if they come to the same from
such a pair of sessions.  The rules follow the ways in which steps are put
together.
-/

namespace EntitySql

variable {ω α β γ δ : Type}

namespace Session

/-- The handle with the world's own name for its physical transaction. -/
def renamed (state : Journaled ω) (handle : Handle) : Handle :=
  { handle with resource := state.nameOf handle.resource }

/-- The session without the journal. -/
def erased (session : Session (Journaled ω)) : Session ω where
  manager := session.manager
  handles := session.handles.map (renamed session.world)
  warnings := session.warnings
  world := session.world.world

theorem erased_manager (session : Session (Journaled ω)) :
    session.erased.manager = session.manager :=
  rfl

/-- All handles stand for physical transactions that have been begun, and all
live handles have been given out. -/
structure Known (session : Session (Journaled ω)) : Prop where
  begun : ∀ handle ∈ session.handles, handle.resource < session.world.names.length
  issued : ∀ number ∈ session.manager.live, number < session.handles.length

theorem handleAt_mem {session : Session ω} {number : Nat}
    (issued : number < session.handles.length) : session.handleAt number ∈ session.handles := by
  rw [handleAt, List.getElem?_eq_getElem issued]
  exact List.getElem_mem issued

theorem handleAt_erased {session : Session (Journaled ω)} {number : Nat}
    (issued : number < session.handles.length) :
    session.erased.handleAt number = renamed session.world (session.handleAt number) := by
  rw [handleAt, handleAt, List.getElem?_eq_getElem issued]
  simp [erased, issued]

theorem resource_erased {session : Session (Journaled ω)} {number : Nat}
    (issued : number < session.handles.length) :
    (session.erased.handleAt number).resource =
      session.world.nameOf (session.handleAt number).resource := by
  rw [handleAt_erased issued]
  rfl

/-- All but the resource of a handle is the same without the journal. -/
theorem view_erased {session : Session (Journaled ω)} {number : Nat}
    (issued : number < session.handles.length) (view : Handle → α)
    (apart : ∀ handle resource, view { handle with resource } = view handle) :
    view (session.erased.handleAt number) = view (session.handleAt number) := by
  rw [handleAt_erased issued, renamed, apart]

end Session

open Session

/-- Two results that are faults alike, or values that agree. -/
inductive Alike (agree : α → β → Prop) : Except Fault α → Except Fault β → Prop where
  | ok {value : α} {same : β} (agrees : agree value same) : Alike agree (.ok value) (.ok same)
  | error {fault : Fault} : Alike agree (.error fault) (.error fault)

/-- A step in a journaled session and one in the session without the journal
come to the same. -/
structure Mirrored (action : Action (Session (Journaled ω)) α) (other : Action (Session ω) β)
    (session : Session (Journaled ω)) (agree : α → β → Session (Journaled ω) → Prop) : Prop where
  reached_eq : (other session.erased).2 = (action session).2.erased
  known : (action session).2.Known
  grows : session.handles.length ≤ (action session).2.handles.length
  alike : Alike (fun value same => agree value same (action session).2) (action session).1
    (other session.erased).1

/-- The two steps come to the same, and to the same value. -/
def Mirrors (action : Action (Session (Journaled ω)) α) (other : Action (Session ω) α)
    (session : Session (Journaled ω)) : Prop :=
  session.Known → Mirrored action other session fun value same _ => value = same

namespace Mirrored

variable {session : Session (Journaled ω)}

theorem of_runs {action : Action (Session (Journaled ω)) α} {other : Action (Session ω) β}
    {agree : α → β → Session (Journaled ω) → Prop} {result : Except Fault α}
    {otherResult : Except Fault β} {reached : Session (Journaled ω)}
    (ran : action session = (result, reached))
    (otherRan : other session.erased = (otherResult, reached.erased)) (known : reached.Known)
    (grows : session.handles.length ≤ reached.handles.length)
    (alike : Alike (fun value same => agree value same reached) result otherResult) :
    Mirrored action other session agree := by
  constructor <;> rw [ran]
  · rw [otherRan]
  · exact known
  · exact grows
  · rw [otherRan]
    exact alike

theorem runs {action : Action (Session (Journaled ω)) α} {other : Action (Session ω) β}
    {agree : α → β → Session (Journaled ω) → Prop}
    (mirrored : Mirrored action other session agree) :
    ∃ result otherResult reached, action session = (result, reached) ∧
      other session.erased = (otherResult, reached.erased) ∧ reached.Known ∧
      session.handles.length ≤ reached.handles.length ∧
      Alike (fun value same => agree value same reached) result otherResult :=
  ⟨_, _, _, rfl, Prod.ext rfl mirrored.reached_eq, mirrored.known, mirrored.grows,
    mirrored.alike⟩

theorem bind {first : Action (Session (Journaled ω)) α} {other : Action (Session ω) β}
    {next : α → Action (Session (Journaled ω)) γ} {otherNext : β → Action (Session ω) δ}
    {between : α → β → Session (Journaled ω) → Prop}
    {agree : γ → δ → Session (Journaled ω) → Prop}
    (mirrored : Mirrored first other session between)
    (continues : ∀ value same reached, reached.Known →
      session.handles.length ≤ reached.handles.length → between value same reached →
        Mirrored (next value) (otherNext same) reached agree) :
    Mirrored (first >>= next) (other >>= otherNext) session agree := by
  obtain ⟨result, otherResult, reached, ran, otherRan, known, grows, alike⟩ := mirrored.runs
  cases alike with
  | ok agrees =>
      obtain ⟨_, _, last, continued, otherContinued, lastKnown, lastGrows, lastAlike⟩ :=
        (continues _ _ reached known grows agrees).runs
      exact of_runs ((Action.bind_of_ok ran).trans continued)
        ((Action.bind_of_ok otherRan).trans otherContinued) lastKnown
        (Nat.le_trans grows lastGrows) lastAlike
  | error =>
      exact of_runs (Action.bind_of_error ran) (Action.bind_of_error otherRan) known grows .error

end Mirrored

namespace Mirrors

variable {session : Session (Journaled ω)}

theorem bind {first : Action (Session (Journaled ω)) α} {other : Action (Session ω) α}
    {next : α → Action (Session (Journaled ω)) β} {otherNext : α → Action (Session ω) β}
    (mirrors : Mirrors first other session)
    (continues : ∀ value reached, session.handles.length ≤ reached.handles.length →
      Mirrors (next value) (otherNext value) reached) :
    Mirrors (first >>= next) (other >>= otherNext) session := by
  intro known
  refine (mirrors known).bind ?_
  rintro value _ reached reachedKnown grows rfl
  exact continues value reached grows reachedKnown

theorem answer (value : α) : Mirrors (pure value) (pure value) session :=
  fun known => ⟨rfl, known, Nat.le_refl _, .ok rfl⟩

theorem fail (fault : Fault) :
    Mirrors (Action.fail fault : Action (Session (Journaled ω)) α) (Action.fail fault) session :=
  fun known => ⟨rfl, known, Nat.le_refl _, .error⟩

theorem ofExcept (result : Except Fault α) :
    Mirrors (Action.ofExcept result) (Action.ofExcept result) session := by
  cases result with
  | ok value => exact answer value
  | error fault => exact fail fault

theorem read_bind {view : Session (Journaled ω) → β} {otherView : Session ω → γ}
    {next : β → Action (Session (Journaled ω)) α} {otherNext : γ → Action (Session ω) α}
    (mirrors : session.Known →
      Mirrors (next (view session)) (otherNext (otherView session.erased)) session) :
    Mirrors (Action.read view >>= next) (Action.read otherView >>= otherNext) session := by
  intro known
  obtain ⟨reached_eq, reachedKnown, grows, alike⟩ := mirrors known known
  exact ⟨reached_eq, reachedKnown, grows, alike⟩

theorem change {update : Session (Journaled ω) → Session (Journaled ω)}
    {otherUpdate : Session ω → Session ω}
    (same : session.Known → otherUpdate session.erased = (update session).erased)
    (keeps : session.Known → (update session).Known)
    (grows : session.handles.length ≤ (update session).handles.length) :
    Mirrors (Action.change update) (Action.change otherUpdate) session :=
  fun known => ⟨same known, keeps known, grows, .ok rfl⟩

theorem ensuring {action : Action (Session (Journaled ω)) α} {other : Action (Session ω) α}
    {cleanup : Action (Session (Journaled ω)) Unit} {otherCleanup : Action (Session ω) Unit}
    (mirrors : Mirrors action other session)
    (cleans : ∀ reached, session.handles.length ≤ reached.handles.length →
      Mirrors cleanup otherCleanup reached) :
    Mirrors (Action.ensuring action cleanup) (Action.ensuring other otherCleanup) session := by
  intro sessionKnown
  obtain ⟨result, otherResult, reached, ran, otherRan, known, grows, alike⟩ :=
    (mirrors sessionKnown).runs
  obtain ⟨_, _, last, cleaned, otherCleaned, lastKnown, lastGrows, lastAlike⟩ :=
    (cleans reached grows known).runs
  have allGrows := Nat.le_trans grows lastGrows
  cases lastAlike with
  | ok _ =>
      exact .of_runs (Action.ensuring_of_ok ran cleaned)
        (Action.ensuring_of_ok otherRan otherCleaned) lastKnown allGrows alike
  | error =>
      exact .of_runs (Action.ensuring_of_error ran cleaned)
        (Action.ensuring_of_error otherRan otherCleaned) lastKnown allGrows .error

theorem branch {condition otherCondition : Prop} [Decidable condition]
    [Decidable otherCondition] {action alternative : Action (Session (Journaled ω)) α}
    {other otherAlternative : Action (Session ω) α} (same : otherCondition ↔ condition)
    (holds : Mirrors action other session)
    (fails : Mirrors alternative otherAlternative session) :
    Mirrors (if condition then action else alternative)
      (if otherCondition then other else otherAlternative) session := by
  by_cases here : condition
  · rw [if_pos here, if_pos (same.mpr here)]
    exact holds
  · rw [if_neg here, if_neg (mt same.mp here)]
    exact fails

theorem whenever {condition otherCondition : Bool}
    {action : Action (Session (Journaled ω)) Unit} {other : Action (Session ω) Unit}
    (same : otherCondition = condition) (mirrors : Mirrors action other session) :
    Mirrors (Action.whenever condition action) (Action.whenever otherCondition other) session := by
  rw [same]
  cases condition with
  | true => exact mirrors
  | false => exact answer ()

/-- Only what the steps do where they start counts. -/
theorem of_eq {action started : Action (Session (Journaled ω)) α}
    {other otherStarted : Action (Session ω) α} (mirrors : Mirrors started otherStarted session)
    (same : action session = started session)
    (otherSame : other session.erased = otherStarted session.erased) :
    Mirrors action other session := by
  intro known
  obtain ⟨reached_eq, reachedKnown, grows, alike⟩ := mirrors known
  rw [← same] at reached_eq reachedKnown grows alike
  rw [← otherSame] at reached_eq alike
  exact ⟨reached_eq, reachedKnown, grows, alike⟩

theorem result_eq {action : Action (Session (Journaled ω)) α} {other : Action (Session ω) α}
    (mirrors : Mirrors action other session) (known : session.Known) :
    (other session.erased).1 = (action session).1 := by
  have alike := (mirrors known).alike
  generalize (action session).1 = result at alike
  generalize (other session.erased).1 = same at alike
  cases alike with
  | ok agrees => rw [agrees]
  | error => rfl

/-- A call that is noted down does what the call does. -/
theorem noting (call : Journaled ω → Action ω α) (entry : Except Fault α → Entry) :
    Mirrors (outward (Journaled.noting call entry)) (outward (call session.world)) session := by
  intro known
  have alike : ∀ result : Except Fault α, Alike (fun value same => value = same) result result := by
    intro result
    cases result with
    | ok value => exact .ok rfl
    | error fault => exact .error
  exact ⟨rfl, ⟨known.begun, known.issued⟩, Nat.le_refl _, alike _⟩

end Mirrors

namespace Mirrored

variable {session : Session (Journaled ω)}

theorem change_bind {update : Session (Journaled ω) → Session (Journaled ω)}
    {otherUpdate : Session ω → Session ω} {next : Unit → Action (Session (Journaled ω)) α}
    {otherNext : Unit → Action (Session ω) β} {agree : α → β → Session (Journaled ω) → Prop}
    (same : otherUpdate session.erased = (update session).erased)
    (grows : session.handles.length ≤ (update session).handles.length)
    (mirrored : Mirrored (next ()) (otherNext ()) (update session) agree) :
    Mirrored (Action.change update >>= next) (Action.change otherUpdate >>= otherNext) session
      agree := by
  obtain ⟨reached_eq, known, growsLater, alike⟩ := mirrored
  rw [← same] at reached_eq alike
  exact ⟨reached_eq, known, Nat.le_trans grows growsLater, alike⟩

theorem onFailure {action : Action (Session (Journaled ω)) α} {other : Action (Session ω) β}
    {recovery : Action (Session (Journaled ω)) Unit} {otherRecovery : Action (Session ω) Unit}
    {agree : α → β → Session (Journaled ω) → Prop}
    (mirrored : Mirrored action other session agree)
    (recovers : ∀ reached, session.handles.length ≤ reached.handles.length →
      Mirrors recovery otherRecovery reached) :
    Mirrored (Action.onFailure action recovery) (Action.onFailure other otherRecovery) session
      agree := by
  obtain ⟨result, otherResult, reached, ran, otherRan, known, grows, alike⟩ := mirrored.runs
  cases alike with
  | ok agrees =>
      exact .of_runs (Action.onFailure_of_ok ran) (Action.onFailure_of_ok otherRan) known grows
        (.ok agrees)
  | error =>
      obtain ⟨_, _, last, recovered, otherRecovered, lastKnown, lastGrows, lastAlike⟩ :=
        (recovers reached grows known).runs
      have allGrows := Nat.le_trans grows lastGrows
      cases lastAlike with
      | ok _ =>
          exact .of_runs (Action.onFailure_of_error ran recovered)
            (Action.onFailure_of_error otherRan otherRecovered) lastKnown allGrows .error
      | error =>
          exact .of_runs (Action.onFailure_of_errors ran recovered)
            (Action.onFailure_of_errors otherRan otherRecovered) lastKnown allGrows .error

end Mirrored

end EntitySql
