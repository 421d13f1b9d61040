import EntitySql.Proofs.Session.Operation

/-!
# Accounts of the calls that leave a manager

An account says which list of calls may lead from one world to another.  The
relation `Leads` says of a step where it ends and with which calls; its rules
follow the ways in which steps are put together, so that what a function of
the manager does is found by going through its text once.

Two accounts are used.  The silent one knows nothing of the calls.  The other
one reads them off a journal, which a world can be made to keep.
-/

namespace EntitySql

variable {ω α β : Type}

/-- How a physical transaction ends. -/
inductive Ending where
  | commit
  | rollback
  | release
  deriving DecidableEq, Repr

/-- A call that left the manager, and whether it was done or failed. -/
inductive Entry where
  | opened (done : Bool)
  | closed (done : Bool)
  | disposed (done : Bool)
  | begun (resource : Nat)
  | beginFailed
  | ended (ending : Ending) (resource : Nat) (done : Bool)
  | executed (request : Request) (done : Bool)
  deriving Repr

namespace Entry

/-- Whether the call was done. -/
def done : Entry → Bool
  | opened done | closed done | disposed done | ended _ _ done | executed _ done => done
  | begun _ => true
  | beginFailed => false

theorem none_failed {entries : List Entry} (done : ∀ entry ∈ entries, entry.done = true) :
    ¬∃ entry ∈ entries, entry.done = false := by
  rintro ⟨entry, member, undone⟩
  rw [done entry member] at undone
  cases undone

/-- Whether the call failed to end a physical transaction. -/
def failsToEnd : Entry → Bool
  | .ended _ _ done => !done
  | _ => false

/-- Whether the call was to give up the connection. -/
def isDisposal : Entry → Bool
  | .disposed _ => true
  | _ => false

/-- Whether the call was one to the connection itself. -/
def toConnection : Entry → Bool
  | opened _ | closed _ | disposed _ => true
  | _ => false

end Entry

/-- Which calls may lead from one world to another. -/
structure Account (ω : Type) where
  covers : ω → List Entry → ω → Prop
  still : ∀ world, covers world [] world
  append : ∀ {first middle last entries later},
    covers first entries middle → covers middle later last → covers first (entries ++ later) last

namespace Account

variable {account : Account ω} {session : Session ω}

/-- The step ends with a value, or else with a fault, after calls that the
account covers. -/
def Leads (account : Account ω) (action : Action (Session ω) α) (session : Session ω)
    (returns : List Entry → α → Session ω → Prop)
    (fails : List Entry → Fault → Session ω → Prop) : Prop :=
  ∃ entries, account.covers session.world entries (action session).2.world ∧
    match (action session).1 with
    | .ok value => returns entries value (action session).2
    | .error fault => fails entries fault (action session).2

/-- However the step ends, the calls and the session it reaches have a property. -/
def Leaves (account : Account ω) (action : Action (Session ω) α) (session : Session ω)
    (property : List Entry → Session ω → Prop) : Prop :=
  account.Leads action session (fun entries _ reached => property entries reached)
    (fun entries _ reached => property entries reached)

namespace Leads

variable {returns : List Entry → α → Session ω → Prop}
variable {fails : List Entry → Fault → Session ω → Prop}

theorem returned {action : Action (Session ω) α} {entries : List Entry} {value : α}
    {reached : Session ω} (ran : action session = (.ok value, reached))
    (covered : account.covers session.world entries reached.world)
    (holds : returns entries value reached) : account.Leads action session returns fails := by
  refine ⟨entries, ?_, ?_⟩
  · rw [ran]
    exact covered
  · rw [ran]
    exact holds

theorem failed {action : Action (Session ω) α} {entries : List Entry} {fault : Fault}
    {reached : Session ω} (ran : action session = (.error fault, reached))
    (covered : account.covers session.world entries reached.world)
    (holds : fails entries fault reached) : account.Leads action session returns fails := by
  refine ⟨entries, ?_, ?_⟩
  · rw [ran]
    exact covered
  · rw [ran]
    exact holds

/-- There is no other way to lead somewhere than to return or to fail. -/
theorem ends {action : Action (Session ω) α} (leads : account.Leads action session returns fails) :
    (∃ entries value reached, action session = (.ok value, reached) ∧
      account.covers session.world entries reached.world ∧ returns entries value reached) ∨
    ∃ entries fault reached, action session = (.error fault, reached) ∧
      account.covers session.world entries reached.world ∧ fails entries fault reached := by
  obtain ⟨entries, covered, holds⟩ := leads
  rcases ran : action session with ⟨fault | value, reached⟩
  · rw [ran] at covered holds
    exact .inr ⟨entries, fault, reached, rfl, covered, holds⟩
  · rw [ran] at covered holds
    exact .inl ⟨entries, value, reached, rfl, covered, holds⟩

theorem mono {action : Action (Session ω) α}
    {returnsMore : List Entry → α → Session ω → Prop}
    {failsMore : List Entry → Fault → Session ω → Prop}
    (leads : account.Leads action session returns fails)
    (onReturn : ∀ entries value reached,
      returns entries value reached → returnsMore entries value reached)
    (onFault : ∀ entries fault reached,
      fails entries fault reached → failsMore entries fault reached) :
    account.Leads action session returnsMore failsMore := by
  rcases leads.ends with ⟨entries, value, reached, ran, covered, holds⟩ |
    ⟨entries, fault, reached, ran, covered, holds⟩
  · exact returned ran covered (onReturn entries value reached holds)
  · exact failed ran covered (onFault entries fault reached holds)

/-- Where a step ends is covered by the calls it made. -/
theorem covered {action : Action (Session ω) α}
    (leads : account.Leads action session returns fails) :
    account.Leads action session
      (fun entries value reached =>
        account.covers session.world entries reached.world ∧ returns entries value reached)
      (fun entries fault reached =>
        account.covers session.world entries reached.world ∧ fails entries fault reached) := by
  rcases leads.ends with ⟨entries, value, reached, ran, covered, holds⟩ |
    ⟨entries, fault, reached, ran, covered, holds⟩
  · exact returned ran covered ⟨covered, holds⟩
  · exact failed ran covered ⟨covered, holds⟩

/-- Two steps that agree where they start lead the same way. -/
theorem of_eq {action other : Action (Session ω) α}
    (leads : account.Leads other session returns fails) (same : action session = other session) :
    account.Leads action session returns fails := by
  unfold Leads
  rw [same]
  exact leads

theorem answer {value : α} (holds : returns [] value session) :
    account.Leads (pure value) session returns fails :=
  ⟨[], account.still session.world, holds⟩

theorem fail {fault : Fault} (holds : fails [] fault session) :
    account.Leads (Action.fail fault) session returns fails :=
  ⟨[], account.still session.world, holds⟩

theorem ofExcept {result : Except Fault α}
    (onReturn : ∀ value, result = .ok value → returns [] value session)
    (onFault : ∀ fault, result = .error fault → fails [] fault session) :
    account.Leads (Action.ofExcept result) session returns fails := by
  refine ⟨[], account.still session.world, ?_⟩
  cases result with
  | ok value => exact onReturn value rfl
  | error fault => exact onFault fault rfl

theorem change {returns : List Entry → Unit → Session ω → Prop}
    {update : Session ω → Session ω} (sameWorld : (update session).world = session.world)
    (holds : returns [] () (update session)) :
    account.Leads (Action.change update) session returns fails := by
  refine ⟨[], ?_, holds⟩
  change account.covers session.world [] (update session).world
  rw [sameWorld]
  exact account.still session.world

theorem bind {first : Action (Session ω) β} {next : β → Action (Session ω) α}
    (leads : account.Leads first session
      (fun entries value reached => account.Leads (next value) reached
        (fun later => returns (entries ++ later)) (fun later => fails (entries ++ later)))
      fails) :
    account.Leads (first >>= next) session returns fails := by
  rcases leads.ends with ⟨entries, value, reached, ran, covered, continues⟩ |
    ⟨entries, fault, reached, ran, covered, holds⟩
  · have passed : (first >>= next) session = next value reached := Action.bind_of_ok ran
    rcases continues.ends with ⟨later, _, last, continued, coveredLater, holds⟩ |
      ⟨later, _, last, continued, coveredLater, holds⟩
    · exact returned (passed.trans continued) (account.append covered coveredLater) holds
    · exact failed (passed.trans continued) (account.append covered coveredLater) holds
  · exact failed (Action.bind_of_error ran) covered holds

theorem read_bind {view : Session ω → β} {next : β → Action (Session ω) α}
    (leads : account.Leads (next (view session)) session returns fails) :
    account.Leads (Action.read view >>= next) session returns fails :=
  leads

theorem change_bind {update : Session ω → Session ω} {next : Unit → Action (Session ω) α}
    (sameWorld : (update session).world = session.world)
    (leads : account.Leads (next ()) (update session) returns fails) :
    account.Leads (Action.change update >>= next) session returns fails :=
  bind (change sameWorld leads)

theorem ensuring {action : Action (Session ω) α} {cleanup : Action (Session ω) Unit}
    (leads : account.Leads action session
      (fun entries value reached => account.Leads cleanup reached
        (fun later _ => returns (entries ++ later) value) (fun later => fails (entries ++ later)))
      (fun entries fault reached => account.Leads cleanup reached
        (fun later _ => fails (entries ++ later) fault)
        (fun later => fails (entries ++ later)))) :
    account.Leads (Action.ensuring action cleanup) session returns fails := by
  rcases leads.ends with ⟨entries, value, reached, ran, covered, cleans⟩ |
    ⟨entries, fault, reached, ran, covered, cleans⟩
  · rcases cleans.ends with ⟨later, _, last, cleaned, coveredLater, holds⟩ |
      ⟨later, _, last, cleaned, coveredLater, holds⟩
    · exact returned (Action.ensuring_of_ok ran cleaned)
        (account.append covered coveredLater) holds
    · exact failed (Action.ensuring_of_error ran cleaned)
        (account.append covered coveredLater) holds
  · rcases cleans.ends with ⟨later, _, last, cleaned, coveredLater, holds⟩ |
      ⟨later, _, last, cleaned, coveredLater, holds⟩
    · exact failed (Action.ensuring_of_ok ran cleaned)
        (account.append covered coveredLater) holds
    · exact failed (Action.ensuring_of_error ran cleaned)
        (account.append covered coveredLater) holds

theorem onFailure {action : Action (Session ω) α} {recovery : Action (Session ω) Unit}
    (leads : account.Leads action session returns
      (fun entries fault reached => account.Leads recovery reached
        (fun later _ => fails (entries ++ later) fault)
        (fun later => fails (entries ++ later)))) :
    account.Leads (Action.onFailure action recovery) session returns fails := by
  rcases leads.ends with ⟨entries, value, reached, ran, covered, holds⟩ |
    ⟨entries, fault, reached, ran, covered, recovers⟩
  · exact returned (Action.onFailure_of_ok ran) covered holds
  · rcases recovers.ends with ⟨later, _, last, recovered, coveredLater, holds⟩ |
      ⟨later, _, last, recovered, coveredLater, holds⟩
    · exact failed (Action.onFailure_of_error ran recovered)
        (account.append covered coveredLater) holds
    · exact failed (Action.onFailure_of_errors ran recovered)
        (account.append covered coveredLater) holds

theorem whenever {returns : List Entry → Unit → Session ω → Prop} {condition : Bool}
    {action : Action (Session ω) Unit}
    (holds : condition = true → account.Leads action session returns fails)
    (skipped : condition = false → returns [] () session) :
    account.Leads (Action.whenever condition action) session returns fails := by
  cases condition with
  | true => exact holds rfl
  | false => exact answer (skipped rfl)

end Leads

theorem Leaves.reached {action : Action (Session ω) α}
    {property : List Entry → Session ω → Prop} (leaves : account.Leaves action session property) :
    ∃ entries, account.covers session.world entries (action session).2.world ∧
      property entries (action session).2 := by
  rcases Leads.ends leaves with ⟨entries, _, reached, ran, covered, holds⟩ |
    ⟨entries, _, reached, ran, covered, holds⟩
  · rw [ran]
    exact ⟨entries, covered, holds⟩
  · rw [ran]
    exact ⟨entries, covered, holds⟩

theorem Leaves.mono {action : Action (Session ω) α} {property weaker : List Entry → Session ω → Prop}
    (leaves : account.Leaves action session property)
    (weakens : ∀ entries reached, property entries reached → weaker entries reached) :
    account.Leaves action session weaker :=
  Leads.mono leaves (fun entries _ => weakens entries) fun entries _ => weakens entries

/-- A call leaves all but the world as it was, and the account has an entry for it. -/
def Notes (account : Account ω) (action : Action (Session ω) α)
    (entry : Except Fault α → Entry) : Prop :=
  ∀ session, ∃ world, (action session).2 = { session with world } ∧
    account.covers session.world [entry (action session).1] world

theorem Notes.leads_covered {action : Action (Session ω) α} {entry : Except Fault α → Entry}
    {returns : List Entry → α → Session ω → Prop}
    {fails : List Entry → Fault → Session ω → Prop}
    (notes : account.Notes action entry)
    (onReturn : ∀ value world, account.covers session.world [entry (.ok value)] world →
      returns [entry (.ok value)] value { session with world })
    (onFault : ∀ fault world, account.covers session.world [entry (.error fault)] world →
      fails [entry (.error fault)] fault { session with world }) :
    account.Leads action session returns fails := by
  obtain ⟨world, reached, covered⟩ := notes session
  refine ⟨[entry (action session).1], ?_, ?_⟩
  · rw [reached]
    exact covered
  · rw [reached]
    revert covered
    cases (action session).1 with
    | ok value => exact onReturn value world
    | error fault => exact onFault fault world

theorem Notes.leads {action : Action (Session ω) α} {entry : Except Fault α → Entry}
    {returns : List Entry → α → Session ω → Prop}
    {fails : List Entry → Fault → Session ω → Prop}
    (notes : account.Notes action entry)
    (onReturn : ∀ value world, returns [entry (.ok value)] value { session with world })
    (onFault : ∀ fault world, fails [entry (.error fault)] fault { session with world }) :
    account.Leads action session returns fails :=
  notes.leads_covered (fun value world _ => onReturn value world)
    (fun fault world _ => onFault fault world)

/-- The entry for the begin of a physical transaction. -/
def beginning : Except Fault Nat → Entry
  | .ok resource => .begun resource
  | .error _ => .beginFailed

/-- The account has an entry for every call of an environment. -/
structure Keeps (account : Account ω) (environment : Environment ω) : Prop where
  openConnection : account.Notes environment.openConnection fun result => .opened result.isOk
  closeConnection : account.Notes environment.closeConnection fun result => .closed result.isOk
  beginTransaction : ∀ level, account.Notes (environment.beginTransaction level) beginning
  disposeConnection :
    account.Notes environment.disposeConnection fun result => .disposed result.isOk
  commitResource : ∀ resource, account.Notes (environment.commitResource resource)
    fun result => .ended .commit resource result.isOk
  rollbackResource : ∀ resource, account.Notes (environment.rollbackResource resource)
    fun result => .ended .rollback resource result.isOk
  closeResource : ∀ resource, account.Notes (environment.closeResource resource)
    fun result => .ended .release resource result.isOk
  run : ∀ request, account.Notes (environment.run request)
    fun result => .executed request result.isOk

/-- A call that reaches only the world is noted if what it does to the world is covered. -/
theorem notes_outward {call : Action ω α} {entry : Except Fault α → Entry}
    (covered : ∀ world, account.covers world [entry (call world).1] (call world).2) :
    account.Notes (Session.outward call) entry :=
  fun session => ⟨(call session.world).2, rfl, covered session.world⟩

/-- The account that covers everything. -/
def silent : Account ω where
  covers _ _ _ := True
  still _ := trivial
  append _ _ := trivial

theorem silent_keeps (outside : Outside ω) : silent.Keeps outside.environment where
  openConnection := notes_outward fun _ => trivial
  closeConnection := notes_outward fun _ => trivial
  beginTransaction _ := notes_outward fun _ => trivial
  disposeConnection := notes_outward fun _ => trivial
  commitResource _ := notes_outward fun _ => trivial
  rollbackResource _ := notes_outward fun _ => trivial
  closeResource _ := notes_outward fun _ => trivial
  run _ := notes_outward fun _ => trivial

end Account

end EntitySql
