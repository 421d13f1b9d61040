import EntitySql.Proofs.Session.Journal

/-!
# Trails of calls

A trail leads from one world to another by calls, each made in the world that
the call before it left.  As an account it tells the most: the worlds in
between can be read off the calls.
-/

namespace EntitySql

variable {ω α : Type}

/-- A call leads from one world to another, and is done or fails. -/
structure Ran (call : Action ω α) (before : ω) (done : Bool) (after : ω) : Prop where
  isOk_eq : (call before).1.isOk = done
  reached_eq : (call before).2 = after

theorem Ran.noted {call : Journaled ω → Action ω α} {before after : Journaled ω} {done : Bool}
    (entry : Bool → Entry)
    (ran : Ran (Journaled.noting call fun result => entry result.isOk) before done after) :
    after.journal = before.journal ++ [entry done] := by
  obtain ⟨rfl, rfl⟩ := ran
  rfl

theorem Ran.answered {call : Action ω α} {before after : ω} (ran : Ran call before true after) :
    ∃ value, call before = (.ok value, after) := by
  obtain ⟨isOk, rfl⟩ := ran
  rcases ended : call before with ⟨fault | value, reached⟩
  · rw [ended] at isOk
    cases isOk
  · exact ⟨value, rfl⟩

theorem Journaled.beginning_result (call : Action ω Nat) (state : Journaled ω) :
    (beginning call state).2.journal =
        state.journal ++ [Account.beginning (beginning call state).1] ∧
      (call state.world).1.isOk = (beginning call state).1.isOk ∧
      (call state.world).2 = (beginning call state).2.world := by
  unfold beginning
  rcases call state.world with ⟨fault | name, world⟩
  · exact ⟨rfl, rfl, rfl⟩
  · exact ⟨rfl, rfl, rfl⟩

/-- The call that an entry stands for leads from one world to another. -/
inductive Outside.Made (outside : Outside ω) (before : ω) : Entry → ω → Prop where
  | opened {done : Bool} {after : ω} (ran : Ran outside.openConnection before done after) :
      Made outside before (.opened done) after
  | closed {done : Bool} {after : ω} (ran : Ran outside.closeConnection before done after) :
      Made outside before (.closed done) after
  | disposed {done : Bool} {after : ω} (ran : Ran outside.disposeConnection before done after) :
      Made outside before (.disposed done) after
  | begun {level : Option IsolationLevel} {resource : Nat} {after : ω}
      (ran : outside.beginTransaction level before = (.ok resource, after)) :
      Made outside before (.begun resource) after
  | beginFailed {level : Option IsolationLevel} {fault : Fault} {after : ω}
      (ran : outside.beginTransaction level before = (.error fault, after)) :
      Made outside before .beginFailed after
  | committed {resource : Nat} {done : Bool} {after : ω}
      (ran : Ran (outside.commitResource resource) before done after) :
      Made outside before (.ended .commit resource done) after
  | rolledBack {resource : Nat} {done : Bool} {after : ω}
      (ran : Ran (outside.rollbackResource resource) before done after) :
      Made outside before (.ended .rollback resource done) after
  | released {resource : Nat} {done : Bool} {after : ω}
      (ran : Ran (outside.closeResource resource) before done after) :
      Made outside before (.ended .release resource done) after
  | executed {request : Request} {done : Bool} {after : ω}
      (ran : Ran (outside.run request) before done after) :
      Made outside before (.executed request done) after

/-- The calls that entries stand for lead one after the other from one world to another. -/
inductive Outside.Trail (outside : Outside ω) : ω → List Entry → ω → Prop where
  | nil {world : ω} : Trail outside world [] world
  | cons {before middle after : ω} {entry : Entry} {entries : List Entry}
      (made : outside.Made before entry middle) (rest : outside.Trail middle entries after) :
      Trail outside before (entry :: entries) after

namespace Outside

variable {outside : Outside ω}

theorem Made.of_begin (level : Option IsolationLevel) (world : ω) :
    outside.Made world (Account.beginning (outside.beginTransaction level world).1)
      (outside.beginTransaction level world).2 := by
  rcases ran : outside.beginTransaction level world with ⟨fault | resource, after⟩
  · exact .beginFailed ran
  · exact .begun ran

theorem Made.trail {before after : ω} {entry : Entry} (made : outside.Made before entry after) :
    outside.Trail before [entry] after :=
  .cons made .nil

theorem Trail.made {before after : ω} {entry : Entry}
    (trail : outside.Trail before [entry] after) : outside.Made before entry after := by
  cases trail with
  | cons made rest =>
      cases rest
      exact made

theorem Trail.append {before middle after : ω} {entries later : List Entry}
    (first : outside.Trail before entries middle) (second : outside.Trail middle later after) :
    outside.Trail before (entries ++ later) after := by
  induction first with
  | nil => exact second
  | cons made _ ih => exact .cons made (ih second)

theorem Made.journal_eq {before after : Journaled ω} {entry : Entry}
    (made : outside.journaled.Made before entry after) :
    after.journal = before.journal ++ [entry] := by
  have began : ∀ {level : Option IsolationLevel} {result : Except Fault Nat},
      outside.journaled.beginTransaction level before = (result, after) →
        after.journal = before.journal ++ [Account.beginning result] := by
    intro level result ran
    have noted := (Journaled.beginning_result (outside.beginTransaction level) before).1
    change (outside.journaled.beginTransaction level before).2.journal =
      before.journal ++
        [Account.beginning (outside.journaled.beginTransaction level before).1] at noted
    rwa [ran] at noted
  cases made with
  | opened ran => exact ran.noted .opened
  | closed ran => exact ran.noted .closed
  | disposed ran => exact ran.noted .disposed
  | begun ran => exact began ran
  | beginFailed ran => exact began ran
  | committed ran => exact ran.noted (.ended .commit _)
  | rolledBack ran => exact ran.noted (.ended .rollback _)
  | released ran => exact ran.noted (.ended .release _)
  | executed ran => exact ran.noted (.executed _)

/-- A world that keeps a journal writes down every call. -/
theorem Trail.journal_eq {before after : Journaled ω} {entries : List Entry}
    (trail : outside.journaled.Trail before entries after) :
    after.journal = before.journal ++ entries := by
  induction trail with
  | nil => exact (List.append_nil _).symm
  | cons made _ ih => rw [ih, made.journal_eq, List.append_assoc, List.singleton_append]

end Outside

/-- The account that covers trails. -/
def Account.trail (outside : Outside ω) : Account ω where
  covers := outside.Trail
  still _ := .nil
  append := Outside.Trail.append

theorem Account.trail_keeps (outside : Outside ω) :
    (Account.trail outside).Keeps outside.environment where
  openConnection := notes_outward fun _ => Outside.Made.trail (.opened ⟨rfl, rfl⟩)
  closeConnection := notes_outward fun _ => Outside.Made.trail (.closed ⟨rfl, rfl⟩)
  beginTransaction level := notes_outward fun world => (Outside.Made.of_begin level world).trail
  disposeConnection := notes_outward fun _ => Outside.Made.trail (.disposed ⟨rfl, rfl⟩)
  commitResource _ := notes_outward fun _ => Outside.Made.trail (.committed ⟨rfl, rfl⟩)
  rollbackResource _ := notes_outward fun _ => Outside.Made.trail (.rolledBack ⟨rfl, rfl⟩)
  closeResource _ := notes_outward fun _ => Outside.Made.trail (.released ⟨rfl, rfl⟩)
  run _ := notes_outward fun _ => Outside.Made.trail (.executed ⟨rfl, rfl⟩)

end EntitySql
