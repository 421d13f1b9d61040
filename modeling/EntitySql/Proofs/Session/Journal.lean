import EntitySql.Proofs.Session.Account

/-!
# Journals

Any world can be made to keep a journal of the calls made to it.  In a
journal, physical transactions are numbered in the order in which they were
begun, so that every begin brings a new one, whatever the world calls it.
-/

namespace EntitySql

variable {ω α : Type}

/-- The number of the physical transaction that a call began. -/
def Entry.beginning : Entry → Option Nat
  | .begun resource => some resource
  | _ => none

/-- The physical transactions that a journal has seen begin. -/
def begunIn (journal : List Entry) : List Nat := journal.filterMap Entry.beginning

/-- A world with a journal of the calls made to it, and its own names for the
physical transactions, by their numbers. -/
structure Journaled (ω : Type) where
  world : ω
  names : List Nat := []
  journal : List Entry := []

namespace Journaled

/-- The world's own name for a physical transaction. -/
def nameOf (state : Journaled ω) (resource : Nat) : Nat := (state.names[resource]?).getD 0

/-- Makes a call and notes it down. -/
def noting (call : Journaled ω → Action ω α) (entry : Except Fault α → Entry) :
    Action (Journaled ω) α := fun state =>
  let (result, world) := call state state.world
  (result, { state with world, journal := state.journal ++ [entry result] })

/-- Begins a physical transaction, which gets the next number. -/
def beginning (call : Action ω Nat) : Action (Journaled ω) Nat := fun state =>
  match call state.world with
  | (.ok name, world) =>
    (.ok state.names.length,
      { world
        names := state.names ++ [name]
        journal := state.journal ++ [.begun state.names.length] })
  | (.error fault, world) =>
    (.error fault, { state with world, journal := state.journal ++ [.beginFailed] })

end Journaled

open Journaled in
/-- The same world, keeping a journal. -/
def Outside.journaled (outside : Outside ω) : Outside (Journaled ω) where
  connectionState state := outside.connectionState state.world
  openConnection := noting (fun _ => outside.openConnection) fun result => .opened result.isOk
  closeConnection := noting (fun _ => outside.closeConnection) fun result => .closed result.isOk
  beginTransaction level := beginning (outside.beginTransaction level)
  disposeConnection :=
    noting (fun _ => outside.disposeConnection) fun result => .disposed result.isOk
  commitResource resource :=
    noting (fun state => outside.commitResource (state.nameOf resource))
      fun result => .ended .commit resource result.isOk
  rollbackResource resource :=
    noting (fun state => outside.rollbackResource (state.nameOf resource))
      fun result => .ended .rollback resource result.isOk
  closeResource resource :=
    noting (fun state => outside.closeResource (state.nameOf resource))
      fun result => .ended .release resource result.isOk
  run request :=
    noting
      (fun state =>
        outside.run { request with transaction := request.transaction.map state.nameOf })
      fun result => .executed request result.isOk
  elapse state := { state with world := outside.elapse state.world }

namespace Journaled

/-- Physical transactions are numbered in the order of the journal. -/
def Numbered (state : Journaled ω) : Prop :=
  begunIn state.journal = List.range state.names.length

/-- The account that reads calls off the journal. -/
def account : Account (Journaled ω) where
  covers before entries after :=
    after.journal = before.journal ++ entries ∧ (before.Numbered → after.Numbered)
  still _ := ⟨(List.append_nil _).symm, id⟩
  append first second :=
    ⟨by rw [second.1, first.1, List.append_assoc], second.2 ∘ first.2⟩

/-- Entries other than a begin leave the numbers alone. -/
theorem noting_covered {call : Journaled ω → Action ω α} {entry : Except Fault α → Entry}
    (noBegin : ∀ result, (entry result).beginning = none) (state : Journaled ω) :
    account.covers state [entry (noting call entry state).1] (noting call entry state).2 := by
  refine ⟨rfl, fun numbered => ?_⟩
  change begunIn (state.journal ++ [entry (call state state.world).1]) = _
  rw [begunIn, List.filterMap_append, ← begunIn, numbered]
  simp [noBegin, noting]

theorem beginning_covered (call : Action ω Nat) (state : Journaled ω) :
    account.covers state [Account.beginning (beginning call state).1]
      (beginning call state).2 := by
  unfold beginning
  rcases call state.world with ⟨fault | name, world⟩
  · refine ⟨rfl, fun numbered => ?_⟩
    change begunIn (state.journal ++ [.beginFailed]) = List.range state.names.length
    rw [begunIn, List.filterMap_append, ← begunIn, numbered]
    simp [Entry.beginning]
  · refine ⟨rfl, fun numbered => ?_⟩
    change begunIn (state.journal ++ [.begun state.names.length]) =
      List.range (state.names ++ [name]).length
    rw [begunIn, List.filterMap_append, ← begunIn, numbered, List.length_append]
    simp [Entry.beginning, List.range_succ]

theorem account_keeps (outside : Outside ω) :
    account.Keeps outside.journaled.environment where
  openConnection := Account.notes_outward (noting_covered fun _ => rfl)
  closeConnection := Account.notes_outward (noting_covered fun _ => rfl)
  beginTransaction level := Account.notes_outward (beginning_covered (outside.beginTransaction level))
  disposeConnection := Account.notes_outward (noting_covered fun _ => rfl)
  commitResource _ := Account.notes_outward (noting_covered fun _ => rfl)
  rollbackResource _ := Account.notes_outward (noting_covered fun _ => rfl)
  closeResource _ := Account.notes_outward (noting_covered fun _ => rfl)
  run _ := Account.notes_outward (noting_covered fun _ => rfl)

end Journaled

/-- The journal of a run from the start. -/
def Outside.journalOf (outside : Outside ω) (world : ω) (operations : List Operation) :
    List Entry :=
  (outside.journaled.after (Session.fresh { world }) operations).world.journal

end EntitySql
