import EntitySql.Driver.Running
import Mathlib.Data.List.Perm.Basic

/-!
# Logs of the calls to a driver

Any driver can be made to note down the calls made to it, each with what it
raised.  The relation `Logs` says of an action on the driver with a log that it
does what the bare one does, where that ends, and what is noted on the way; its
rules follow the ways in which actions are put together.
-/

namespace EntitySql

variable {σ α β : Type}

/-- What a result raised, if it is a fault. -/
def Fault.raised : Except Fault α → Option Fault
  | .ok _ => none
  | .error fault => some fault

namespace Driver

inductive Call where
  | connect
  | disconnect (connection : Nat)
  | isolate (connection : Nat) (level : IsolationLevel)
  | begin (connection : Nat)
  | commit (connection : Nat)
  | rollback (connection : Nat)
  | execute (connection : Nat) (sql : String)
  | openCursor (connection : Nat)
  | executeCursor (cursor : Nat) (sql : String)
  | readResult (cursor : Nat)
  | nextResult (cursor : Nat)
  | closeCursor (cursor : Nat)
  | commitTransaction (transaction : Nat)
  | rollbackTransaction (transaction : Nat)
  | closeTransaction (transaction : Nat)
  deriving DecidableEq, Repr

/-- Whether the call commits or rolls back, on the connection or through a transaction. -/
def Call.isEnding : Call → Bool
  | commit _ | rollback _ | commitTransaction _ | rollbackTransaction _ | closeTransaction _ => true
  | _ => false

/-- The cursor that the call is to close. -/
def Call.closed : Call → Option Nat
  | closeCursor cursor => some cursor
  | _ => none

/-- A call, what it raised, and the cursor that it opened.  Reading a result raises what
naming its rows by their columns raises. -/
structure Entry where
  call : Call
  fault : Option Fault := none
  opened : Option Nat := none

/-- The entry for a call that opens nothing. -/
def Entry.plain (call : Call) (result : Except Fault α) : Entry := ⟨call, Fault.raised result, none⟩

def Entry.opening (connection : Nat) (result : Except Fault Nat) : Entry :=
  ⟨.openCursor connection, Fault.raised result, result.toOption⟩

def Entry.reading (cursor : Nat) (result : Except Fault ResultSet) : Entry :=
  .plain (.readResult cursor) (result >>= ({} : Tally).addSet)

/-- The state of a driver with a log of the calls made to it. -/
structure Logged (σ : Type) where
  state : σ
  log : List Entry := []

/-- Makes a call and notes it down. -/
def noting (call : Action σ α) (entry : Except Fault α → Entry) : Action (Logged σ) α :=
  fun logged =>
    let (result, state) := call logged.state
    (result, { state, log := logged.log ++ [entry result] })

/-- The same driver, keeping a log. -/
def logged (driver : Driver σ) : Driver (Logged σ) where
  held logged := driver.held logged.state
  hold connection logged := { logged with state := driver.hold connection logged.state }
  isClosed logged := driver.isClosed logged.state
  isInvalidated logged := driver.isInvalidated logged.state
  inTransaction logged := driver.inTransaction logged.state
  connect := noting driver.connect (.plain .connect)
  disconnect connection := noting (driver.disconnect connection) (.plain (.disconnect connection))
  setIsolation connection level :=
    noting (driver.setIsolation connection level) (.plain (.isolate connection level))
  beginTransaction connection :=
    noting (driver.beginTransaction connection) (.plain (.begin connection))
  commitConnection connection :=
    noting (driver.commitConnection connection) (.plain (.commit connection))
  rollbackConnection connection :=
    noting (driver.rollbackConnection connection) (.plain (.rollback connection))
  execute connection sql parameters :=
    noting (driver.execute connection sql parameters) (.plain (.execute connection sql))
  openCursor connection := noting (driver.openCursor connection) (.opening connection)
  executeCursor cursor sql parameters :=
    noting (driver.executeCursor cursor sql parameters) (.plain (.executeCursor cursor sql))
  readResult cursor := noting (driver.readResult cursor) (.reading cursor)
  nextResult cursor := noting (driver.nextResult cursor) (.plain (.nextResult cursor))
  closeCursor cursor := noting (driver.closeCursor cursor) (.plain (.closeCursor cursor))
  commitTransaction transaction :=
    noting (driver.commitTransaction transaction) (.plain (.commitTransaction transaction))
  rollbackTransaction transaction :=
    noting (driver.rollbackTransaction transaction) (.plain (.rollbackTransaction transaction))
  closeTransaction transaction :=
    noting (driver.closeTransaction transaction) (.plain (.closeTransaction transaction))
  pending logged := driver.pending logged.state
  pending_readResult cursor logged := driver.pending_readResult cursor logged.state
  pending_nextResult cursor logged := driver.pending_nextResult cursor logged.state

/-- An action on a driver with a log does what the bare one does and notes down calls.  It ends
with a value, or else with a fault, after these calls. -/
def Logs (action : Action (Logged σ) α) (bare : Action σ α) (state : σ)
    (returns : List Entry → α → σ → Prop) (fails : List Entry → Fault → σ → Prop) : Prop :=
  ∀ log, ∃ entries, action ⟨state, log⟩ = ((bare state).1, ⟨(bare state).2, log ++ entries⟩) ∧
    match (bare state).1 with
    | .ok value => returns entries value (bare state).2
    | .error fault => fails entries fault (bare state).2

namespace Logs

variable {action : Action (Logged σ) α} {bare : Action σ α} {state : σ}
variable {returns : List Entry → α → σ → Prop} {fails : List Entry → Fault → σ → Prop}

theorem noted {entry : Except Fault α → Entry}
    (onReturn : ∀ value reached, bare state = (.ok value, reached) →
      returns [entry (.ok value)] value reached)
    (onFault : ∀ fault reached, bare state = (.error fault, reached) →
      fails [entry (.error fault)] fault reached) :
    Logs (noting bare entry) bare state returns fails := by
  intro log
  refine ⟨[entry (bare state).1], rfl, ?_⟩
  rcases ran : bare state with ⟨fault | value, reached⟩
  · exact onFault fault reached ran
  · exact onReturn value reached ran

theorem answer {value : α} (holds : returns [] value state) :
    Logs (pure value) (pure value) state returns fails := fun log =>
  ⟨[], by rw [List.append_nil]; rfl, holds⟩

theorem ofExcept {result : Except Fault α}
    (onReturn : ∀ value, result = .ok value → returns [] value state)
    (onFault : ∀ fault, result = .error fault → fails [] fault state) :
    Logs (Action.ofExcept result) (Action.ofExcept result) state returns fails := by
  intro log
  refine ⟨[], by rw [List.append_nil]; rfl, ?_⟩
  cases result with
  | ok value => exact onReturn value rfl
  | error fault => exact onFault fault rfl

theorem mono {returnsMore : List Entry → α → σ → Prop} {failsMore : List Entry → Fault → σ → Prop}
    (logs : Logs action bare state returns fails)
    (onReturn : ∀ entries value reached, returns entries value reached →
      returnsMore entries value reached)
    (onFault : ∀ entries fault reached, fails entries fault reached →
      failsMore entries fault reached) :
    Logs action bare state returnsMore failsMore := by
  intro log
  obtain ⟨entries, ran, holds⟩ := logs log
  refine ⟨entries, ran, ?_⟩
  rcases ended : bare state with ⟨fault | value, reached⟩
  · rw [ended] at holds
    exact onFault entries fault reached holds
  · rw [ended] at holds
    exact onReturn entries value reached holds

/-- What is said of the value may use that the bare action ends with it. -/
theorem ran (logs : Logs action bare state returns fails) :
    Logs action bare state
      (fun entries value reached =>
        bare state = (.ok value, reached) ∧ returns entries value reached)
      fails := by
  intro log
  obtain ⟨entries, ran, holds⟩ := logs log
  refine ⟨entries, ran, ?_⟩
  rcases ended : bare state with ⟨fault | value, reached⟩
  · rw [ended] at holds
    exact holds
  · rw [ended] at holds
    exact ⟨rfl, holds⟩

theorem bind {first : Action (Logged σ) β} {bareFirst : Action σ β}
    {next : β → Action (Logged σ) α} {bareNext : β → Action σ α}
    (logs : Logs first bareFirst state
      (fun entries value reached => Logs (next value) (bareNext value) reached
        (fun later => returns (entries ++ later)) (fun later => fails (entries ++ later)))
      fails) :
    Logs (first >>= next) (bareFirst >>= bareNext) state returns fails := by
  intro log
  obtain ⟨entries, ran, holds⟩ := logs log
  rcases ended : bareFirst state with ⟨fault | value, reached⟩
  · rw [ended] at ran holds
    rw [Action.bind_of_error ran, Action.bind_of_error ended]
    exact ⟨entries, rfl, holds⟩
  · rw [ended] at ran holds
    rw [Action.bind_of_ok ran, Action.bind_of_ok ended]
    obtain ⟨later, continued, last⟩ := holds (log ++ entries)
    exact ⟨entries ++ later, by rw [continued, List.append_assoc], last⟩

/-- The first of two actions is known to answer without a call. -/
theorem known {first : Action (Logged σ) β} {bareFirst : Action σ β}
    {next : β → Action (Logged σ) α} {bareNext : β → Action σ α} (value : β)
    (bareAnswers : bareFirst state = (.ok value, state))
    (answers : ∀ log, first ⟨state, log⟩ = (.ok value, ⟨state, log⟩))
    (logs : Logs (next value) (bareNext value) state returns fails) :
    Logs (first >>= next) (bareFirst >>= bareNext) state returns fails := by
  intro log
  rw [Action.bind_of_ok (answers log), Action.bind_of_ok bareAnswers]
  exact logs log

theorem ensuring {cleanup : Action (Logged σ) Unit} {bareCleanup : Action σ Unit}
    (logs : Logs action bare state
      (fun entries value reached => Logs cleanup bareCleanup reached
        (fun later _ => returns (entries ++ later) value) (fun later => fails (entries ++ later)))
      (fun entries fault reached => Logs cleanup bareCleanup reached
        (fun later _ => fails (entries ++ later) fault) (fun later => fails (entries ++ later)))) :
    Logs (Action.ensuring action cleanup) (Action.ensuring bare bareCleanup) state returns
      fails := by
  intro log
  obtain ⟨entries, ran, holds⟩ := logs log
  rcases ended : bare state with ⟨fault | value, reached⟩
  all_goals
    rw [ended] at ran holds
    obtain ⟨later, cleaned, last⟩ := holds (log ++ entries)
    rcases cleanedBare : bareCleanup reached with ⟨other | _, final⟩
    all_goals rw [cleanedBare] at cleaned last
  · rw [Action.ensuring_of_error ran cleaned, Action.ensuring_of_error ended cleanedBare]
    exact ⟨entries ++ later, by rw [List.append_assoc], last⟩
  · rw [Action.ensuring_of_ok ran cleaned, Action.ensuring_of_ok ended cleanedBare]
    exact ⟨entries ++ later, by rw [List.append_assoc], last⟩
  · rw [Action.ensuring_of_error ran cleaned, Action.ensuring_of_error ended cleanedBare]
    exact ⟨entries ++ later, by rw [List.append_assoc], last⟩
  · rw [Action.ensuring_of_ok ran cleaned, Action.ensuring_of_ok ended cleanedBare]
    exact ⟨entries ++ later, by rw [List.append_assoc], last⟩

theorem onFailure {recovery : Action (Logged σ) Unit} {bareRecovery : Action σ Unit}
    (logs : Logs action bare state returns
      (fun entries fault reached => Logs recovery bareRecovery reached
        (fun later _ => fails (entries ++ later) fault) (fun later => fails (entries ++ later)))) :
    Logs (Action.onFailure action recovery) (Action.onFailure bare bareRecovery) state returns
      fails := by
  intro log
  obtain ⟨entries, ran, holds⟩ := logs log
  rcases ended : bare state with ⟨fault | value, reached⟩
  · rw [ended] at ran holds
    obtain ⟨later, recovered, last⟩ := holds (log ++ entries)
    rcases recoveredBare : bareRecovery reached with ⟨other | _, final⟩
    · rw [recoveredBare] at recovered last
      rw [Action.onFailure_of_errors ran recovered, Action.onFailure_of_errors ended recoveredBare]
      exact ⟨entries ++ later, by rw [List.append_assoc], last⟩
    · rw [recoveredBare] at recovered last
      rw [Action.onFailure_of_error ran recovered, Action.onFailure_of_error ended recoveredBare]
      exact ⟨entries ++ later, by rw [List.append_assoc], last⟩
  · rw [ended] at ran holds
    rw [Action.onFailure_of_ok ran, Action.onFailure_of_ok ended]
    exact ⟨entries, rfl, holds⟩

end Logs

end Driver

end EntitySql
