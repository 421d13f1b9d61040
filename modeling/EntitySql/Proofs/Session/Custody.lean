import EntitySql.Proofs.Session.Erasure
import EntitySql.Proofs.Session.Samples
import EntitySql.Proofs.Session.Trail
import Mathlib.Data.List.Infix

/-!
# Custody of the connection

Callers may hold the connection open, a unit of work opens it if it finds it
closed, and so does a statement, and each of them closes only what it has
opened.  So, as long as no call fails and the connection does not break, the
connection is open exactly while the caller holds it or a transaction is
active.
-/

namespace EntitySql

open Session

variable {ω : Type}

/-! ## What the connection reports -/

/-- A call leaves the connection as it is, if it succeeds. -/
def Outside.Spares {α : Type} (outside : Outside ω) (call : Action ω α) : Prop :=
  ∀ world, (call world).1.isOk = true →
    outside.connectionState (call world).2 = outside.connectionState world

/-- The connection reports what has been done with it: it is open when it has
been opened, closed when it has been closed, and left as it is by work on it.
While the world is left to itself, it may break. -/
structure Outside.Truthful (outside : Outside ω) : Prop where
  opens : ∀ world, (outside.openConnection world).1.isOk = true →
    outside.connectionState (outside.openConnection world).2 = .opened
  closes : ∀ world, (outside.closeConnection world).1.isOk = true →
    outside.connectionState (outside.closeConnection world).2 = .closed
  begins : ∀ level, outside.Spares (outside.beginTransaction level)
  commits : ∀ resource, outside.Spares (outside.commitResource resource)
  rollsBack : ∀ resource, outside.Spares (outside.rollbackResource resource)
  releases : ∀ resource, outside.Spares (outside.closeResource resource)
  runs : ∀ request, outside.Spares (outside.run request)
  elapses : ∀ world, outside.connectionState (outside.elapse world) ≠ .broken →
    outside.connectionState (outside.elapse world) = outside.connectionState world

theorem ConnectionState.eq_of_opened_iff {first second : ConnectionState}
    (firstIntact : first ≠ .broken) (secondIntact : second ≠ .broken)
    (same : first = .opened ↔ second = .opened) : first = second := by
  cases first with
  | opened => exact (same.mp rfl).symm
  | broken => exact absurd rfl firstIntact
  | closed =>
      cases second with
      | closed => rfl
      | opened => cases same.mpr rfl
      | broken => exact absurd rfl secondIntact

/-- What the connection reports after one more call that was done. -/
def Entry.report (reported : ConnectionState) : Entry → ConnectionState
  | .opened _ => .opened
  | .closed _ => .closed
  | _ => reported

namespace Outside

variable {outside : Outside ω}

theorem Truthful.journaled (truthful : outside.Truthful) : outside.journaled.Truthful where
  opens state := truthful.opens state.world
  closes state := truthful.closes state.world
  begins level state isOk := by
    obtain ⟨_, isOk_eq, world_eq⟩ :=
      Journaled.beginning_result (outside.beginTransaction level) state
    have spares := truthful.begins level state.world (isOk_eq.trans isOk)
    rwa [world_eq] at spares
  commits resource state := truthful.commits _ state.world
  rollsBack resource state := truthful.rollsBack _ state.world
  releases resource state := truthful.releases _ state.world
  runs request state := truthful.runs _ state.world
  elapses state := truthful.elapses state.world

theorem Made.reported {before after : ω} {entry : Entry} (truthful : outside.Truthful)
    (made : outside.Made before entry after) (done : entry.done = true)
    (noDisposal : entry.isDisposal = false) :
    outside.connectionState after = entry.report (outside.connectionState before) := by
  have spared : ∀ {α : Type} {call : Action ω α}, outside.Spares call → Ran call before true after →
      outside.connectionState after = outside.connectionState before := by
    rintro α call spares ⟨isOk, rfl⟩
    exact spares before isOk
  cases made with
  | opened ran =>
      obtain ⟨isOk, rfl⟩ := ran
      exact truthful.opens before (isOk.trans done)
  | closed ran =>
      obtain ⟨isOk, rfl⟩ := ran
      exact truthful.closes before (isOk.trans done)
  | disposed _ => cases noDisposal
  | @begun level resource _ ran =>
      exact spared (truthful.begins level) ⟨by rw [ran]; rfl, by rw [ran]⟩
  | beginFailed _ => cases done
  | committed ran =>
      obtain rfl : _ = true := done
      exact spared (truthful.commits _) ran
  | rolledBack ran =>
      obtain rfl : _ = true := done
      exact spared (truthful.rollsBack _) ran
  | released ran =>
      obtain rfl : _ = true := done
      exact spared (truthful.releases _) ran
  | executed ran =>
      obtain rfl : _ = true := done
      exact spared (truthful.runs _) ran

theorem Trail.reported {before after : ω} {entries : List Entry} (truthful : outside.Truthful)
    (trail : outside.Trail before entries after) (done : ∀ entry ∈ entries, entry.done = true)
    (noDisposal : ∀ entry ∈ entries, entry.isDisposal = false) :
    outside.connectionState after = entries.foldl Entry.report (outside.connectionState before) := by
  induction trail with
  | nil => rfl
  | cons made _ ih =>
      obtain ⟨doneFirst, doneRest⟩ := List.forall_mem_cons.mp done
      obtain ⟨keptFirst, keptRest⟩ := List.forall_mem_cons.mp noDisposal
      rw [ih doneRest keptRest, made.reported truthful doneFirst keptFirst, List.foldl_cons]

end Outside

/-! ## Who keeps the connection open -/

/-- Whether the caller holds the connection open after one more operation.  An open
that has opened the connection takes hold of it, and a close that returns lets
go of it. -/
def Outside.hold (outside : Outside ω) (held : Bool) (session : Session ω) : Operation → Bool
  | .openConnection =>
    match (outside.environment.openIfNeeded session).1 with
    | .ok opened => opened || held
    | .error _ => held
  | .close =>
    match (outside.environment.close session).1 with
    | .ok _ => false
    | .error _ => held
  | _ => held

theorem Environment.close_refused {environment : Environment ω} {session : Session ω}
    (live : session.manager.live ≠ []) :
    environment.close session = (.error (.resource .closeDuringTransaction), session) := by
  have read : Action.read (fun session => session.manager.live) session =
      (.ok session.manager.live, session) := rfl
  obtain ⟨root, rest, levels⟩ := List.exists_cons_of_ne_nil live
  rw [close, Action.bind_of_ok read, levels]
  rfl

/-- The connection is open exactly while the caller holds it or a unit of work is
active, and a unit of work has it to itself exactly if the caller does not hold it. -/
structure Session.Custody (outside : Outside ω) (held : Bool) (session : Session ω) : Prop where
  opened_iff : outside.connectionState session.world = .opened ↔
    held = true ∨ session.manager.live ≠ []
  owns_iff : session.manager.live ≠ [] → (session.manager.ownsConnection = true ↔ held = false)

namespace Session.Custody

variable {outside : Outside ω} {held : Bool} {session reached : Session ω} {entries : List Entry}

theorem opened (custody : session.Custody outside held) (live : session.manager.live ≠ []) :
    outside.connectionState session.world = .opened :=
  custody.opened_iff.mpr (.inr live)

/-- Nothing changes as long as the connection is left alone and no unit of work
begins or ends. -/
theorem of_levels (custody : session.Custody outside held)
    (reported_eq :
      outside.connectionState reached.world = outside.connectionState session.world)
    (live_iff : reached.manager.live = [] ↔ session.manager.live = [])
    (owns_eq : reached.manager.ownsConnection = session.manager.ownsConnection) :
    reached.Custody outside held where
  opened_iff := by
    rw [reported_eq, custody.opened_iff, Ne, Ne, live_iff]
  owns_iff live := by
    rw [owns_eq]
    exact custody.owns_iff fun noneLive => live (live_iff.mpr noneLive)

theorem beside (custody : session.Custody outside held) (beside : session.Beside reached)
    (reported_eq :
      outside.connectionState reached.world = outside.connectionState session.world) :
    reached.Custody outside held := by
  apply custody.of_levels reported_eq
  · rw [beside.manager_eq]
  · rw [beside.manager_eq]

/-- A unit of work has the connection to itself if it has opened it. -/
theorem started (custody : session.Custody outside held) (truthful : outside.Truthful)
    (intact : outside.connectionState session.world ≠ .broken)
    (noneLive : session.manager.live = []) {owns : Bool} {resource : Nat}
    (opens : Opens (outside.connectionState session.world) entries owns)
    (trail : outside.Trail session.world (entries ++ [.begun resource]) reached.world)
    (done : ∀ entry ∈ entries ++ [.begun resource], entry.done = true) :
    ((reached.activated owns).pushed resource).Custody outside held := by
  have noDisposal : ∀ entry ∈ entries ++ [.begun resource], entry.isDisposal = false :=
    List.forall_mem_append.mpr ⟨opens.noDisposal, List.forall_mem_singleton.mpr rfl⟩
  have reported := trail.reported truthful done noDisposal
  have held_iff : outside.connectionState session.world = .opened ↔ held = true := by
    rw [custody.opened_iff]
    simp [noneLive]
  have live : ((reached.activated owns).pushed resource).manager.live ≠ [] := by
    simp [pushed]
  generalize outside.connectionState session.world = before at opens reported held_iff intact
  cases opens with
  | already =>
      exact ⟨iff_of_true reported (.inr live), fun _ => by simp [pushed, activated, held_iff.mp rfl]⟩
  | opened =>
      have notHeld : held = false := by simpa using held_iff
      exact ⟨iff_of_true reported (.inr live), fun _ => by simp [pushed, activated, notHeld]⟩
  | reopened => exact absurd rfl intact
  | stillOpen => exact absurd rfl intact

/-- A unit of work that ends closes the connection if it had it to itself. -/
theorem finish (custody : session.Custody outside held) (truthful : outside.Truthful)
    {ending : Ending} (finish : Finish (.trail outside) outside session ending entries reached)
    (trail : outside.Trail session.world entries reached.world)
    (done : ∀ entry ∈ entries, entry.done = true) : reached.Custody outside held := by
  cases finish with
  | refused _ _ beside =>
      exact custody.beside beside (trail.reported truthful done (by simp))
  | notEnded _ _ _ => cases done _ List.mem_cons_self
  | notReleased _ _ _ => cases done _ List.mem_cons_self
  | @concluded first later given middle reached ends concludes =>
      obtain ⟨doneFirst, doneLater⟩ := List.forall_mem_append.mp done
      have opened := custody.opened ends.live
      have middleOpened : outside.connectionState middle = .opened := by
        cases ends with
        | called _ _ reaches =>
            rw [reaches.reported truthful doneFirst (by simp [Entry.isDisposal])]
            exact opened
        | skipped _ _ => exact opened
      have reported : outside.connectionState reached.world =
          (first ++ later).foldl Entry.report .opened := by
        rw [← opened]
        exact trail.reported truthful done
          (List.forall_mem_append.mpr ⟨ends.noDisposal, concludes.givesBack.noDisposal⟩)
      have noneLive : reached.manager.live = [] := by rw [concludes.concluded.manager_eq]
      have owns_iff := custody.owns_iff ends.live
      have back := concludes.givesBack
      generalize world_eq : reached.world = world at back
      refine ⟨?_, fun live => absurd noneLive live⟩
      cases back with
      | spared notTaken =>
          have isHeld : held = true := by simpa [notTaken] using owns_iff
          rw [world_eq]
          exact iff_of_true middleOpened (.inl isHeld)
      | already closed =>
          rw [middleOpened] at closed
          cases closed
      | closed isTaken _ =>
          have notHeld : held = false := owns_iff.mp isTaken
          rw [reported, List.foldl_append]
          simp [Entry.report, notHeld, noneLive]

/-- A statement leaves the connection as it finds it. -/
theorem attends (custody : session.Custody outside held) (truthful : outside.Truthful)
    (intact : outside.connectionState session.world ≠ .broken)
    (attends : Attends (.trail outside) outside session entries reached)
    (trail : outside.Trail session.world entries reached.world)
    (done : ∀ entry ∈ entries, entry.done = true) : reached.Custody outside held := by
  refine custody.beside attends.beside ?_
  cases attends with
  | nothing _ => exact trail.reported truthful done (by simp)
  | cannotOpen cannot _ => exact absurd cannot.failed (Entry.none_failed done)
  | @statement before later opened given answered request first middle _ opens opening _ running
      back _ =>
      have handed : ∀ entry ∈ before ++ [.executed request answered],
          entry.isDisposal = false :=
        List.forall_mem_append.mpr ⟨opens.noDisposal, List.forall_mem_singleton.mpr rfl⟩
      rw [← List.singleton_append, ← List.append_assoc] at trail done
      obtain ⟨doneHanded, _⟩ := List.forall_mem_append.mp done
      have middleReported := (Outside.Trail.append opening running).reported truthful doneHanded handed
      have reported := trail.reported truthful done
        (List.forall_mem_append.mpr ⟨handed, back.noDisposal⟩)
      rw [List.foldl_append, ← middleReported] at reported
      generalize outside.connectionState session.world = start at *
      cases opens with
      | already =>
          rw [back.nil_of_spared rfl] at reported
          exact reported.trans middleReported
      | opened =>
          generalize reached.world = world at back reported
          cases back with
          | spared notTaken => cases notTaken
          | already closed =>
              rw [closed] at middleReported
              cases middleReported
          | closed _ _ => exact reported
      | reopened => exact absurd rfl intact
      | stillOpen => exact absurd rfl intact

/-- An operation that ends a level leaves the connection to the caller if it is held. -/
theorem endsLevel (custody : session.Custody outside held) (truthful : outside.Truthful)
    (coherent : session.Coherent) {operation : Operation} (ends : operation.endsLevel = true)
    (done : ∀ entries, outside.Trail session.world entries (outside.step session operation).world →
      ∀ entry ∈ entries, entry.done = true) :
    (outside.step session operation).Custody outside held := by
  have keeps := Account.trail_keeps outside
  have acts : operation ≠ .wait := by
    rintro rfl
    cases ends
  have keepsManager : operation.disposes = false := by
    cases operation with
    | dispose => cases ends
    | _ => rfl
  obtain ⟨entries, trail, performed⟩ := Account.act_performed keeps coherent acts
  have outcome := performed.outcome
  rcases Operation.move_of_endsLevel ends session.manager.live session.manager.disposed with
    stays | ⟨number, leaves⟩ | ⟨ending, finishes⟩
  · rw [stays] at outcome
    obtain rfl := outcome.stay
    have reported := trail.reported truthful (by simp) (by simp)
    generalize outside.step session operation = reached at *
    cases outcome with
    | stayed beside => exact custody.beside beside reported
    | shut _ => exact custody.of_levels reported Iff.rfl rfl
  · rw [leaves] at outcome
    generalize outside.step session operation = reached at *
    cases outcome with
    | left nested =>
        have live : session.manager.live ≠ [] := List.ne_nil_of_mem (List.mem_of_mem_tail nested)
        have stillLive : (session.left number).manager.live ≠ [] := by
          intro noneLive
          obtain ⟨root, rest, levels⟩ := List.exists_cons_of_ne_nil live
          have isRoot : session.manager.live.head? = some root := by simp [levels]
          have same := coherent.outermost_left nested
          rw [outermost_idle noneLive, outermost_root isRoot] at same
          cases same
        exact custody.of_levels rfl (iff_of_false stillLive live) rfl
  · obtain ⟨_, course, finish⟩ := Account.step_finish keeps coherent finishes keepsManager
    exact custody.finish truthful finish course (done _ course)

theorem openConnection (custody : session.Custody outside held) (truthful : outside.Truthful)
    (intact : outside.connectionState session.world ≠ .broken)
    (there : session.manager.disposed = false)
    (done : ∀ entries,
      outside.Trail session.world entries (outside.environment.openIfNeeded session).2.world →
        ∀ entry ∈ entries, entry.done = true) :
    (outside.environment.openIfNeeded session).2.Custody outside
      (outside.hold held session .openConnection) := by
  have opening : (Account.trail outside).Leads outside.environment.openIfNeeded session
      (fun entries opened reached =>
        Opens (outside.connectionState session.world) entries opened ∧ session.Beside reached)
      (fun entries _ _ => ∃ entry ∈ entries, entry.done = false) := by
    apply (Account.trail_keeps outside).openIfNeeded
    · intro gone
      rw [there] at gone
      cases gone
    · exact fun _ _ _ _ opens beside => ⟨opens, beside⟩
    · exact fun _ _ _ _ cannot _ => cannot.failed
  rcases opening.ends with ⟨entries, opened, reached, ran, trail, opens, beside⟩ |
    ⟨entries, fault, reached, ran, trail, failed⟩
  · have held_eq : outside.hold held session .openConnection = (opened || held) := by
      rw [Outside.hold, ran]
    rw [ran] at done
    have reported := trail.reported truthful (done entries trail) opens.noDisposal
    rw [ran, held_eq]
    generalize start : outside.connectionState session.world = before at opens reported intact
    cases opens with
    | already => exact custody.beside beside (reported.trans start.symm)
    | opened =>
        refine ⟨iff_of_true reported (.inl rfl), fun live => ?_⟩
        rw [beside.manager_eq] at live
        rw [custody.opened live] at start
        cases start
    | reopened => exact absurd rfl intact
    | stillOpen => exact absurd rfl intact
  · rw [ran] at done
    exact absurd failed (Entry.none_failed (done entries trail))

theorem close (custody : session.Custody outside held) (truthful : outside.Truthful)
    (there : session.manager.disposed = false)
    (done : ∀ entries,
      outside.Trail session.world entries (outside.environment.close session).2.world →
        ∀ entry ∈ entries, entry.done = true) :
    (outside.environment.close session).2.Custody outside (outside.hold held session .close) := by
  cases levels : session.manager.live with
  | cons root rest =>
      have live : session.manager.live ≠ [] := by simp [levels]
      rw [Outside.hold, Environment.close_refused live]
      exact custody
  | nil =>
      have closing : (Account.trail outside).Leads outside.environment.close session
          (fun entries _ reached => session.Beside reached ∧
            entries.foldl Entry.report (outside.connectionState session.world) = .closed ∧
              ∀ entry ∈ entries, entry.isDisposal = false)
          (fun entries _ _ => ∃ entry ∈ entries, entry.done = false) := by
        refine Account.Leads.read_bind ?_
        rw [levels]
        apply (Account.trail_keeps outside).closeIfOpen
        · intro gone
          rw [there] at gone
          cases gone
        · exact fun _ closed => ⟨Beside.refl session, closed, by simp⟩
        · exact fun _ _ world => ⟨⟨world, _, rfl⟩, rfl, by simp [Entry.isDisposal]⟩
        · exact fun _ _ _ world => ⟨_, List.mem_singleton_self _, rfl⟩
      rcases closing.ends with ⟨entries, _, reached, ran, trail, beside, closed, noDisposal⟩ |
        ⟨entries, fault, reached, ran, trail, failed⟩
      · rw [ran] at done
        have reported := trail.reported truthful (done entries trail) noDisposal
        rw [closed] at reported
        rw [Outside.hold, ran]
        constructor
        · rw [reported, beside.manager_eq, levels]
          simp
        · rw [beside.manager_eq, levels]
          exact fun live => absurd rfl live
      · rw [ran] at done
        exact absurd failed (Entry.none_failed (done entries trail))

/-- During a unit of work nobody takes hold of the connection or lets go of it. -/
theorem hold_eq (custody : session.Custody outside held) (live : session.manager.live ≠ [])
    (operation : Operation) : outside.hold held session operation = held := by
  cases operation with
  | openConnection =>
      have opening : Account.silent.Leads outside.environment.openIfNeeded session
          (fun _ opened _ => opened = false) (fun _ _ _ => True) := by
        apply (Account.silent_keeps outside).openIfNeeded
        · exact fun _ => trivial
        · intro _ entries opened reached opens _
          have already := custody.opened live
          change outside.environment.connectionState session = .opened at already
          rw [already] at opens
          cases opens
          rfl
        · exact fun _ _ _ _ _ _ => trivial
      rcases opening.ends with ⟨_, opened, _, ran, _, notOpened⟩ | ⟨_, fault, _, ran, _, _⟩
      · rw [Outside.hold, ran, notOpened]
        rfl
      · rw [Outside.hold, ran]
  | close => rw [Outside.hold, Environment.close_refused live]
  | _ => rfl

theorem begin (custody : session.Custody outside held) (truthful : outside.Truthful)
    (intact : outside.connectionState session.world ≠ .broken) (coherent : session.Coherent)
    (level : Value)
    (done : ∀ entries,
      outside.Trail session.world entries (outside.environment.begin level session).2.world →
        ∀ entry ∈ entries, entry.done = true) :
    (outside.environment.begin level session).2.Custody outside held := by
  have keeps := Account.trail_keeps outside
  have begins : (Account.trail outside).Leaves (outside.environment.begin level) session
      fun entries reached => outside.Trail session.world entries reached.world →
        (∀ entry ∈ entries, entry.done = true) → reached.Custody outside held := by
    apply keeps.begin_leads coherent
    · exact fun _ _ _ _ => custody
    · intro _ _ entries _ reached fails _ done
      exact absurd fails.failed (Entry.none_failed done)
    · intro _ noneLive _ entries owns resource _ reached opens _ trail done
      exact custody.started truthful intact noneLive opens trail done
    · intro _ resource _ current _ _
      have live : session.manager.live ≠ [] := by
        intro noneLive
        simp [currentResource, noneLive] at current
      have stillLive : (session.pushed resource).manager.live ≠ [] := by simp [pushed]
      exact custody.of_levels rfl (iff_of_false stillLive live) rfl
  obtain ⟨entries, trail, leaves⟩ := begins.reached
  exact leaves trail (done entries trail)

/-- Every operation after which the manager is still there leaves the connection to
those who keep it open. -/
theorem step (custody : session.Custody outside held) (truthful : outside.Truthful)
    (coherent : session.Coherent) (operation : Operation)
    (intact : outside.connectionState session.world ≠ .broken)
    (stillIntact : outside.connectionState (outside.step session operation).world ≠ .broken)
    (stillThere : (outside.step session operation).manager.disposed = false)
    (done : ∀ entries, outside.Trail session.world entries (outside.step session operation).world →
      ∀ entry ∈ entries, entry.done = true) :
    (outside.step session operation).Custody outside (outside.hold held session operation) := by
  have disposed_eq : (session.manager.disposed || operation.disposes) = false := by
    obtain ⟨_, _, performed⟩ := Account.step_performed (Account.silent_keeps outside)
      (fun _ => trivial) coherent operation
    exact performed.disposed_eq.symm.trans stillThere
  obtain ⟨there, keepsManager⟩ := Bool.or_eq_false_iff.mp disposed_eq
  cases operation with
  | openConnection => exact custody.openConnection truthful intact there done
  | close => exact custody.close truthful there done
  | begin level => exact custody.begin truthful intact coherent level done
  | commit => exact custody.endsLevel truthful coherent rfl done
  | rollback => exact custody.endsLevel truthful coherent rfl done
  | commitHandle number => exact custody.endsLevel truthful coherent rfl done
  | rollbackHandle number => exact custody.endsLevel truthful coherent rfl done
  | closeHandle number => exact custody.endsLevel truthful coherent rfl done
  | dispose => cases keepsManager
  | work dialect work =>
      obtain ⟨entries, trail, attends⟩ :=
        ((Account.trail_keeps outside).work_attends dialect work).reached
      exact custody.attends truthful intact attends trail (done entries trail)
  | wait => exact custody.beside ⟨_, session.warnings, rfl⟩ (truthful.elapses _ stillIntact)

end Session.Custody

/-! ## Custody in a run -/

namespace Outside

/-- Whether the caller holds the connection open after operations performed one
after the other. -/
def heldFrom (outside : Outside ω) (held : Bool) (session : Session ω) : List Operation → Bool
  | [] => held
  | operation :: rest =>
    outside.heldFrom (outside.hold held session operation) (outside.step session operation) rest

/-- Whether the caller holds the connection open after a run from the start: it was
open then, or an open has opened it, and no close has returned since. -/
def held (outside : Outside ω) (world : ω) (operations : List Operation) : Bool :=
  outside.heldFrom (outside.connectionState world = .opened) (fresh world) operations

theorem heldFrom_snoc (outside : Outside ω) (held : Bool) (session : Session ω)
    (earlier : List Operation) (operation : Operation) :
    outside.heldFrom held session (earlier ++ [operation]) =
      outside.hold (outside.heldFrom held session earlier) (outside.after session earlier)
        operation := by
  induction earlier generalizing held session with
  | nil => rfl
  | cons first rest ih => exact ih _ _

theorem held_snoc (outside : Outside ω) (world : ω) (earlier : List Operation)
    (operation : Operation) :
    outside.held world (earlier ++ [operation]) =
      outside.hold (outside.held world earlier) (outside.after (fresh world) earlier) operation :=
  outside.heldFrom_snoc _ _ earlier operation

theorem hold_erased (outside : Outside ω) (held : Bool) {session : Session (Journaled ω)}
    (known : session.Known) (operation : Operation) :
    outside.hold held session.erased operation =
      outside.journaled.hold held session operation := by
  cases operation with
  | openConnection =>
      have same : (outside.environment.openIfNeeded session.erased).1 =
          (outside.journaled.environment.openIfNeeded session).1 :=
        Mirrors.openIfNeeded.result_eq known
      rw [hold, hold, same]
  | close =>
      have same : (outside.environment.close session.erased).1 =
          (outside.journaled.environment.close session).1 :=
        Mirrors.close.result_eq known
      rw [hold, hold, same]
  | _ => rfl

/-- No call of the run has failed, the connection has never been reported broken
between two operations, and the manager is still there. -/
structure Orderly (outside : Outside ω) (world : ω) (operations : List Operation) : Prop where
  done : ∀ entry ∈ outside.journalOf world operations, entry.done = true
  intact : ∀ earlier, earlier <+: operations →
    outside.connectionState (outside.after (fresh world) earlier).world ≠ .broken
  there : (outside.after (fresh world) operations).manager.disposed = false

theorem Orderly.earlier {outside : Outside ω} {world : ω} {earlier later : List Operation}
    (orderly : outside.Orderly world (earlier ++ later)) : outside.Orderly world earlier where
  done entry member := by
    obtain ⟨entries, journal_eq⟩ := outside.journalOf_append world earlier later
    apply orderly.done
    rw [journal_eq]
    exact List.mem_append_left _ member
  intact first isPrefix := orderly.intact first (isPrefix.trans (List.prefix_append _ _))
  there := by
    have there := orderly.there
    rw [run_disposed, List.any_append, Bool.or_eq_false_iff] at there
    rw [run_disposed]
    exact there.1

theorem Orderly.custody {outside : Outside ω} {world : ω} {operations : List Operation}
    (orderly : outside.Orderly world operations) (truthful : outside.Truthful) :
    (outside.journaledAfter world operations).Custody outside.journaled
      (outside.held world operations) := by
  induction operations using List.reverseRecOn with
  | nil =>
      constructor
      · change outside.connectionState world = .opened ↔ _ ∨ [] ≠ []
        simp [held, heldFrom]
      · exact fun live => absurd rfl live
  | append_singleton earlier operation ih =>
      have custody := ih orderly.earlier
      obtain ⟨erased_eq, known⟩ := outside.journaledAfter_erased world earlier
      have held_eq : outside.held world (earlier ++ [operation]) =
          outside.journaled.hold (outside.held world earlier)
            (outside.journaledAfter world earlier) operation := by
        rw [held_snoc, ← erased_eq, hold_erased outside _ known]
      rw [held_eq, journaledAfter_snoc]
      have coherent := (outside.journaled_numbered world earlier).1
      apply custody.step truthful.journaled coherent
      · change outside.connectionState (outside.journaledAfter world earlier).world.world ≠ _
        rw [journaledAfter_world]
        exact orderly.intact earlier (List.prefix_append _ _)
      · rw [← journaledAfter_snoc]
        change outside.connectionState
          (outside.journaledAfter world (earlier ++ [operation])).world.world ≠ _
        rw [journaledAfter_world]
        exact orderly.intact _ (List.prefix_refl _)
      · rw [← journaledAfter_snoc, journaledAfter_manager]
        exact orderly.there
      · intro entries trail entry member
        rw [← journaledAfter_snoc] at trail
        apply orderly.done
        rw [journalOf]
        change entry ∈ (outside.journaledAfter world (earlier ++ [operation])).world.journal
        rw [trail.journal_eq]
        exact List.mem_append_right _ member

/-- During a unit of work nobody takes hold of the connection or lets go of it. -/
theorem Orderly.held_during {outside : Outside ω} {world : ω} {earlier during : List Operation}
    {level : Value} (orderly : outside.Orderly world (earlier ++ .begin level :: during))
    (truthful : outside.Truthful)
    (active : ∀ first, first <+: during → first ≠ during →
      (outside.after (fresh world) (earlier ++ .begin level :: first)).manager.phase = .active) :
    outside.held world (earlier ++ .begin level :: during) = outside.held world earlier := by
  induction during using List.reverseRecOn with
  | nil => exact outside.held_snoc world earlier (.begin level)
  | append_singleton between operation ih =>
      have split : earlier ++ .begin level :: (between ++ [operation]) =
          (earlier ++ .begin level :: between) ++ [operation] := by simp
      rw [split] at orderly ⊢
      have before := ih orderly.earlier fun first isPrefix proper => by
        refine active first (isPrefix.trans (List.prefix_append _ _)) ?_
        rintro rfl
        have tooLong := isPrefix.length_le
        rw [List.length_append, List.length_singleton] at tooLong
        omega
      have during := active between (List.prefix_append _ _) (by simp)
      obtain ⟨erased_eq, known⟩ :=
        outside.journaledAfter_erased world (earlier ++ .begin level :: between)
      have custody := orderly.earlier.custody truthful
      have coherent := (outside.journaled_numbered world (earlier ++ .begin level :: between)).1
      rw [← journaledAfter_manager] at during
      rw [held_snoc, ← erased_eq, hold_erased outside _ known,
        custody.hold_eq (coherent.live_of_active during), before]

/-- In an orderly run on a connection that reports what is done with it, the
connection is open exactly while the caller holds it or a transaction is
active.  So a unit of work, from its begin to its end, leaves the connection as
it has found it, whatever is done in between. -/
theorem connection_in_custody (outside : Outside ω) (truthful : outside.Truthful) (world : ω)
    (operations : List Operation) (orderly : outside.Orderly world operations) :
    let session := outside.after (fresh world) operations
    (outside.connectionState session.world = .opened ↔
      outside.held world operations = true ∨ session.manager.phase = .active) ∧
    ∀ earlier level during, operations = earlier ++ .begin level :: during →
      let found := outside.after (fresh world) earlier
      found.manager.phase = .idle →
      (∀ first, first <+: during → first ≠ during →
        (outside.after (fresh world) (earlier ++ .begin level :: first)).manager.phase = .active) →
      session.manager.phase = .idle →
        outside.connectionState session.world = outside.connectionState found.world := by
  have opened_iff : ∀ {run : List Operation}, outside.Orderly world run →
      (outside.connectionState (outside.after (fresh world) run).world = .opened ↔
        outside.held world run = true ∨
          (outside.after (fresh world) run).manager.phase = .active) := by
    intro run orderly
    have custody := (orderly.custody truthful).opened_iff
    have coherent := outside.run_coherent world run
    change outside.connectionState (outside.journaledAfter world run).world.world = .opened ↔ _
      at custody
    rw [journaledAfter_world, journaledAfter_manager] at custody
    rw [custody]
    exact or_congr_right ⟨coherent.active, coherent.live_of_active⟩
  intro session
  refine ⟨opened_iff orderly, ?_⟩
  rintro earlier level during rfl found idleBefore active idleAfter
  have before := opened_iff orderly.earlier
  have after := opened_iff orderly
  have intactBefore := orderly.intact earlier (List.prefix_append _ _)
  have intactAfter := orderly.intact _ (List.prefix_refl _)
  -- both times the caller alone decides whether the connection is open
  rw [idleBefore] at before
  rw [orderly.held_during truthful active, idleAfter] at after
  exact ConnectionState.eq_of_opened_iff intactAfter intactBefore (after.trans before.symm)

theorem obliging_truthful : obliging.Truthful where
  opens _ _ := rfl
  closes _ _ := rfl
  begins _ _ _ := rfl
  commits _ _ _ := rfl
  rollsBack _ _ _ := rfl
  releases _ _ _ := rfl
  runs _ _ _ := rfl
  elapses _ intact := absurd rfl intact

/-- A connection that the caller has opened stays open after a transaction, and a
close that was refused in between makes no difference. -/
theorem held_connection_outlasts_transaction :
    let operations := [.openConnection, .begin .null, .close, .commit]
    obliging.Truthful ∧ obliging.Orderly .closed operations ∧
      (obliging.after (fresh .closed) operations).manager.phase = .idle ∧
      obliging.connectionState (obliging.after (fresh .closed) operations).world = .opened := by
  intro operations
  have intact : ∀ earlier ∈ operations.inits,
      obliging.connectionState (obliging.after (fresh .closed) earlier).world ≠ .broken := by
    decide +kernel
  have orderly : obliging.Orderly .closed operations := by
    constructor
    · decide +kernel
    · exact fun earlier isPrefix => intact earlier ((List.mem_inits _ _).mpr isPrefix)
    · decide +kernel
  have custody := connection_in_custody obliging obliging_truthful .closed operations orderly
  exact ⟨obliging_truthful, orderly, by decide +kernel, custody.1.mpr (.inl (by decide +kernel))⟩

end Outside

end EntitySql
