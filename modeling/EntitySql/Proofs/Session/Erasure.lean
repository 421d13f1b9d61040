import EntitySql.Proofs.Session.Mirror

/-!
# Erasing the journal

Keeping a journal does not change a run: function by function, what the
manager does with the journal mirrors what it does without.
-/

namespace EntitySql

open Session

variable {ω α : Type}

/-! ## The books -/

namespace Session

variable {session : Session (Journaled ω)}

theorem currentResource_erased (known : session.Known) :
    session.erased.currentResource = session.currentResource.map session.world.nameOf := by
  cases levels : session.manager.live with
  | nil => simp [currentResource, erased, levels]
  | cons root rest =>
      have issued := known.issued root (by simp [levels])
      have current : session.currentResource = some (session.handleAt root).resource := by
        simp [currentResource, levels]
      have erasedCurrent : session.erased.currentResource =
          some (session.erased.handleAt root).resource := by
        simp [currentResource, erased, levels]
      rw [current, erasedCurrent, resource_erased issued, Option.map_some]

theorem modify_renamed (change : Handle → Handle) (state : Journaled ω)
    (commutes : ∀ handle, change (renamed state handle) = renamed state (change handle))
    (handles : List Handle) (number : Nat) :
    (handles.map (renamed state)).modify number change =
      (handles.modify number change).map (renamed state) := by
  apply List.ext_getElem?
  intro index
  rw [List.getElem?_modify, List.getElem?_map, List.getElem?_map, List.getElem?_modify]
  cases handles[index]? with
  | none => rfl
  | some handle =>
      by_cases here : number = index
      · simp [here, commutes]
      · simp [here]

theorem erased_marked {change : Handle → Handle} (number : Nat)
    (commutes : ∀ handle,
      change (renamed session.world handle) = renamed session.world (change handle)) :
    session.erased.marked number change = (session.marked number change).erased := by
  unfold marked erased
  simp only [modify_renamed change session.world commutes]

theorem Known.marked (known : session.Known) (number : Nat) {change : Handle → Handle}
    (same : ∀ handle, (change handle).resource = handle.resource) :
    (session.marked number change).Known where
  begun handle member := by
    obtain ⟨index, found⟩ := List.mem_iff_getElem?.mp member
    change (session.handles.modify number change)[index]? = some handle at found
    rw [List.getElem?_modify] at found
    obtain ⟨original, isOriginal, rfl⟩ := Option.map_eq_some_iff.mp found
    have begun := known.begun original (List.mem_of_getElem? isOriginal)
    by_cases here : number = index
    · simpa [here, same] using begun
    · simpa [here] using begun
  issued := by
    rw [marked_manager, marked_length]
    exact known.issued

theorem erased_settled (session : Session (Journaled ω)) :
    settled session.erased = (settled session).erased := by
  have completed : session.manager.live.foldl
        (fun handles number => handles.modify number Handle.complete)
        (session.handles.map (renamed session.world)) =
      (session.manager.live.foldl
        (fun handles number => handles.modify number Handle.complete)
        session.handles).map (renamed session.world) :=
    List.foldl_hom _ fun handles number =>
      modify_renamed Handle.complete session.world (fun _ => rfl) handles number
  exact congrArg
    (fun handles => ({
      manager := { session.manager with phase := .idle, live := [], ownsConnection := false }
      handles
      warnings := session.warnings
      world := session.world.world } : Session ω)) completed

theorem Known.settled (known : session.Known) : (settled session).Known where
  begun handle member := by
    obtain ⟨index, found⟩ := List.mem_iff_getElem?.mp member
    unfold Session.settled at found
    rw [getElem?_completed] at found
    obtain ⟨original, isOriginal, rfl⟩ := Option.map_eq_some_iff.mp found
    have begun := known.begun original (List.mem_of_getElem? isOriginal)
    split <;> exact begun
  issued number member := absurd member List.not_mem_nil

end Session

namespace Mirrors

variable {outside : Outside ω} {session : Session (Journaled ω)} {number : Nat}

/-! ## Calls -/

theorem openConnection :
    Mirrors outside.journaled.environment.openConnection outside.environment.openConnection
      session :=
  noting (fun _ => outside.openConnection) fun result => .opened result.isOk

theorem closeConnection :
    Mirrors outside.journaled.environment.closeConnection outside.environment.closeConnection
      session :=
  noting (fun _ => outside.closeConnection) fun result => .closed result.isOk

theorem disposeConnection :
    Mirrors outside.journaled.environment.disposeConnection outside.environment.disposeConnection
      session :=
  noting (fun _ => outside.disposeConnection) fun result => .disposed result.isOk

theorem commitResource (resource : Nat) :
    Mirrors (outside.journaled.environment.commitResource resource)
      (outside.environment.commitResource (session.world.nameOf resource)) session :=
  noting (fun state => outside.commitResource (state.nameOf resource))
    fun result => .ended .commit resource result.isOk

theorem rollbackResource (resource : Nat) :
    Mirrors (outside.journaled.environment.rollbackResource resource)
      (outside.environment.rollbackResource (session.world.nameOf resource)) session :=
  noting (fun state => outside.rollbackResource (state.nameOf resource))
    fun result => .ended .rollback resource result.isOk

theorem closeResource (resource : Nat) :
    Mirrors (outside.journaled.environment.closeResource resource)
      (outside.environment.closeResource (session.world.nameOf resource)) session :=
  noting (fun state => outside.closeResource (state.nameOf resource))
    fun result => .ended .release resource result.isOk

theorem run (request : Request) :
    Mirrors (outside.journaled.environment.run request)
      (outside.environment.run
        { request with transaction := request.transaction.map session.world.nameOf }) session :=
  noting
    (fun state =>
      outside.run { request with transaction := request.transaction.map state.nameOf })
    fun result => .executed request result.isOk

/-! ## The connection -/

theorem refuseIfDisposed : Mirrors refuseIfDisposed refuseIfDisposed session :=
  read_bind fun _ => branch Iff.rfl (fail _) (answer ())

theorem adjust {update : Manager → Manager}
    (live : ∀ number ∈ (update session.manager).live, number ∈ session.manager.live) :
    Mirrors (adjust update) (adjust update) session :=
  change (fun _ => rfl)
    (fun known => ⟨known.begun, fun number member => known.issued number (live number member)⟩)
    (Nat.le_refl _)

theorem warn (warning : Warning) : Mirrors (warn warning) (warn warning) session :=
  change (fun _ => rfl) (fun known => ⟨known.begun, known.issued⟩) (Nat.le_refl _)

theorem openIfNeeded :
    Mirrors outside.journaled.environment.openIfNeeded outside.environment.openIfNeeded session := by
  refine bind refuseIfDisposed fun _ _ _ => read_bind fun _ => bind ?_ fun _ _ _ => ?_
  · exact whenever rfl (bind (warn _) fun _ _ _ => closeConnection)
  · refine read_bind fun _ => branch Iff.rfl ?_ (answer false)
    exact bind openConnection fun _ _ _ => answer true

theorem closeIfOpen :
    Mirrors outside.journaled.environment.closeIfOpen outside.environment.closeIfOpen session :=
  bind refuseIfDisposed fun _ _ _ => read_bind fun _ => whenever rfl closeConnection

theorem close :
    Mirrors outside.journaled.environment.close outside.environment.close session :=
  read_bind fun _ => branch Iff.rfl closeIfOpen (fail _)

theorem withConnection {body : Action (Session (Journaled ω)) α} {other : Action (Session ω) α}
    (mirrors : ∀ session, Mirrors body other session) :
    Mirrors (outside.journaled.environment.withConnection body)
      (outside.environment.withConnection other) session := by
  refine bind openIfNeeded fun opened _ _ => ensuring ?_ fun _ _ => whenever rfl closeIfOpen
  exact bind refuseIfDisposed fun _ reached _ => mirrors reached

theorem mark (change : Handle → Handle) (number : Nat)
    (commutes : ∀ (state : Journaled ω) (handle : Handle),
      change (renamed state handle) = renamed state (change handle))
    (same : ∀ handle, (change handle).resource = handle.resource) :
    Mirrors (Action.change (marked number change)) (Action.change (marked number change))
      session := by
  apply Mirrors.change
  · exact fun _ => erased_marked number (commutes session.world)
  · exact fun known => known.marked number same
  · exact Nat.le_of_eq (marked_length number change session).symm

/-! ## The end of a unit of work -/

theorem conclude :
    Mirrors outside.journaled.environment.conclude outside.environment.conclude session := by
  refine read_bind fun _ => bind ?_ fun _ _ _ => read_bind fun _ => whenever rfl closeIfOpen
  apply Mirrors.change
  · exact fun _ => erased_settled session
  · exact fun known => known.settled
  · exact Nat.le_of_eq (settled_length session).symm

theorem afterCommit (issued : number < session.handles.length) :
    Mirrors (outside.journaled.environment.afterCommit number)
      (outside.environment.afterCommit number) session := by
  refine read_bind fun _ => branch Iff.rfl (answer ()) (read_bind fun _ => ?_)
  rw [handleAt_erased issued]
  exact branch Iff.rfl conclude (adjust fun _ => List.mem_of_mem_erase)

theorem afterRollback :
    Mirrors outside.journaled.environment.afterRollback outside.environment.afterRollback
      session := by
  refine read_bind fun _ => branch Iff.rfl (answer ()) ?_
  exact bind (adjust fun _ => id) fun _ _ _ => conclude

/-! ## Handles -/

theorem requireUsable (issued : number < session.handles.length) :
    Mirrors (outside.journaled.environment.site number).requireUsable
      (outside.environment.site number).requireUsable session := by
  have same := view_erased issued Handle.isUsable fun _ _ => rfl
  exact read_bind fun _ => branch (Bool.eq_iff_iff.mp same) (answer ()) (fail _)

theorem complete (number : Nat) :
    Mirrors (outside.journaled.environment.site number).complete
      (outside.environment.site number).complete session :=
  mark Handle.complete number (fun _ _ => rfl) fun _ => rfl

theorem commitHandle (issued : number < session.handles.length) :
    Mirrors (outside.journaled.environment.commitHandle number)
      (outside.environment.commitHandle number) session := by
  refine bind (requireUsable issued) fun _ reached grows => ?_
  have stillIssued := Nat.lt_of_lt_of_le issued grows
  refine read_bind fun _ => bind (whenever ?_ ?_) fun _ last lastGrows => ?_
  · exact view_erased stillIssued Handle.isRoot fun _ _ => rfl
  · exact of_eq (commitResource _) rfl
      (congrArg (fun name => outside.environment.commitResource name reached.erased)
        (resource_erased stillIssued))
  · refine bind (complete number) fun _ final finalGrows => afterCommit ?_
    exact Nat.lt_of_lt_of_le stillIssued (Nat.le_trans lastGrows finalGrows)

theorem rollbackHandle (issued : number < session.handles.length) :
    Mirrors (outside.journaled.environment.rollbackHandle number)
      (outside.environment.rollbackHandle number) session := by
  refine bind (requireUsable issued) fun _ reached grows => ?_
  have stillIssued := Nat.lt_of_lt_of_le issued grows
  refine bind ?_ fun _ _ _ => bind (complete number) fun _ _ _ => afterRollback
  exact of_eq (rollbackResource _) rfl
    (congrArg (fun name => outside.environment.rollbackResource name reached.erased)
      (resource_erased stillIssued))

theorem rollback :
    Mirrors outside.journaled.environment.rollback outside.environment.rollback session := by
  refine read_bind fun known => branch Iff.rfl (answer ()) ?_
  simp only [erased_manager]
  cases levels : session.manager.live with
  | nil => exact fail _
  | cons root rest =>
      have issued := known.issued root (by simp [levels])
      refine bind (adjust fun _ => id) fun _ reached grows => ensuring ?_ fun _ _ => conclude
      exact rollbackHandle (Nat.lt_of_lt_of_le issued grows)

theorem afterClose (issued : number < session.handles.length) :
    Mirrors (outside.journaled.environment.afterClose number)
      (outside.environment.afterClose number) session := by
  refine read_bind fun _ => read_bind fun _ => ?_
  rw [handleAt_erased issued]
  refine branch Iff.rfl (answer ()) (branch Iff.rfl ?_ ?_)
  · exact bind (adjust fun _ => id) fun _ _ _ => conclude
  · exact bind (warn _) fun _ _ _ => rollback

theorem closeHandle (issued : number < session.handles.length) :
    Mirrors (outside.journaled.environment.closeHandle number)
      (outside.environment.closeHandle number) session := by
  refine read_bind fun _ => branch ?_ (answer ()) ?_
  · exact Bool.eq_iff_iff.mp (view_erased issued Handle.closed fun _ _ => rfl)
  · refine bind (mark Handle.shut number (fun _ _ => rfl) fun _ => rfl) fun _ reached grows => ?_
    have stillIssued := Nat.lt_of_lt_of_le issued grows
    refine bind (whenever ?_ ?_) fun _ last lastGrows =>
      afterClose (Nat.lt_of_lt_of_le stillIssued lastGrows)
    · exact view_erased issued (fun handle => handle.isRoot && !handle.completed) fun _ _ => rfl
    · exact of_eq (closeResource _) rfl
        (congrArg (fun name => outside.environment.closeResource name reached.erased)
          (resource_erased stillIssued))

end Mirrors

/-! ## Transactions -/

/-- The number of a physical transaction stands for its name. -/
def Named (number name : Nat) (session : Session (Journaled ω)) : Prop :=
  name = session.world.nameOf number ∧ number < session.world.names.length

namespace Mirrored

variable {outside : Outside ω} {session : Session (Journaled ω)}

theorem beginTransaction (level : Option IsolationLevel) (known : session.Known) :
    Mirrored (outside.journaled.environment.beginTransaction level)
      (outside.environment.beginTransaction level) session Named := by
  change Mirrored (outward (Journaled.beginning (outside.beginTransaction level)))
    (outward (outside.beginTransaction level)) session Named
  rcases ran : outside.beginTransaction level session.world.world with ⟨fault | name, world⟩
  · constructor <;> simp only [outward, Journaled.beginning, ran, erased]
    · rfl
    · exact ⟨known.begun, known.issued⟩
    · exact Nat.le_refl _
    · exact .error
  · constructor <;> simp only [outward, Journaled.beginning, ran, erased]
    · -- the names given before stay what they were
      have unchanged : ∀ handle ∈ session.handles, renamed session.world handle =
          renamed
            { world, names := session.world.names ++ [name],
              journal := session.world.journal ++ [.begun session.world.names.length] } handle := by
        intro handle member
        have begun := known.begun handle member
        simp [renamed, Journaled.nameOf, List.getElem?_append_left begun]
      rw [List.map_congr_left unchanged]
    · refine ⟨fun handle member => ?_, known.issued⟩
      have begun := known.begun handle member
      simp only [List.length_append, List.length_singleton]
      omega
    · exact Nat.le_refl _
    · exact .ok (by simp [Named, Journaled.nameOf])

theorem beginResource (level : Value) (known : session.Known) :
    Mirrored (outside.journaled.environment.beginResource level)
      (outside.environment.beginResource level) session Named := by
  refine (Mirrors.ofExcept _ known).bind ?_
  rintro isolation _ chosen chosenKnown _ rfl
  refine (Mirrors.openIfNeeded chosenKnown).bind ?_
  rintro opened _ ready readyKnown _ rfl
  refine bind (show Mirrored _ _ _ Named from
    onFailure ?_ fun _ _ => Mirrors.whenever rfl Mirrors.closeIfOpen) ?_
  · refine (Mirrors.refuseIfDisposed readyKnown).bind ?_
    rintro _ _ permitted permittedKnown _ rfl
    exact beginTransaction isolation permittedKnown
  · intro number name begun begunKnown _ named
    refine change_bind rfl (Nat.le_refl _) ?_
    exact ⟨rfl, ⟨begunKnown.begun, begunKnown.issued⟩, Nat.le_refl _, .ok named⟩

/-- A handle for a physical transaction is given out alike. -/
theorem pushHandle {number name : Nat} (known : session.Known) (named : Named number name session) :
    Mirrored (Environment.pushHandle number) (Environment.pushHandle name) session
      fun value same _ => value = same where
  reached_eq := by
    obtain ⟨rfl, _⟩ := named
    simp [Environment.pushHandle, erased, renamed]
  known := by
    refine ⟨fun handle member => ?_, fun live member => ?_⟩
    · change handle ∈ session.handles ++ [_] at member
      rcases List.mem_append.mp member with old | new
      · exact known.begun handle old
      · rw [List.mem_singleton.mp new]
        exact named.2
    · change live ∈ session.manager.live ++ [session.handles.length] at member
      change live < (session.handles ++ [_]).length
      rw [List.length_append, List.length_singleton]
      rcases List.mem_append.mp member with old | new
      · exact Nat.lt_succ_of_lt (known.issued live old)
      · rw [List.mem_singleton.mp new]
        exact Nat.lt_succ_self _
  grows := by simp [Environment.pushHandle]
  alike := by
    have length_eq : session.erased.handles.length = session.handles.length :=
      List.length_map _
    exact .ok length_eq.symm

end Mirrored

namespace Mirrors

variable {outside : Outside ω} {session : Session (Journaled ω)}

theorem begin (level : Value) :
    Mirrors (outside.journaled.environment.begin level) (outside.environment.begin level)
      session := by
  refine bind refuseIfDisposed fun _ reached _ => read_bind fun known => ?_
  refine branch Iff.rfl (fail _) ?_
  simp only [erased_manager]
  cases levels : reached.manager.live with
  | nil =>
      intro _
      refine (Mirrored.beginResource level known).bind ?_
      exact fun _ _ _ begunKnown _ named => Mirrored.pushHandle begunKnown named
  | cons root rest =>
      have issued := known.issued root (by simp [levels])
      have begun := known.begun _ (handleAt_mem issued)
      refine read_bind fun _ => ?_
      rw [handleAt_erased issued]
      exact fun _ => Mirrored.pushHandle known ⟨rfl, begun⟩

theorem popLevel : Mirrors Environment.popLevel Environment.popLevel session := by
  have issued : session.Known → ∀ number ∈ session.manager.live.dropLast,
      number < session.handles.length :=
    fun known number member => known.issued number (List.dropLast_subset _ member)
  unfold Environment.popLevel
  cases innermost : session.manager.live.getLast? with
  | none =>
      apply change
      · intro _
        simp [erased, innermost]
      · intro known
        simp only [innermost]
        exact ⟨known.begun, issued known⟩
      · simp [innermost]
  | some number =>
      apply change
      · intro _
        have commutes := modify_renamed Handle.complete session.world (fun _ => rfl)
          session.handles number
        simp only [erased, innermost]
        exact congrArg (fun handles => ({
          manager := { session.manager with live := session.manager.live.dropLast }
          handles
          warnings := session.warnings
          world := session.world.world } : Session ω)) commutes
      · intro known
        have completed : (session.marked number Handle.complete).Known :=
          known.marked number fun _ => rfl
        simp only [innermost]
        refine ⟨completed.begun, fun other member => ?_⟩
        change other < (session.marked number Handle.complete).handles.length
        rw [marked_length]
        exact issued known other member
      · simp [innermost]

theorem commit :
    Mirrors outside.journaled.environment.commit outside.environment.commit session := by
  refine read_bind fun known => branch Iff.rfl (answer ()) ?_
  simp only [erased_manager]
  cases levels : session.manager.live with
  | nil => exact answer ()
  | cons root rest =>
      cases rest with
      | nil =>
          have issued := known.issued root (by simp [levels])
          refine bind (adjust fun _ => id) fun _ reached grows => bind ?_ fun _ _ _ => conclude
          intro reachedKnown
          refine Mirrored.onFailure ?_ fun _ _ => adjust fun _ => id
          exact commitHandle (Nat.lt_of_lt_of_le issued grows) reachedKnown
      | cons nested others => exact popLevel

theorem dispose :
    Mirrors outside.journaled.environment.dispose outside.environment.dispose session := by
  refine read_bind fun known => branch Iff.rfl (answer ()) ?_
  refine ensuring ?_ fun _ _ => adjust fun _ => id
  have givesUp : ∀ reached : Session (Journaled ω), Mirrors
      (do
        outside.journaled.environment.closeIfOpen
        let gone ← Action.read fun session => session.manager.disposed
        if gone then Action.fail (.lacking .connectionGone)
        else outside.journaled.environment.disposeConnection)
      (do
        outside.environment.closeIfOpen
        let gone ← Action.read fun session => session.manager.disposed
        if gone then Action.fail (.lacking .connectionGone)
        else outside.environment.disposeConnection) reached := by
    intro reached
    refine bind closeIfOpen fun _ _ _ => read_bind fun _ => ?_
    exact branch Iff.rfl (fail _) disposeConnection
  simp only [erased_manager]
  cases levels : session.manager.live with
  | nil => exact givesUp session
  | cons root rest =>
      have issued := known.issued root (by simp [levels])
      refine bind (adjust fun _ => id) fun _ reached grows => bind ?_ fun _ last _ => givesUp last
      exact ensuring (closeHandle (Nat.lt_of_lt_of_le issued grows)) fun _ _ => conclude

/-! ## Work -/

theorem warnAll (warnings : List Warning) :
    Mirrors (Environment.warnAll warnings) (Environment.warnAll warnings) session := by
  induction warnings generalizing session with
  | nil => exact answer ()
  | cons warning rest ih => exact bind (warn warning) fun _ _ _ => ih

theorem ask (plan : Plan) :
    Mirrors (outside.journaled.environment.ask plan) (outside.environment.ask plan) session := by
  refine read_bind fun known => ?_
  rw [currentResource_erased known]
  exact run _

theorem perform (dialect : Dialect) (work : Work) :
    Mirrors (outside.journaled.environment.perform dialect work)
      (outside.environment.perform dialect work) session := by
  refine bind (ofExcept _) fun plan _ _ => bind (warnAll _) fun _ _ _ => ?_
  exact withConnection fun _ => bind (ask plan) fun value _ _ => ofExcept _

end Mirrors

/-! ## Runs -/

namespace Outside

theorem reached_erased {session : Session (Journaled ω)} (known : session.Known)
    {action : Action (Session (Journaled ω)) α} {other : Action (Session ω) α}
    (mirrors : Mirrors action other session) :
    (other session.erased).2 = (action session).2.erased ∧ (action session).2.Known :=
  ⟨(mirrors known).reached_eq, (mirrors known).known⟩

theorem stepHandle_erased {session : Session (Journaled ω)} (known : session.Known)
    {number : Nat} {action : Action (Session (Journaled ω)) Unit}
    {other : Action (Session ω) Unit}
    (mirrors : number < session.handles.length → Mirrors action other session) :
    stepHandle session.erased number other = (stepHandle session number action).erased ∧
      (stepHandle session number action).Known := by
  have length_eq : session.erased.handles.length = session.handles.length := List.length_map _
  unfold stepHandle
  rw [length_eq]
  split
  · rename_i issued
    exact reached_erased known (mirrors issued)
  · exact ⟨rfl, known⟩

/-- An operation does the same with the journal as without. -/
theorem step_erased (outside : Outside ω) {session : Session (Journaled ω)}
    (known : session.Known) (operation : Operation) :
    outside.step session.erased operation = (outside.journaled.step session operation).erased ∧
      (outside.journaled.step session operation).Known := by
  cases operation with
  | openConnection => exact reached_erased known Mirrors.openIfNeeded
  | close => exact reached_erased known Mirrors.close
  | begin level => exact reached_erased known (Mirrors.begin level)
  | commit => exact reached_erased known Mirrors.commit
  | rollback => exact reached_erased known Mirrors.rollback
  | dispose => exact reached_erased known Mirrors.dispose
  | commitHandle number => exact stepHandle_erased known Mirrors.commitHandle
  | rollbackHandle number => exact stepHandle_erased known Mirrors.rollbackHandle
  | closeHandle number => exact stepHandle_erased known Mirrors.closeHandle
  | work dialect work => exact reached_erased known (Mirrors.perform dialect work)
  | wait => exact ⟨rfl, known.begun, known.issued⟩

/-- Keeping a journal does not change a run. -/
theorem journaledAfter_erased (outside : Outside ω) (world : ω) (operations : List Operation) :
    (outside.journaledAfter world operations).erased = outside.after (fresh world) operations ∧
      (outside.journaledAfter world operations).Known := by
  induction operations using List.reverseRecOn with
  | nil => exact ⟨rfl, by simp [journaledAfter, after, fresh], by simp [journaledAfter, after, fresh]⟩
  | append_singleton earlier operation ih =>
      obtain ⟨erased_eq, known⟩ := ih
      rw [journaledAfter_snoc, after_snoc, ← erased_eq]
      obtain ⟨step_eq, stepKnown⟩ := outside.step_erased known operation
      exact ⟨step_eq.symm, stepKnown⟩

theorem journaledAfter_manager (outside : Outside ω) (world : ω) (operations : List Operation) :
    (outside.journaledAfter world operations).manager =
      (outside.after (fresh world) operations).manager :=
  congrArg Session.manager (outside.journaledAfter_erased world operations).1

theorem journaledAfter_world (outside : Outside ω) (world : ω) (operations : List Operation) :
    (outside.journaledAfter world operations).world.world =
      (outside.after (fresh world) operations).world :=
  congrArg Session.world (outside.journaledAfter_erased world operations).1

theorem callsOf_stay {outside : Outside ω} {world : ω} {earlier : List Operation}
    {operation : Operation}
    (moves : operation.move (outside.after (fresh world) earlier).manager.live
      (outside.after (fresh world) earlier).manager.disposed = .stay) :
    outside.callsOf world earlier operation = [] := by
  obtain ⟨entries, turn⟩ := outside.turn world earlier operation
  have outcome := turn.performed.outcome
  rw [outside.journaledAfter_manager, moves] at outcome
  exact (callsOf_eq turn.journalOf_eq).trans outcome.stay

end Outside

end EntitySql
