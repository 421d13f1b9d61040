import EntitySql.Proofs.Session.Erasure

/-!
# Physical transactions

Several handles stand for one physical transaction, and handles of earlier
units of work keep theirs.  All the same, a physical transaction is ended at
most once and is left alone from then on.  What carries this through a run is
that no call concerns any other physical transaction than that of the unit of
work, and that this one has not been ended.
-/

namespace EntitySql

open Session

variable {ω : Type}

namespace Entry

/-- Whether the call ended a physical transaction. -/
def ends (resource : Nat) : Entry → Bool
  | .ended _ other done => done && other == resource
  | _ => false

/-- Whether the call was an attempt to end a physical transaction, or handed
over a statement that belongs to it. -/
def concerns (resource : Nat) : Entry → Bool
  | .ended _ other _ => other == resource
  | .executed request _ => request.transaction == some resource
  | _ => false

/-- The later call leaves alone what the earlier one ended. -/
def LeftAlone (earlier later : Entry) : Prop :=
  ∀ resource, earlier.ends resource = true → later.concerns resource = false

theorem concerns_of_ends {entry : Entry} {resource : Nat} (ends : entry.ends resource = true) :
    entry.concerns resource = true := by
  cases entry with
  | ended ending other done =>
      simp only [Entry.ends, Bool.and_eq_true] at ends
      exact ends.2
  | _ => cases ends

end Entry

/-- No call that has to do with a physical transaction, except that one could not be begun. -/
def Quiet (entries : List Entry) : Prop :=
  ∀ entry ∈ entries, entry.toConnection = true ∨ entry = .beginFailed

theorem ConnectionOnly.quiet {entries : List Entry} (only : ConnectionOnly entries) :
    Quiet entries :=
  fun entry member => .inl (only entry member)

theorem Quiet.unconcerned {entries : List Entry} (quiet : Quiet entries) {entry : Entry}
    (member : entry ∈ entries) :
    entry.beginning = none ∧ ∀ resource, entry.concerns resource = false := by
  rcases quiet entry member with connection | rfl
  · cases entry <;> simp_all [Entry.toConnection, Entry.beginning, Entry.concerns]
  · exact ⟨rfl, fun _ => rfl⟩

/-! ## The effect of an operation -/

/-- What an operation does with the physical transaction of the unit of work:
the calls that have to do with it, and the one that the manager has afterwards. -/
inductive Effect (session : Session ω) : List Entry → Option Nat → Prop where
  | none {entries : List Entry} (quiet : Quiet entries) :
      Effect session entries session.currentResource
  | used {before after : List Entry} {request : Request} {done : Bool}
      (quietBefore : Quiet before) (bound : request.transaction = session.currentResource)
      (quietAfter : Quiet after) :
      Effect session (before ++ .executed request done :: after) session.currentResource
  | begun {entries : List Entry} {resource : Nat} (idle : session.currentResource = .none)
      (quiet : Quiet entries) : Effect session (entries ++ [.begun resource]) (some resource)
  | survived {ending : Ending} {resource : Nat}
      (current : session.currentResource = some resource) :
      Effect session [.ended ending resource false] (some resource)
  | ended {ending : Ending} {resource : Nat} {done : Bool} {entries : List Entry}
      (current : session.currentResource = some resource) (quiet : Quiet entries) :
      Effect session (.ended ending resource done :: entries) .none
  | abandoned {entries : List Entry} (shut : session.RootShut) (quiet : Quiet entries) :
      Effect session entries .none

theorem Effect.of_same {session reached : Session ω} {entries : List Entry}
    (quiet : Quiet entries) (same : reached.outermost = session.outermost) :
    Effect session entries reached.currentResource := by
  rw [currentResource_eq, same, ← currentResource_eq]
  exact .none quiet

theorem Outcome.effect {outside : Outside ω} {session reached : Session ω} {move : Move}
    {entries : List Entry} (outcome : Outcome outside session move entries reached)
    (coherent : session.Coherent) : Effect session entries reached.currentResource := by
  have silent : Quiet [] := connectionOnly_nil.quiet
  have emptied : reached.manager.live = [] → reached.currentResource = none := by
    intro noneLive
    rw [currentResource_eq, outermost_idle noneLive, Option.map_none]
  cases outcome with
  | stayed beside => exact .of_same silent beside.outermost_eq
  | shut stale => exact .of_same silent (outermost_shut stale)
  | asked visit beside =>
      cases visit with
      | connection only _ => exact .of_same only.quiet beside.outermost_eq
      | statement opens bound only _ =>
          rw [beside.currentResource_eq]
          exact .used opens.connectionOnly.quiet bound only.quiet
  | notStarted _ preparing _ beside => exact .of_same preparing beside.outermost_eq
  | started _ noneLive only beside =>
      rw [currentResource_eq, outermost_started (beside.manager_eq ▸ noneLive), Option.map_some]
      refine .begun ?_ only.quiet
      rw [currentResource_eq, outermost_idle noneLive, Option.map_none]
  | nested current => exact .of_same silent (coherent.outermost_pushed current)
  | left nested => exact .of_same silent (coherent.outermost_left nested)
  | notEnded _ current beside =>
      rw [beside.currentResource_eq, current]
      exact .survived current
  | notReleased isRoot current =>
      rw [currentResource_shut]
      change Effect session _ session.currentResource
      rw [current]
      exact .survived current
  | refused _ _ beside => exact .of_same silent beside.outermost_eq
  | ended current _ only finished =>
      rw [emptied finished.live_eq]
      exact .ended current only.quiet
  | abandoned isRoot closed only finished =>
      rw [emptied finished.live_eq]
      exact .abandoned ⟨_, outermost_root isRoot, closed⟩ only.quiet
  | retired noneLive only finished =>
      refine .of_same only.quiet ?_
      rw [outermost_idle finished.live_eq, outermost_idle noneLive]

/-! ## What a journal says of physical transactions -/

/-- What is known of a journal and the physical transaction of the unit of work. -/
structure Reckoned (journal : List Entry) (current : Option Nat) : Prop where
  final : journal.Pairwise Entry.LeftAlone
  known : ∀ entry ∈ journal, ∀ resource, entry.concerns resource = true →
    resource ∈ begunIn journal
  running : ∀ resource, current = some resource →
    resource ∈ begunIn journal ∧ ∀ entry ∈ journal, entry.ends resource = false
  accounted : ∀ resource ∈ begunIn journal, current = some resource ∨
    ∃ entry ∈ journal, entry.ends resource = true ∨ entry.failsToEnd = true

theorem reckoned_nil : Reckoned [] none where
  final := List.Pairwise.nil
  known := by simp
  running := by simp
  accounted := by simp [begunIn]

theorem begunIn_append (journal entries : List Entry) :
    begunIn (journal ++ entries) = begunIn journal ++ begunIn entries :=
  List.filterMap_append

namespace Reckoned

variable {journal : List Entry} {current next : Option Nat}

/-- One more call, which concerns only the physical transaction of the unit of work. -/
theorem note (reckoned : Reckoned journal current) {entry : Entry}
    (own : ∀ resource, entry.concerns resource = true → current = some resource)
    (continues : ∀ resource, next = some resource →
      (current = some resource ∧ entry.ends resource = false) ∨
        (entry = .begun resource ∧ resource ∉ begunIn journal))
    (accounts : ∀ resource, current = some resource →
      next = some resource ∨ entry.ends resource = true ∨ entry.failsToEnd = true)
    (begins : ∀ resource, entry = .begun resource → next = some resource) :
    Reckoned (journal ++ [entry]) next where
  final := by
    refine List.pairwise_append.mpr ⟨reckoned.final, List.pairwise_singleton _ _, ?_⟩
    intro earlier member later isLater resource ends
    -- the later call concerns the running physical transaction, and this has not been ended
    obtain rfl := List.mem_singleton.mp isLater
    cases concerned : later.concerns resource with
    | false => rfl
    | true =>
        have running := (reckoned.running resource (own resource concerned)).2 earlier member
        rw [ends] at running
        cases running
  known := by
    intro other member resource concerned
    rw [begunIn_append, List.mem_append]
    rcases List.mem_append.mp member with old | new
    · exact .inl (reckoned.known other old resource concerned)
    · obtain rfl := List.mem_singleton.mp new
      exact .inl (reckoned.running resource (own resource concerned)).1
  running := by
    intro resource isNext
    rw [begunIn_append, List.mem_append]
    rcases continues resource isNext with ⟨isCurrent, lasts⟩ | ⟨rfl, fresh⟩
    · obtain ⟨begun, unended⟩ := reckoned.running resource isCurrent
      refine ⟨.inl begun, fun other member => ?_⟩
      rcases List.mem_append.mp member with old | new
      · exact unended other old
      · obtain rfl := List.mem_singleton.mp new
        exact lasts
    · refine ⟨.inr (by simp [begunIn, Entry.beginning]), fun other member => ?_⟩
      rcases List.mem_append.mp member with old | new
      · cases ends : other.ends resource with
        | false => rfl
        | true =>
            have concerned := Entry.concerns_of_ends ends
            exact absurd (reckoned.known other old resource concerned) fresh
      · obtain rfl := List.mem_singleton.mp new
        rfl
  accounted := by
    intro resource begun
    rw [begunIn_append, List.mem_append] at begun
    rcases begun with old | new
    · rcases reckoned.accounted resource old with isCurrent | ⟨other, member, ended⟩
      · rcases accounts resource isCurrent with isNext | ended
        · exact .inl isNext
        · exact .inr ⟨entry, by simp, ended⟩
      · exact .inr ⟨other, List.mem_append_left _ member, ended⟩
    · left
      apply begins
      cases entry with
      | begun other =>
          obtain rfl : resource = other := by simpa [begunIn, Entry.beginning] using new
          rfl
      | _ => simp [begunIn, Entry.beginning] at new

/-- A call that neither begins nor ends anything leaves what is known as it was. -/
theorem kept (reckoned : Reckoned journal current) {entry : Entry}
    (own : ∀ resource, entry.concerns resource = true → current = some resource)
    (unended : ∀ resource, entry.ends resource = false) (beginsNone : entry.beginning = none) :
    Reckoned (journal ++ [entry]) current := by
  apply reckoned.note own
  · exact fun resource isCurrent => .inl ⟨isCurrent, unended resource⟩
  · exact fun resource isCurrent => .inl isCurrent
  · rintro resource rfl
    cases beginsNone

theorem begun (reckoned : Reckoned journal none) {resource : Nat}
    (fresh : resource ∉ begunIn journal) :
    Reckoned (journal ++ [.begun resource]) (some resource) := by
  apply reckoned.note
  · intro other concerned
    cases concerned
  · intro other isNext
    cases isNext
    exact .inr ⟨rfl, fresh⟩
  · intro other isCurrent
    cases isCurrent
  · intro other begins
    cases begins
    rfl

/-- An attempt to end the physical transaction, after which the manager has none. -/
theorem ended {resource : Nat} (reckoned : Reckoned journal (some resource)) (ending : Ending)
    (done : Bool) : Reckoned (journal ++ [.ended ending resource done]) none := by
  apply reckoned.note
  · intro other concerned
    exact congrArg some (by simpa [Entry.concerns] using concerned)
  · intro other isNext
    cases isNext
  · intro other isCurrent
    cases isCurrent
    cases done with
    | true => exact .inr (.inl (by simp [Entry.ends]))
    | false => exact .inr (.inr rfl)
  · intro other begins
    cases begins

theorem quiet (reckoned : Reckoned journal current) {entries : List Entry}
    (quiet : Quiet entries) : Reckoned (journal ++ entries) current := by
  induction entries generalizing journal with
  | nil => rwa [List.append_nil]
  | cons entry rest ih =>
      obtain ⟨beginsNone, unconcerned⟩ := quiet.unconcerned List.mem_cons_self
      have unended : ∀ resource, entry.ends resource = false := by
        intro resource
        cases ends : entry.ends resource with
        | false => rfl
        | true => rw [← unconcerned resource, Entry.concerns_of_ends ends]
      have noted : Reckoned (journal ++ [entry]) current := by
        refine reckoned.kept (fun resource concerned => ?_) unended beginsNone
        rw [unconcerned resource] at concerned
        cases concerned
      rw [List.append_cons]
      exact ih noted fun other member => quiet other (List.mem_cons_of_mem _ member)

/-- The manager may lose sight of a physical transaction that could not be ended. -/
theorem lost (reckoned : Reckoned journal current)
    (failed : ∃ entry ∈ journal, entry.failsToEnd = true) : Reckoned journal none where
  final := reckoned.final
  known := reckoned.known
  running := by simp
  accounted := by
    intro resource begun
    obtain ⟨entry, member, fails⟩ := failed
    exact .inr ⟨entry, member, .inr fails⟩

theorem effect {session : Session ω} {entries : List Entry}
    (reckoned : Reckoned journal session.currentResource)
    (shutAfterFailure : session.RootShut → ∃ entry ∈ journal, entry.failsToEnd = true)
    (nodup : (begunIn (journal ++ entries)).Nodup) (effect : Effect session entries next) :
    Reckoned (journal ++ entries) next := by
  cases effect with
  | none quiet => exact reckoned.quiet quiet
  | @used before after request done quietBefore bound quietAfter =>
      have noted : Reckoned (journal ++ before ++ [.executed request done])
          session.currentResource := by
        refine (reckoned.quiet quietBefore).kept (fun resource concerned => ?_) (fun _ => rfl) rfl
        rw [← bound]
        simpa [Entry.concerns] using concerned
      rw [← List.append_assoc, List.append_cons]
      exact noted.quiet quietAfter
  | @begun before resource idle quiet =>
      rw [← List.append_assoc] at nodup ⊢
      have fresh : resource ∉ begunIn (journal ++ before) := by
        rw [begunIn_append] at nodup
        have apart := (List.nodup_append.mp nodup).2.2
        exact fun old => apart resource old resource (by simp [begunIn, Entry.beginning]) rfl
      rw [idle] at reckoned
      exact (reckoned.quiet quiet).begun fresh
  | survived current =>
      rw [current] at reckoned
      refine reckoned.kept (fun other concerned => ?_) (fun _ => rfl) rfl
      exact congrArg some (by simpa [Entry.concerns] using concerned)
  | @ended ending resource done later current quiet =>
      rw [current] at reckoned
      rw [List.append_cons]
      exact (reckoned.ended ending done).quiet quiet
  | abandoned shut quiet => exact (reckoned.lost (shutAfterFailure shut)).quiet quiet

end Reckoned

/-- A journal accounts for the physical transactions of a session. -/
structure Accounts (journal : List Entry) (session : Session ω) : Prop where
  reckoned : Reckoned journal session.currentResource
  shutAfterFailure : session.RootShut → ∃ entry ∈ journal, entry.failsToEnd = true

/-- The journal of a run accounts for the session that the run reaches. -/
theorem journal_accounts (outside : Outside ω) (world : ω) (operations : List Operation) :
    Accounts (outside.journalOf world operations) (outside.journaledAfter world operations) := by
  refine Outside.journaled_induction (fun _ journal session => Accounts journal session)
    ⟨reckoned_nil, ?_⟩ ?_ operations
  · rintro ⟨handle, isOutermost, _⟩
    cases isOutermost
  · intro earlier operation session entries reached turn accounts
    have outcome := turn.performed.outcome
    have effect := outcome.effect turn.coherent
    refine ⟨accounts.reckoned.effect accounts.shutAfterFailure turn.nodup effect, fun shut => ?_⟩
    rcases outcome.rootShut turn.coherent shut with already | ⟨entry, member, fails⟩
    · obtain ⟨entry, member, fails⟩ := accounts.shutAfterFailure already
      exact ⟨entry, List.mem_append_left _ member, fails⟩
    · exact ⟨entry, List.mem_append_right _ member, fails⟩

/-! ## The end of physical transactions -/

/-- A physical transaction that is left alone after its end has ended once at most. -/
theorem countP_ends_le_one {journal : List Entry} (resource : Nat)
    (final : journal.Pairwise Entry.LeftAlone) :
    journal.countP (Entry.ends resource) ≤ 1 := by
  induction journal with
  | nil => simp
  | cons entry rest ih =>
      obtain ⟨first, restFinal⟩ := List.pairwise_cons.mp final
      cases ends : entry.ends resource with
      | false =>
          simpa [ends] using ih restFinal
      | true =>
          have noneLater : rest.countP (Entry.ends resource) = 0 := by
            refine List.countP_eq_zero.mpr fun later member laterEnds => ?_
            have left := first later member resource ends
            rw [Entry.concerns_of_ends laterEnds] at left
            cases left
          simp [ends, noneLater]

theorem countP_ends_eq_one {journal : List Entry} {resource : Nat}
    (final : journal.Pairwise Entry.LeftAlone)
    (ended : ∃ entry ∈ journal, entry.ends resource = true) :
    journal.countP (Entry.ends resource) = 1 := by
  have atMost := countP_ends_le_one resource final
  have atLeast : 0 < journal.countP (Entry.ends resource) := List.countP_pos_iff.mpr ended
  omega

/-- If none could not be ended, a physical transaction other than that of the unit
of work has been ended. -/
theorem Reckoned.countP_ends {journal : List Entry} {current : Option Nat} {resource : Nat}
    (reckoned : Reckoned journal current) (noFailure : ∀ entry ∈ journal, entry.failsToEnd = false)
    (begun : resource ∈ begunIn journal) (notCurrent : current ≠ some resource) :
    journal.countP (Entry.ends resource) = 1 := by
  refine countP_ends_eq_one reckoned.final ?_
  rcases reckoned.accounted resource begun with isCurrent | ⟨entry, member, ends | fails⟩
  · exact absurd isCurrent notCurrent
  · exact ⟨entry, member, ends⟩
  · rw [noFailure entry member] at fails
    cases fails

/-- In every run, a physical transaction is ended at most once and is left
alone from then on.  Unless one could not be ended, they have all been ended
while the manager is idle, and all but that of the unit of work while it is
active. -/
theorem resources_end_once (outside : Outside ω) (world : ω) (operations : List Operation) :
    let journal := outside.journalOf world operations
    let manager := (outside.after (fresh world) operations).manager
    (∀ resource, journal.countP (Entry.ends resource) ≤ 1) ∧
      journal.Pairwise Entry.LeftAlone ∧
      ((∀ entry ∈ journal, entry.failsToEnd = false) →
        (manager.phase = .idle →
          ∀ resource ∈ begunIn journal, journal.countP (Entry.ends resource) = 1) ∧
        (manager.phase = .active →
          ∃ current ∈ begunIn journal,
            (outside.journaledAfter world operations).currentResource = some current ∧
            journal.countP (Entry.ends current) = 0 ∧
            ∀ resource ∈ begunIn journal, resource ≠ current →
              journal.countP (Entry.ends resource) = 1)) := by
  intro journal manager
  generalize sessionEq : outside.journaledAfter world operations = session
  have reckoned : Reckoned journal session.currentResource :=
    sessionEq ▸ (journal_accounts outside world operations).reckoned
  have coherent : session.Coherent :=
    sessionEq ▸ outside.journaled.after_coherent (coherent_fresh _) operations
  have manager_eq : session.manager = manager :=
    sessionEq ▸ outside.journaledAfter_manager world operations
  rw [← manager_eq]
  refine ⟨fun resource => countP_ends_le_one resource reckoned.final, reckoned.final, ?_⟩
  intro noFailure
  constructor
  · intro idle resource begun
    refine reckoned.countP_ends noFailure begun ?_
    rw [currentResource_eq, outermost_idle (coherent.noneLive_of_idle idle)]
    simp
  · intro active
    obtain ⟨root, rest, levels⟩ := List.exists_cons_of_ne_nil (coherent.live_of_active active)
    have current := coherent.shared root (by simp [levels])
    obtain ⟨begun, unended⟩ := reckoned.running _ current
    refine ⟨_, begun, current, List.countP_eq_zero.mpr fun entry member => ?_, ?_⟩
    · simp [unended entry member]
    · intro resource begunToo different
      refine reckoned.countP_ends noFailure begunToo fun isCurrent => different ?_
      exact Option.some.inj (isCurrent.symm.trans current)

end EntitySql
