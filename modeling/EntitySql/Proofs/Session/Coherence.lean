import EntitySql.Proofs.Session.Books
import EntitySql.Proofs.Session.Operation

/-!
# Coherent books

Between two operations the books of a manager agree with each other: the
phase with the live handles, the live handles among themselves and with the
marks on all handles, the ownership of the connection and the disposal with
the live handles.  This file defines this invariant and shows that every
change an operation makes to the books keeps it.
-/

namespace EntitySql

variable {ω : Type}

namespace Session

/-- The books agree with each other. -/
structure Coherent (session : Session ω) : Prop where
  phase_eq : session.manager.phase = if session.manager.live = [] then .idle else .active
  nodup : session.manager.live.Nodup
  issued : ∀ number ∈ session.manager.live, number < session.handles.length
  shared : ∀ number ∈ session.manager.live,
    session.currentResource = some (session.handleAt number).resource
  root_depth : ∀ number, session.manager.live.head? = some number →
    (session.handleAt number).depth = 1
  nested_depth : ∀ number ∈ session.manager.live.tail, (session.handleAt number).depth ≠ 1
  nested_open : ∀ number ∈ session.manager.live.tail, (session.handleAt number).closed = false
  incomplete_iff : ∀ number < session.handles.length,
    ((session.handleAt number).completed = false ↔ number ∈ session.manager.live)
  owns : session.manager.ownsConnection = true → session.manager.live ≠ []
  disposed : session.manager.disposed = true → session.manager.live = []

theorem coherent_fresh (world : ω) : (fresh world).Coherent where
  phase_eq := rfl
  nodup := List.nodup_nil
  issued := by simp [fresh]
  shared := by simp [fresh]
  root_depth := by simp [fresh]
  nested_depth := by simp [fresh]
  nested_open := by simp [fresh]
  incomplete_iff := by simp [fresh]
  owns := by simp [fresh]
  disposed := by simp [fresh]

namespace Coherent

variable {session : Session ω}

theorem active (coherent : session.Coherent) (live : session.manager.live ≠ []) :
    session.manager.phase = .active := by
  rw [coherent.phase_eq, if_neg live]

theorem idle (coherent : session.Coherent) (noneLive : session.manager.live = []) :
    session.manager.phase = .idle := by
  rw [coherent.phase_eq, if_pos noneLive]

theorem live_of_active (coherent : session.Coherent) (active : session.manager.phase = .active) :
    session.manager.live ≠ [] := by
  intro noneLive
  rw [coherent.idle noneLive] at active
  cases active

theorem noneLive_of_idle (coherent : session.Coherent) (idle : session.manager.phase = .idle) :
    session.manager.live = [] := by
  by_cases noneLive : session.manager.live = []
  · exact noneLive
  · rw [coherent.active noneLive] at idle
    cases idle

theorem there (coherent : session.Coherent) (live : session.manager.live ≠ []) :
    session.manager.disposed = false := by
  cases disposed : session.manager.disposed with
  | false => rfl
  | true => exact absurd (coherent.disposed disposed) live

theorem incomplete (coherent : session.Coherent) {number : Nat}
    (live : number ∈ session.manager.live) : (session.handleAt number).completed = false :=
  (coherent.incomplete_iff number (coherent.issued number live)).mpr live

theorem completed (coherent : session.Coherent) {number : Nat}
    (issued : number < session.handles.length) (stale : number ∉ session.manager.live) :
    (session.handleAt number).completed = true := by
  cases mark : (session.handleAt number).completed with
  | true => rfl
  | false => exact absurd ((coherent.incomplete_iff number issued).mp mark) stale

theorem root_isRoot (coherent : session.Coherent) {number : Nat}
    (root : session.manager.live.head? = some number) :
    (session.handleAt number).isRoot = true := by
  simp [Handle.isRoot, coherent.root_depth number root]

theorem nested_isRoot (coherent : session.Coherent) {number : Nat}
    (nested : number ∈ session.manager.live.tail) :
    (session.handleAt number).isRoot = false := by
  simpa [Handle.isRoot] using coherent.nested_depth number nested

/-- The outermost handle in use is none of the nested ones. -/
theorem root_notMem_tail (coherent : session.Coherent) {root : Nat}
    (isRoot : session.manager.live.head? = some root) : root ∉ session.manager.live.tail := by
  obtain ⟨rest, levels⟩ := List.head?_eq_some_iff.mp isRoot
  have distinct := coherent.nodup
  rw [levels] at distinct ⊢
  exact (List.nodup_cons.mp distinct).1

/-- Coherence depends on the state of the manager and, of the handles, on what
they share, their depths and their marks. -/
theorem of_views {reached : Session ω} (coherent : session.Coherent)
    (manager_eq : reached.manager = session.manager)
    (length_eq : reached.handles.length = session.handles.length)
    (resource_eq : ∀ number,
      (reached.handleAt number).resource = (session.handleAt number).resource)
    (depth_eq : ∀ number, (reached.handleAt number).depth = (session.handleAt number).depth)
    (completed_eq : ∀ number,
      (reached.handleAt number).completed = (session.handleAt number).completed)
    (nested_open : ∀ number ∈ session.manager.live.tail,
      (reached.handleAt number).closed = false) : reached.Coherent where
  phase_eq := by rw [manager_eq]; exact coherent.phase_eq
  nodup := by rw [manager_eq]; exact coherent.nodup
  issued := by rw [manager_eq, length_eq]; exact coherent.issued
  shared number member := by
    rw [manager_eq] at member
    rw [resource_eq, ← coherent.shared number member, currentResource, currentResource,
      manager_eq]
    simp [resource_eq]
  root_depth number root := by
    rw [manager_eq] at root
    rw [depth_eq, coherent.root_depth number root]
  nested_depth number nested := by
    rw [manager_eq] at nested
    rw [depth_eq]
    exact coherent.nested_depth number nested
  nested_open number nested := nested_open number (by rwa [manager_eq] at nested)
  incomplete_iff number issued := by
    rw [length_eq] at issued
    rw [completed_eq, manager_eq]
    exact coherent.incomplete_iff number issued
  owns := by rw [manager_eq]; exact coherent.owns
  disposed := by rw [manager_eq]; exact coherent.disposed

theorem beside {reached : Session ω} (coherent : session.Coherent)
    (beside : session.Beside reached) : reached.Coherent := by
  apply coherent.of_views beside.manager_eq (by rw [beside.handles_eq])
  · exact fun number => by rw [beside.handleAt_eq]
  · exact fun number => by rw [beside.handleAt_eq]
  · exact fun number => by rw [beside.handleAt_eq]
  · intro number nested
    rw [beside.handleAt_eq]
    exact coherent.nested_open number nested

/-- A handle that is no nested live one may be closed. -/
theorem shut (coherent : session.Coherent) {number : Nat}
    (notNested : number ∉ session.manager.live.tail) :
    (session.marked number Handle.shut).Coherent := by
  apply coherent.of_views (marked_manager number Handle.shut session)
    (marked_length number Handle.shut session)
  · exact fun other => resource_marked_shut number other session
  · exact fun other =>
      handleAt_marked_view Handle.depth Handle.shut (fun _ => rfl) number other session
  · exact fun other => completed_marked_shut number other session
  · intro other nested
    have different : number ≠ other := fun same => notNested (same ▸ nested)
    rw [handleAt_marked_of_ne different]
    exact coherent.nested_open other nested

end Coherent

/-! ## The end of a unit of work -/

/-- No handle is live, and every handle given out before is completed. -/
structure Finished (session reached : Session ω) : Prop where
  phase_eq : reached.manager.phase = .idle
  live_eq : reached.manager.live = []
  owns_eq : reached.manager.ownsConnection = false
  length_eq : reached.handles.length = session.handles.length
  completed : ∀ number < session.handles.length, (reached.handleAt number).completed = true

theorem Finished.coherent {session reached : Session ω} (finished : session.Finished reached) :
    reached.Coherent where
  phase_eq := by rw [finished.phase_eq, finished.live_eq, if_pos rfl]
  nodup := by rw [finished.live_eq]; exact List.nodup_nil
  issued := by simp [finished.live_eq]
  shared := by simp [finished.live_eq]
  root_depth := by simp [finished.live_eq]
  nested_depth := by simp [finished.live_eq]
  nested_open := by simp [finished.live_eq]
  incomplete_iff number issued := by
    rw [finished.length_eq] at issued
    simp [finished.live_eq, finished.completed number issued]
  owns := by simp [finished.owns_eq]
  disposed _ := finished.live_eq

/-- A unit of work concluded from coherent books is finished. -/
theorem Coherent.finished {session reached : Session ω} (coherent : session.Coherent)
    (concluded : session.Concluded reached) : session.Finished reached where
  phase_eq := by rw [concluded.manager_eq]
  live_eq := by rw [concluded.manager_eq]
  owns_eq := by rw [concluded.manager_eq]
  length_eq := concluded.length_eq
  completed number issued := by
    rw [concluded.completed_eq number issued]
    by_cases live : number ∈ session.manager.live
    · simp [live]
    · simp [coherent.completed issued live]

/-- With no live handle there is nothing left to finish. -/
theorem Coherent.finished_of_idle {session : Session ω} (coherent : session.Coherent)
    (noneLive : session.manager.live = []) : session.Finished session where
  phase_eq := coherent.idle noneLive
  live_eq := noneLive
  owns_eq := by
    cases owned : session.manager.ownsConnection with
    | false => rfl
    | true => exact absurd noneLive (coherent.owns owned)
  length_eq := rfl
  completed number issued := coherent.completed issued (by simp [noneLive])

theorem Finished.beside {session reached last : Session ω} (finished : session.Finished reached)
    (beside : reached.Beside last) : session.Finished last where
  phase_eq := by rw [beside.manager_eq, finished.phase_eq]
  live_eq := by rw [beside.manager_eq, finished.live_eq]
  owns_eq := by rw [beside.manager_eq, finished.owns_eq]
  length_eq := by rw [beside.handles_eq, finished.length_eq]
  completed number issued := by rw [beside.handleAt_eq, finished.completed number issued]

theorem Finished.given_up {session reached : Session ω} {disposed : Bool}
    (finished : session.Finished reached) :
    session.Finished { reached with manager := { reached.manager with disposed } } :=
  ⟨finished.phase_eq, finished.live_eq, finished.owns_eq, finished.length_eq,
    finished.completed⟩

/-! ## Levels -/

/-- The session with one more nesting level, under a new handle. -/
def pushed (resource : Nat) (session : Session ω) : Session ω :=
  { session with
    handles := session.handles ++ [{ resource, depth := session.manager.live.length + 1 }]
    manager := { session.manager with live := session.manager.live ++ [session.handles.length] } }

/-- The session at the moment its physical transaction has begun. -/
def activated (owns : Bool) (session : Session ω) : Session ω :=
  { session with manager := { session.manager with ownsConnection := owns, phase := .active } }

/-- The session with a nested level completed. -/
def left (number : Nat) (session : Session ω) : Session ω :=
  { session.marked number Handle.complete with
    manager := { session.manager with live := session.manager.live.erase number } }

theorem handleAt_pushed_of_lt (session : Session ω) {number : Nat}
    (issued : number < session.handles.length) (resource : Nat) :
    (session.pushed resource).handleAt number = session.handleAt number := by
  simp [handleAt, pushed, List.getElem?_append_left issued]

theorem handleAt_pushed_new (session : Session ω) (resource : Nat) :
    (session.pushed resource).handleAt session.handles.length =
      { resource, depth := session.manager.live.length + 1 } := by
  simp [handleAt, pushed]

theorem pushed_length (session : Session ω) (resource : Nat) :
    (session.pushed resource).handles.length = session.handles.length + 1 := by
  simp [pushed]

theorem Coherent.started {session : Session ω} (coherent : session.Coherent)
    (there : session.manager.disposed = false) (noneLive : session.manager.live = [])
    (resource : Nat) (owns : Bool) : ((session.activated owns).pushed resource).Coherent where
  phase_eq := by simp [pushed, activated]
  nodup := by simp [pushed, activated, noneLive]
  issued := by simp [pushed, activated, noneLive]
  shared := by simp [pushed, activated, noneLive, currentResource]
  root_depth := by simp [pushed, activated, noneLive, handleAt]
  nested_depth := by simp [pushed, activated, noneLive]
  nested_open := by simp [pushed, activated, noneLive]
  incomplete_iff number issued := by
    rw [pushed_length] at issued
    change number < session.handles.length + 1 at issued
    rcases Nat.lt_succ_iff_lt_or_eq.mp issued with older | new
    · have mark : (session.handleAt number).completed = true :=
        coherent.completed older (by simp [noneLive])
      have same : ((session.activated owns).pushed resource).handleAt number =
          session.handleAt number :=
        handleAt_pushed_of_lt (session.activated owns) older resource
      rw [same, mark]
      simp [pushed, activated, noneLive, Nat.ne_of_lt older]
    · subst number
      have same := handleAt_pushed_new (session.activated owns) resource
      change ((session.activated owns).pushed resource).handleAt session.handles.length = _ at same
      rw [same]
      simp [pushed, activated]
  owns _ := by simp [pushed]
  disposed gone := by
    change session.manager.disposed = true at gone
    rw [there] at gone
    cases gone

/-- A handle stands for a nested level over a physical transaction, and has not been closed. -/
structure Nests (resource : Nat) (handle : Handle) : Prop where
  resource_eq : handle.resource = resource
  depth_ne : handle.depth ≠ 1
  notClosed : handle.closed = false

/-- Live handles stand for levels over the current physical transaction. -/
theorem Coherent.resource_eq {session : Session ω} (coherent : session.Coherent) {resource : Nat}
    (current : session.currentResource = some resource) {number : Nat}
    (live : number ∈ session.manager.live) : (session.handleAt number).resource = resource :=
  Option.some.inj ((coherent.shared number live).symm.trans current)

theorem Coherent.nests {session : Session ω} (coherent : session.Coherent) {resource : Nat}
    (current : session.currentResource = some resource) {number : Nat}
    (nested : number ∈ session.manager.live.tail) :
    Nests resource (session.handleAt number) where
  resource_eq := coherent.resource_eq current (List.mem_of_mem_tail nested)
  depth_ne := coherent.nested_depth number nested
  notClosed := coherent.nested_open number nested

/-- Books with live handles are coherent if the outermost handle and the nested
ones are as they should be. -/
theorem coherent_of_levels {session : Session ω} {root : Nat} {rest : List Nat}
    {resource : Nat} (levels : session.manager.live = root :: rest)
    (active : session.manager.phase = .active) (there : session.manager.disposed = false)
    (distinct : (root :: rest).Nodup)
    (issued : ∀ number ∈ root :: rest, number < session.handles.length)
    (root_resource : (session.handleAt root).resource = resource)
    (root_depth : (session.handleAt root).depth = 1)
    (nested : ∀ number ∈ rest, Nests resource (session.handleAt number))
    (incomplete_iff : ∀ number < session.handles.length,
      ((session.handleAt number).completed = false ↔ number ∈ root :: rest)) :
    session.Coherent where
  phase_eq := by rw [active, levels, if_neg (List.cons_ne_nil root rest)]
  nodup := levels ▸ distinct
  issued := levels ▸ issued
  shared number member := by
    have shared : ∀ number ∈ root :: rest, (session.handleAt number).resource = resource :=
      List.forall_mem_cons.mpr ⟨root_resource, fun number member => (nested number member).resource_eq⟩
    rw [levels] at member
    rw [shared number member, currentResource, levels, List.head?_cons, Option.map_some,
      root_resource]
  root_depth number head := by
    rw [levels] at head
    obtain rfl : root = number := by simpa using head
    exact root_depth
  nested_depth := by
    rw [levels]
    exact fun number member => (nested number member).depth_ne
  nested_open := by
    rw [levels]
    exact fun number member => (nested number member).notClosed
  incomplete_iff := levels ▸ incomplete_iff
  owns _ := by rw [levels]; exact List.cons_ne_nil root rest
  disposed gone := by
    rw [there] at gone
    cases gone

theorem Coherent.nested {session : Session ω} {resource : Nat} (coherent : session.Coherent)
    (current : session.currentResource = some resource) :
    (session.pushed resource).Coherent := by
  cases levels : session.manager.live with
  | nil => simp [currentResource, levels] at current
  | cons root rest =>
      have live : session.manager.live ≠ [] := by simp [levels]
      have issued : ∀ number ∈ root :: rest, number < session.handles.length :=
        levels ▸ coherent.issued
      have older : ∀ number ∈ root :: rest,
          (session.pushed resource).handleAt number = session.handleAt number :=
        fun number member => handleAt_pushed_of_lt session (issued number member) resource
      have newest := handleAt_pushed_new session resource
      have levelsAfter : (session.pushed resource).manager.live =
          root :: (rest ++ [session.handles.length]) := by
        simp [pushed, levels]
      have root_resource : ((session.pushed resource).handleAt root).resource = resource := by
        rw [older root List.mem_cons_self]
        exact coherent.resource_eq current (by simp [levels])
      have root_depth : ((session.pushed resource).handleAt root).depth = 1 := by
        rw [older root List.mem_cons_self]
        exact coherent.root_depth root (by simp [levels])
      refine coherent_of_levels levelsAfter (coherent.active live) (coherent.there live)
        ?_ ?_ root_resource root_depth ?_ ?_
      · have unused : session.handles.length ∉ root :: rest :=
          fun member => Nat.lt_irrefl _ (issued _ member)
        rw [← List.cons_append]
        refine List.nodup_append.mpr ⟨levels ▸ coherent.nodup, by simp, ?_⟩
        intro number member other new same
        rw [List.mem_singleton] at new
        exact unused (new ▸ same ▸ member)
      · rw [pushed_length, ← List.cons_append, List.forall_mem_append, List.forall_mem_singleton]
        exact ⟨fun number member => Nat.lt_succ_of_lt (issued number member), Nat.lt_succ_self _⟩
      · rw [List.forall_mem_append, List.forall_mem_singleton, newest]
        constructor
        · intro number member
          rw [older number (List.mem_cons_of_mem root member)]
          exact coherent.nests current (by simpa [levels] using member)
        · have deeper : (session.manager.live.length : Int) + 1 ≠ 1 := by
            simp only [levels, List.length_cons]
            omega
          exact ⟨rfl, deeper, rfl⟩
      · intro number before
        rw [pushed_length] at before
        rw [← List.cons_append, List.mem_append, ← levels]
        rcases Nat.lt_succ_iff_lt_or_eq.mp before with old | rfl
        · rw [handleAt_pushed_of_lt session old, coherent.incomplete_iff number old]
          simp [Nat.ne_of_lt old]
        · rw [newest]
          simp

/-- Completing a handle and giving up its level leaves just the other handles incomplete. -/
theorem Coherent.incomplete_left_iff {session : Session ω} (coherent : session.Coherent)
    (number : Nat) {other : Nat} (issued : other < session.handles.length) :
    ((session.left number).handleAt other).completed = false ↔
      other ∈ session.manager.live.erase number := by
  rw [coherent.nodup.mem_erase_iff]
  by_cases same : number = other
  · subst other
    have mark : ((session.left number).handleAt number).completed = true :=
      congrArg Handle.completed (handleAt_marked_self issued Handle.complete)
    simp [mark]
  · have kept : (session.left number).handleAt other = session.handleAt other :=
      handleAt_marked_of_ne same Handle.complete session
    rw [kept, coherent.incomplete_iff other issued]
    simp [Ne.symm same]

/-- Giving up a nested level leaves the outermost one. -/
theorem Coherent.live_left {session : Session ω} (coherent : session.Coherent) {root number : Nat}
    {rest : List Nat} (levels : session.manager.live = root :: rest) (nested : number ∈ rest) :
    number ≠ root ∧ (session.left number).manager.live = root :: rest.erase number := by
  have notNested : root ∉ rest := by
    have notTail : root ∉ session.manager.live.tail :=
      coherent.root_notMem_tail (by rw [levels, List.head?_cons])
    rwa [levels] at notTail
  have different : number ≠ root := fun same => notNested (same ▸ nested)
  refine ⟨different, ?_⟩
  change session.manager.live.erase number = _
  rw [levels, List.erase_cons_tail (by simpa using different.symm)]

theorem Coherent.left {session : Session ω} {number : Nat} (coherent : session.Coherent)
    (nested : number ∈ session.manager.live.tail) : (session.left number).Coherent := by
  cases levels : session.manager.live with
  | nil => simp [levels] at nested
  | cons root rest =>
      have live : session.manager.live ≠ [] := by simp [levels]
      have rootLive : root ∈ session.manager.live := by simp [levels]
      have current := coherent.shared root rootLive
      have distinct : (root :: rest).Nodup := levels ▸ coherent.nodup
      have restDistinct : rest.Nodup := (List.nodup_cons.mp distinct).2
      have nestedRest : number ∈ rest := by simpa [levels] using nested
      obtain ⟨different, levelsAfter⟩ := coherent.live_left levels nestedRest
      have stillLive : root :: rest.erase number ⊆ session.manager.live := by
        rw [levels]
        exact List.cons_subset_cons root List.erase_subset
      have kept : ∀ other, number ≠ other →
          (session.left number).handleAt other = session.handleAt other :=
        fun other different => handleAt_marked_of_ne different Handle.complete session
      have length_eq : (session.left number).handles.length = session.handles.length :=
        marked_length number Handle.complete session
      have root_depth : ((session.left number).handleAt root).depth = 1 := by
        rw [kept root different]
        exact coherent.root_depth root (by simp [levels])
      refine coherent_of_levels levelsAfter (coherent.active live) (coherent.there live)
        ?_ ?_ (congrArg Handle.resource (kept root different)) root_depth ?_ ?_
      · rw [← levelsAfter]
        exact coherent.nodup.erase number
      · rw [length_eq]
        exact fun other member => coherent.issued other (stillLive member)
      · intro other member
        obtain ⟨other_ne, otherNested⟩ := restDistinct.mem_erase_iff.mp member
        rw [kept other other_ne.symm]
        exact coherent.nests current (by simpa [levels] using otherNested)
      · intro other issued
        rw [length_eq] at issued
        rw [← levelsAfter]
        exact coherent.incomplete_left_iff number issued

end Session

end EntitySql
