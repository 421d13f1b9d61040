import EntitySql.Association
import Mathlib.Data.List.Basic
import Mathlib.Data.List.Perm.Subperm

/-!
# Looking up in associations

What stands under a key after entries have been put behind one another: the
first entry under the key counts.
-/

namespace EntitySql.Association

variable {κ ν : Type} [BEq κ] {entries later : Association κ ν} {key other : κ} {value : ν}

@[simp]
theorem find_nil : find ([] : Association κ ν) key = none :=
  rfl

theorem find_cons [LawfulBEq κ] [DecidableEq κ] :
    find ((other, value) :: entries) key = if other = key then some value else find entries key := by
  by_cases same : other = key <;> simp [find, same]

@[simp]
theorem find_append : find (entries ++ later) key = (find entries key).or (find later key) := by
  cases found : entries.find? (·.1 == key) <;> simp [find, found]

/-- Where entries are kept by their keys, a key is found as before or not at all. -/
theorem find_filter [LawfulBEq κ] [DecidableEq κ] (keep : κ → Bool)
    (entries : Association κ ν) (key : κ) :
    find (entries.filter fun entry => keep entry.1) key =
      if keep key then find entries key else none := by
  induction entries with
  | nil => simp
  | cons entry rest ih =>
      obtain ⟨other, value⟩ := entry
      rw [List.filter_cons, find_cons]
      by_cases asked : other = key
      · subst asked
        by_cases kept : keep other
        · simp [kept, find_cons]
        · simp [kept, ih]
      · rw [if_neg asked, ← ih]
        split
        · rw [find_cons, if_neg asked]
        · rfl

theorem has_eq_isSome : has entries key = (find entries key).isSome := by
  simp [has, find, List.isSome_find?]

theorem has_iff_mem [LawfulBEq κ] : has entries key = true ↔ key ∈ entries.map (·.1) := by
  simp [has]

/-- Storing adds no key but the one that is stored under. -/
theorem mem_keys_put [LawfulBEq κ] :
    other ∈ (put entries key value).map (·.1) ↔ other ∈ entries.map (·.1) ∨ other = key := by
  induction entries with
  | nil => simp [put]
  | cons entry rest ih =>
      rw [put]
      split
      · rename_i same
        have isKey : entry.1 = key := eq_of_beq same
        simp only [List.map_cons, List.mem_cons, isKey]
        tauto
      · simp only [List.map_cons, List.mem_cons, ih, or_assoc]

theorem mem_keys_foldl_put [LawfulBEq κ] (pairs : List (κ × ν)) :
    other ∈ (pairs.foldl (fun entries pair => put entries pair.1 pair.2) entries).map (·.1) ↔
      other ∈ entries.map (·.1) ∨ other ∈ pairs.map (·.1) := by
  induction pairs generalizing entries with
  | nil => simp
  | cons pair rest ih =>
      rw [List.foldl_cons, ih, mem_keys_put, List.map_cons, List.mem_cons, or_assoc]

theorem mem_keys_ofPairs [LawfulBEq κ] {pairs : List (κ × ν)} :
    other ∈ (ofPairs pairs).map (·.1) ↔ other ∈ pairs.map (·.1) := by
  simp [ofPairs, mem_keys_foldl_put]

theorem ofPairs_eq_nil_iff [LawfulBEq κ] {pairs : List (κ × ν)} : ofPairs pairs = [] ↔ pairs = [] := by
  constructor
  · intro empty
    cases pairs with
    | nil => rfl
    | cons pair rest =>
        have first : pair.1 ∈ (ofPairs (pair :: rest)).map (·.1) := mem_keys_ofPairs.mpr (by simp)
        simp [empty] at first
  · rintro rfl
    rfl

/-- Where no key comes twice, every value is found under its key. -/
theorem find_of_mem [LawfulBEq κ] [DecidableEq κ] (nodup : (entries.map (·.1)).Nodup)
    (member : (key, value) ∈ entries) : find entries key = some value := by
  induction entries with
  | nil => cases member
  | cons entry rest ih =>
      obtain ⟨other, first⟩ := entry
      rw [List.map_cons, List.nodup_cons] at nodup
      rw [find_cons]
      rcases List.mem_cons.mp member with same | later
      · cases same
        simp
      · have different : other ≠ key := by
          rintro rfl
          exact nodup.1 (List.mem_map.mpr ⟨_, later, rfl⟩)
        rw [if_neg different, ih nodup.2 later]

theorem mem_of_find [LawfulBEq κ] (found : find entries key = some value) :
    (key, value) ∈ entries := by
  obtain ⟨entry, isEntry, rfl⟩ := Option.map_eq_some_iff.mp found
  have named : entry.1 = key := eq_of_beq (List.find?_some isEntry :)
  rw [← named]
  exact List.mem_of_find?_eq_some isEntry

theorem mem_of_mem_put [LawfulBEq κ] {entry : κ × ν} (member : entry ∈ put entries key value) :
    entry ∈ entries ∨ entry = (key, value) := by
  induction entries with
  | nil => exact .inr (List.mem_singleton.mp member)
  | cons first rest ih =>
      rw [put] at member
      split at member
      · rename_i same
        rw [eq_of_beq same] at member
        rcases List.mem_cons.mp member with stored | later
        · exact .inr stored
        · exact .inl (List.mem_cons_of_mem _ later)
      · rcases List.mem_cons.mp member with rfl | later
        · exact .inl List.mem_cons_self
        · exact (ih later).imp_left (List.mem_cons_of_mem _)

/-- Storing pairs makes up no pairs. -/
theorem mem_of_mem_ofPairs [LawfulBEq κ] {pairs : List (κ × ν)} {entry : κ × ν}
    (member : entry ∈ ofPairs pairs) : entry ∈ pairs := by
  suffices general : ∀ stored : Association κ ν,
      entry ∈ pairs.foldl (fun entries pair => put entries pair.1 pair.2) stored →
        entry ∈ stored ∨ entry ∈ pairs by
    simpa using general [] member
  clear member
  induction pairs with
  | nil => exact fun stored member => .inl member
  | cons pair rest ih =>
      intro stored member
      rcases ih _ member with isStored | later
      · exact (mem_of_mem_put isStored).imp_right fun isPair => List.mem_cons.mpr (.inl isPair)
      · exact .inr (List.mem_cons_of_mem _ later)

/-- Under a new key a value is stored behind all others. -/
theorem put_of_not_mem [LawfulBEq κ] (new : key ∉ entries.map (·.1)) :
    put entries key value = entries ++ [(key, value)] := by
  induction entries with
  | nil => rfl
  | cons entry rest ih =>
      rw [List.map_cons, List.mem_cons, not_or] at new
      rw [put, if_neg (by simpa using Ne.symm new.1), ih new.2, List.cons_append]

/-- Pairs with different keys are stored as they are. -/
theorem ofPairs_of_nodup [LawfulBEq κ] {pairs : List (κ × ν)} (nodup : (pairs.map (·.1)).Nodup) :
    ofPairs pairs = pairs := by
  suffices general : ∀ stored : Association κ ν, ((stored ++ pairs).map (·.1)).Nodup →
      pairs.foldl (fun entries pair => put entries pair.1 pair.2) stored = stored ++ pairs by
    simpa [ofPairs] using general [] (by simpa using nodup)
  clear nodup
  induction pairs with
  | nil => simp
  | cons pair rest ih =>
      intro stored nodup
      have new : pair.1 ∉ stored.map (·.1) := by
        intro old
        rw [List.map_append, List.nodup_append] at nodup
        exact nodup.2.2 _ old _ (by simp) rfl
      rw [List.foldl_cons, put_of_not_mem new, ih _ (by simpa using nodup), List.append_assoc,
        List.singleton_append]

theorem nodup_keys_put [LawfulBEq κ] (nodup : (entries.map (·.1)).Nodup) :
    ((put entries key value).map (·.1)).Nodup := by
  induction entries with
  | nil => simp [put]
  | cons entry rest ih =>
      rw [List.map_cons, List.nodup_cons] at nodup
      rw [put]
      split
      · exact List.nodup_cons.mpr nodup
      · rename_i different
        refine List.nodup_cons.mpr ⟨fun isKey => ?_, ih nodup.2⟩
        rcases mem_keys_put.mp isKey with later | same
        · exact nodup.1 later
        · exact different (beq_iff_eq.mpr same)

/-- No key is stored twice. -/
theorem nodup_keys_ofPairs [LawfulBEq κ] (pairs : List (κ × ν)) : ((ofPairs pairs).map (·.1)).Nodup := by
  suffices general : ∀ stored : Association κ ν, (stored.map (·.1)).Nodup →
      ((pairs.foldl (fun entries pair => put entries pair.1 pair.2) stored).map (·.1)).Nodup from
    general [] List.nodup_nil
  induction pairs with
  | nil => exact fun stored nodup => nodup
  | cons pair rest ih => exact fun stored nodup => ih _ (nodup_keys_put nodup)

/-- Pairs of which two have the same key are not all stored. -/
theorem length_ofPairs_lt [LawfulBEq κ] {pairs : List (κ × ν)} (twice : ¬(pairs.map (·.1)).Nodup) :
    (ofPairs pairs).length < pairs.length := by
  have stored : (ofPairs pairs).map (·.1) ⊆ pairs.map (·.1) := fun _ => mem_keys_ofPairs.mp
  have part := (nodup_keys_ofPairs pairs).subperm stored
  by_contra all
  have same : (pairs.map (·.1)).length ≤ ((ofPairs pairs).map (·.1)).length := by
    simpa using Nat.le_of_not_lt all
  exact twice ((part.perm_of_length_le same).nodup (nodup_keys_ofPairs pairs))

end EntitySql.Association
