import EntitySql.Entity.Definition
import EntitySql.Proofs.Association

/-!
# Resolving the columns of a type

The columns of a type are its fields in their order, each with the last column that is declared
for it, and behind them the columns that are declared beside the fields, in the order in which
their names first come.  No name comes twice, so a look-up by name finds the only entry there is.
-/

namespace EntitySql

namespace Association

variable {κ ν : Type} [BEq κ] [LawfulBEq κ] {entries : Association κ ν} {key other : κ} {value : ν}

theorem find_put [DecidableEq κ] :
    find (put entries key value) other = if key = other then some value else find entries other := by
  induction entries with
  | nil => rw [put, find_cons]
  | cons entry rest ih =>
      obtain ⟨first, stored⟩ := entry
      rw [put, find_cons]
      by_cases same : first = key
      · subst same
        rw [if_pos (by simp), find_cons]
        split <;> rfl
      · rw [if_neg (by simpa using same), find_cons, ih]
        by_cases asked : first = other
        · rw [if_pos asked, if_pos asked, if_neg (asked ▸ Ne.symm same)]
        · rw [if_neg asked, if_neg asked]

/-- Of several pairs with one key the last one is found. -/
theorem find_ofPairs [DecidableEq κ] (pairs : List (κ × ν)) (key : κ) :
    find (ofPairs pairs) key = find pairs.reverse key := by
  suffices general : ∀ stored : Association κ ν,
      find (pairs.foldl (fun entries pair => put entries pair.1 pair.2) stored) key =
        (find pairs.reverse key).or (find stored key) by
    simpa [ofPairs] using general []
  induction pairs with
  | nil => simp
  | cons pair rest ih =>
      intro stored
      rw [List.foldl_cons, ih, List.reverse_cons, find_append, Option.or_assoc, find_put, find_cons]
      split <;> simp

theorem keys_put_of_mem (old : key ∈ entries.map (·.1)) :
    (put entries key value).map (·.1) = entries.map (·.1) := by
  induction entries with
  | nil => cases old
  | cons entry rest ih =>
      rw [put]
      by_cases same : entry.1 = key
      · rw [if_pos (beq_iff_eq.mpr same), List.map_cons, List.map_cons]
      · have later : key ∈ rest.map (·.1) :=
          (List.mem_cons.mp old).resolve_left (Ne.symm same)
        rw [if_neg (by simpa using same), List.map_cons, List.map_cons, ih later]

/-- Keys stay where they first came. -/
theorem keys_ofPairs (pairs : List (κ × ν)) :
    (ofPairs pairs).map (·.1) = (pairs.map (·.1)).eraseDups := by
  suffices general : ∀ stored : Association κ ν,
      (pairs.foldl (fun entries pair => put entries pair.1 pair.2) stored).map (·.1) =
        stored.map (·.1) ++
          ((pairs.map (·.1)).filter fun key => !(stored.map (·.1)).contains key).eraseDups by
    simpa [ofPairs] using general []
  induction pairs with
  | nil => simp
  | cons pair rest ih =>
      intro stored
      rw [List.foldl_cons, ih, List.map_cons, List.filter_cons]
      by_cases old : pair.1 ∈ stored.map (·.1)
      · rw [keys_put_of_mem old, if_neg (by simpa using old)]
      · have kept : (rest.map (·.1)).filter
              (fun key => !(stored.map (·.1) ++ [pair.1]).contains key) =
            ((rest.map (·.1)).filter fun key => !(stored.map (·.1)).contains key).filter
              fun key => !key == pair.1 := by
          rw [List.filter_filter]
          refine List.filter_congr fun key _ => ?_
          rw [List.contains_append, List.contains_cons, List.contains_nil, Bool.or_false,
            Bool.not_or, Bool.and_comm]
        rw [put_of_not_mem old, if_pos (by simpa using old), List.map_append, List.map_singleton,
          kept, List.eraseDups_cons, List.append_assoc, List.singleton_append]

end Association

/-! ## The fields of defined types -/

namespace Field

variable {fields : List Field} {field : Field} {name : String}

theorem mem_names_merge (member : name ∈ (merge fields field).map (·.name)) :
    name ∈ fields.map (·.name) ∨ name = field.name := by
  induction fields with
  | nil => exact .inr (List.mem_singleton.mp member)
  | cons first rest ih =>
      rw [merge] at member
      split at member
      · rcases List.mem_cons.mp member with same | later
        · exact .inr same
        · exact .inl (List.mem_cons_of_mem _ later)
      · rcases List.mem_cons.mp member with same | later
        · exact .inl (same ▸ List.mem_cons_self)
        · exact (ih later).imp_left (List.mem_cons_of_mem _)

theorem nodup_merge (distinct : (fields.map (·.name)).Nodup) :
    ((merge fields field).map (·.name)).Nodup := by
  induction fields with
  | nil => simp [merge]
  | cons first rest ih =>
      obtain ⟨new, restDistinct⟩ := List.nodup_cons.mp distinct
      rw [merge]
      split
      · rename_i same
        rw [List.map_cons, ← eq_of_beq same]
        exact distinct
      · rename_i different
        refine List.nodup_cons.mpr ⟨fun member => ?_, ih restDistinct⟩
        rcases mem_names_merge member with later | same
        · exact new later
        · exact different (beq_iff_eq.mpr same)

theorem nodup_foldl_merge (distinct : (fields.map (·.name)).Nodup) (own : List Field) :
    ((own.foldl merge fields).map (·.name)).Nodup := by
  induction own generalizing fields with
  | nil => exact distinct
  | cons field rest ih => exact ih (nodup_merge distinct)

end Field

namespace EntityType

variable {base : Option EntityType} {name : String} {shape : Shape} {fields : List Field}
  {type : EntityType}

theorem withUsableNames_eq_ok {usable : List Field} (kept : withUsableNames fields = .ok usable) :
    usable = fields := by
  unfold withUsableNames at kept
  split at kept
  · cases kept
  · split at kept
    · cases kept
    · cases kept
      rfl

theorem nodup_closedFields {inherited own : List Field}
    (merged : closedFields inherited own = .ok fields) (distinct : (inherited.map (·.name)).Nodup) :
    (fields.map (·.name)).Nodup := by
  unfold closedFields at merged
  dsimp only at merged
  split at merged
  · cases merged
  · cases merged
    exact Field.nodup_foldl_merge distinct own

/-- A type that is defined over a base has every field once if the base has. -/
theorem nodup_fieldNames_of_define (accepted : define base name shape fields = .ok type)
    (distinct : ∀ given ∈ base, given.fieldNames.Nodup) : type.fieldNames.Nodup := by
  have ofBase (shape : Shape) : (base.getD { name, shape }).fieldNames.Nodup := by
    cases base with
    | none => exact List.nodup_nil
    | some given => exact distinct given rfl
  have closed (accepted : defineClosed base name fields = .ok type) : type.fieldNames.Nodup := by
    simp only [defineClosed] at accepted
    split at accepted <;>
    · obtain ⟨own, -, accepted⟩ := Fault.bind_eq_ok.mp accepted
      obtain ⟨all, merged, accepted⟩ := Fault.bind_eq_ok.mp accepted
      obtain ⟨usable, kept, accepted⟩ := Fault.bind_eq_ok.mp accepted
      cases accepted
      obtain rfl := withUsableNames_eq_ok kept
      refine nodup_closedFields merged ?_
      split
      · exact List.nodup_nil
      · exact ofBase .closed
  obtain ⟨_, -, accepted⟩ := Fault.bind_eq_ok.mp accepted
  cases shape with
  | bare =>
      cases accepted
      exact ofBase .bare
  | tolerant =>
      unfold defineTolerant at accepted
      dsimp only at accepted
      split at accepted
      · cases accepted
        exact Field.nodup_foldl_merge (ofBase .tolerant) _
      · cases accepted
        exact ofBase .tolerant
      · cases accepted
  | closed => exact closed accepted
  | stuck => exact closed accepted

end EntityType

/-! ## Columns -/

namespace Declaration

/-- The last column that is declared for a member. -/
def last? (declared : List Column) (name : String) : Option Column :=
  declared.reverse.find? (·.name == name)

/-- The column of a member: the last one that is declared for it, or else a plain one. -/
def columnFor (declared : List Column) (name : String) : Column :=
  (last? declared name).getD { name }

/-- The names of all members: the fields, and then what is declared beside them. -/
def memberNames (fields : List String) (declared : List Column) : List String :=
  fields ++ (declared.map (·.name)).eraseDups.filter fun name => !fields.contains name

/-- Takes the column of each field out of the declared ones, a plain one where nothing is declared,
and keeps what is left over. -/
def takeFields : List String → Association String Column → List Column × Association String Column
  | [], stored => ([], stored)
  | name :: rest, stored =>
    let (columns, left) := takeFields rest (stored.filter fun entry => entry.1 != name)
    ((Association.find stored name).getD { name } :: columns, left)

variable {fields : List String} {declared : List Column} {name : String}

theorem find_latest (declared : List Column) (name : String) :
    Association.find (latest declared) name = last? declared name := by
  rw [latest, Association.find_ofPairs, last?, ← List.map_reverse, Association.find,
    List.find?_map, Option.map_map]
  exact congrFun Option.map_id _

theorem name_columnFor (declared : List Column) (name : String) :
    (columnFor declared name).name = name := by
  unfold columnFor
  cases found : last? declared name with
  | none => rfl
  | some column => exact eq_of_beq (List.find?_some found :)

theorem latest_eq_map (declared : List Column) :
    (latest declared).map (·.2) =
      (declared.map (·.name)).eraseDups.map (columnFor declared) := by
  have keys : (latest declared).map (·.1) = (declared.map (·.name)).eraseDups := by
    rw [latest, Association.keys_ofPairs, List.map_map]
    rfl
  rw [← keys, List.map_map]
  refine List.map_congr_left fun entry member => ?_
  have found := Association.find_of_mem
    (Association.nodup_keys_ofPairs (declared.map fun column => (column.name, column))) member
  change entry.2 = columnFor declared entry.1
  rw [columnFor, ← find_latest, latest, found, Option.getD_some]

/-- Every member has its column, in the order of the names. -/
theorem mergedColumns_eq (fields : List String) (declared : List Column) :
    mergedColumns fields declared = (memberNames fields declared).map (columnFor declared) := by
  have beside : ((latest declared).map (·.2)).filter (fun column => !fields.contains column.name) =
      ((declared.map (·.name)).eraseDups.filter fun name => !fields.contains name).map
        (columnFor declared) := by
    rw [latest_eq_map, List.filter_map]
    refine congrArg (List.map _) (List.filter_congr fun name _ => ?_)
    simp only [Function.comp_apply, name_columnFor]
  rw [mergedColumns, beside, memberNames, List.map_append]
  simp only [find_latest]
  rfl

theorem nodup_memberNames (distinct : fields.Nodup) (declared : List Column) :
    (memberNames fields declared).Nodup := by
  have keys := Association.nodup_keys_ofPairs (declared.map fun column => (column.name, column))
  rw [Association.keys_ofPairs, List.map_map] at keys
  refine List.nodup_append.mpr ⟨distinct, keys.filter _, ?_⟩
  rintro field isField other isOther rfl
  simp [isField] at isOther

theorem mem_memberNames :
    name ∈ memberNames fields declared ↔ name ∈ fields ∨ ∃ column ∈ declared, column.name = name := by
  by_cases isField : name ∈ fields <;> simp [memberNames, isField]

theorem takeFields_eq (distinct : fields.Nodup) (stored : Association String Column) :
    takeFields fields stored =
      (fields.map fun name => (Association.find stored name).getD { name },
        stored.filter fun entry => !fields.contains entry.1) := by
  induction fields generalizing stored with
  | nil => simp [takeFields]
  | cons name rest ih =>
      obtain ⟨new, restDistinct⟩ := List.nodup_cons.mp distinct
      have others : (rest.map fun other => (Association.find
            (stored.filter fun entry => entry.1 != name) other).getD { name := other }) =
          rest.map fun other => (Association.find stored other).getD { name := other } := by
        refine List.map_congr_left fun other member => ?_
        have apart : other ≠ name := fun same => new (same ▸ member)
        rw [Association.find_filter (fun key => key != name), if_pos (by simpa using apart)]
      rw [takeFields, ih restDistinct, others, List.filter_filter]
      simp only [List.map_cons, Prod.mk.injEq, true_and]
      refine List.filter_congr fun entry _ => ?_
      by_cases same : entry.1 = name <;> simp [same, bne]

/-- The columns are those that the fields take, and behind them those that no field has taken. -/
theorem mergedColumns_eq_takeFields (distinct : fields.Nodup) (declared : List Column) :
    mergedColumns fields declared =
      (takeFields fields (latest declared)).1 ++ (takeFields fields (latest declared)).2.map (·.2) := by
  have named : ∀ entry ∈ latest declared, entry.2.name = entry.1 := by
    intro entry member
    obtain ⟨column, -, rfl⟩ := List.mem_map.mp (Association.mem_of_mem_ofPairs member)
    rfl
  rw [takeFields_eq distinct, mergedColumns, List.filter_map]
  refine congrArg (_ ++ List.map _ ·) (List.filter_congr fun entry member => ?_)
  simp only [Function.comp_apply, named entry member]

end Declaration

/-- The columns that are declared for a type which has its columns from its fields and from its
declaration. -/
def EntityType.declaredColumns (type : EntityType) : Option (List Column) :=
  match type.mapping with
  | .declared declaration => some declaration.columns
  | .undeclared => if type.shape = .bare then none else some []
  | _ => none

namespace Metadata

/-- The metadata has the columns of some fields and of some declared columns. -/
structure Resolves (metadata : Metadata) (fields : List String) (declared : List Column) :
    Prop where
  named : metadata.columns.map (·.name) =
    fields ++ (declared.map (·.name)).eraseDups.filter fun name => !fields.contains name
  once : (metadata.columns.map (·.name)).Nodup
  carried : ∀ name, ∀ column ∈ Declaration.last? declared name, metadata.find? name = some column
  plain : ∀ name ∈ fields, (∀ column ∈ declared, column.name ≠ name) →
    metadata.find? name = some { name }
  found : ∀ column ∈ metadata.columns, metadata.find? column.name = some column
  absent : ∀ name, name ∉ metadata.columns.map (·.name) → metadata.find? name = none
  taken : metadata.columns =
    (Declaration.takeFields fields (Declaration.latest declared)).1 ++
      (Declaration.takeFields fields (Declaration.latest declared)).2.map (·.2)

variable {metadata : Metadata} {fields : List String} {declared : List Column}

theorem find?_of_merged (merged : metadata.columns = Declaration.mergedColumns fields declared)
    (name : String) :
    metadata.find? name =
      if name ∈ Declaration.memberNames fields declared then
        some (Declaration.columnFor declared name)
      else none := by
  rw [find?, merged, Declaration.mergedColumns_eq, List.find?_map]
  simp only [Function.comp_def, Declaration.name_columnFor]
  cases found : (Declaration.memberNames fields declared).find? (· == name) with
  | none =>
      have absent : name ∉ Declaration.memberNames fields declared := fun member =>
        List.find?_eq_none.mp found name member (beq_self_eq_true name)
      rw [if_neg absent, Option.map_none]
  | some other =>
      obtain rfl : other = name := eq_of_beq (List.find?_some found :)
      rw [if_pos (List.mem_of_find?_eq_some found), Option.map_some]

theorem resolves_of_merged (merged : metadata.columns = Declaration.mergedColumns fields declared)
    (distinct : fields.Nodup) : metadata.Resolves fields declared := by
  have named : metadata.columns.map (·.name) = Declaration.memberNames fields declared := by
    rw [merged, Declaration.mergedColumns_eq, List.map_map]
    exact (List.map_congr_left fun name _ => Declaration.name_columnFor declared name).trans
      (List.map_id _)
  refine {
    named := named
    once := named ▸ Declaration.nodup_memberNames distinct declared
    carried := fun name column isLast => ?_
    plain := fun name isField undeclared => ?_
    found := fun column member => ?_
    absent := fun name unlisted => ?_
    taken := merged.trans (Declaration.mergedColumns_eq_takeFields distinct declared) }
  · have isDeclared : column ∈ declared :=
      List.mem_reverse.mp (List.mem_of_find?_eq_some isLast)
    have hasName : column.name = name := eq_of_beq (List.find?_some isLast :)
    rw [find?_of_merged merged, if_pos (Declaration.mem_memberNames.mpr
      (.inr ⟨column, isDeclared, hasName⟩)), Declaration.columnFor, isLast, Option.getD_some]
  · have none : Declaration.last? declared name = none := by
      refine List.find?_eq_none.mpr fun column member => ?_
      simpa using undeclared column (List.mem_reverse.mp member)
    rw [find?_of_merged merged, if_pos (Declaration.mem_memberNames.mpr (.inl isField)),
      Declaration.columnFor, none, Option.getD_none]
  · rw [merged, Declaration.mergedColumns_eq] at member
    obtain ⟨name, isName, rfl⟩ := List.mem_map.mp member
    rw [find?_of_merged merged, Declaration.name_columnFor, if_pos isName]
  · rw [named] at unlisted
    rw [find?_of_merged merged, if_neg unlisted]

end Metadata

/-- The metadata of a type lists its fields in their order and then what is declared beside them, in
the order in which the names first come.  Every name comes once and carries the last column that is
declared for it, or a plain one if none is, and is found by its name. -/
theorem EntityType.metadata_resolves {type : EntityType} {declared : List Column}
    (declares : type.declaredColumns = some declared) (distinct : type.fieldNames.Nodup) :
    ∃ metadata, type.metadata = .ok metadata ∧ metadata.Resolves type.fieldNames declared := by
  unfold declaredColumns at declares
  unfold metadata
  cases mapped : type.mapping with
  | declared declaration =>
      rw [mapped] at declares
      cases declares
      exact ⟨_, rfl, Metadata.resolves_of_merged rfl distinct⟩
  | undeclared =>
      rw [mapped] at declares
      by_cases bare : type.shape = .bare
      · simp [bare] at declares
      · simp only [if_neg bare, Option.some.injEq] at declares
        subst declares
        simp only [if_neg bare]
        exact ⟨_, rfl, Metadata.resolves_of_merged rfl distinct⟩
  | unreadable =>
      rw [mapped] at declares
      cases declares
  | complete complete =>
      rw [mapped] at declares
      cases declares

/-- A note whose summary is declared twice, and with it names that are no fields. -/
def note : EntityType where
  name := "Note"
  shape := .closed
  fields := [⟨"Id", none⟩, ⟨"Title", none⟩, ⟨"Summary", none⟩]
  mapping := .declared {
    columns := [{ name := "Summary", column := some "short" }, { name := "Hits", key := true },
      { name := "Id", key := true }, { name := "Tag" }, { name := "Summary", column := some "text" },
      { name := "Hits", notMapped := true }] }

theorem note_resolves :
    ∃ declared metadata, note.declaredColumns = some declared ∧ note.fieldNames.Nodup ∧
      note.metadata = .ok metadata ∧
      metadata.columns.map (·.name) = ["Id", "Title", "Summary", "Hits", "Tag"] ∧
      metadata.find? "Summary" = some { name := "Summary", column := some "text" } ∧
      metadata.find? "Title" = some { name := "Title" } ∧
      metadata.find? "Hits" = some { name := "Hits", notMapped := true } ∧
      metadata.find? "Author" = none := by
  have distinct : note.fieldNames.Nodup := by decide
  have declares : note.declaredColumns = some _ := rfl
  obtain ⟨metadata, isMetadata, resolves⟩ := EntityType.metadata_resolves declares distinct
  have names : metadata.columns.map (·.name) = ["Id", "Title", "Summary", "Hits", "Tag"] :=
    resolves.named.trans (by decide)
  refine ⟨_, metadata, declares, distinct, isMetadata, names, resolves.carried _ _ rfl,
    resolves.plain _ (by decide) (by decide), resolves.carried _ _ rfl, ?_⟩
  exact resolves.absent "Author" (by rw [names]; decide)

end EntitySql
