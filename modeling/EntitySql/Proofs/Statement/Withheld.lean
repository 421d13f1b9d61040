import EntitySql.Proofs.Statement.Reference

/-!
# Members that are withheld

What a call through a manager does with a member that is not mapped: no predicate may
name it, no statement stores or tests its value, and its column is written exactly where
an ordering, a join key or a key of a DELETE names it.
-/

namespace EntitySql

open Sql (Mention Composed)

/-- A member is declared as not mapped, and it is the name of no mapped column. -/
structure Metadata.Withholds (metadata : Metadata) (member : String) : Prop where
  notMapped : ∃ column, metadata.find? member = some column ∧ column.notMapped = true
  others : ∀ mapped ∈ metadata.mappedColumns, mapped.name ≠ member ∧ mapped.columnName ≠ member

theorem Metadata.Withholds.not_offers {metadata : Metadata} {member : String}
    (withheld : metadata.Withholds member) : ¬metadata.Offers member := by
  obtain ⟨column, found, _⟩ := withheld.notMapped
  rintro (isMapped | undeclared)
  · obtain ⟨mapped, isColumn, named⟩ := List.mem_map.mp isMapped
    exact (withheld.others mapped isColumn).2 named
  · rw [found] at undeclared
    cases undeclared

theorem Metadata.Withholds.not_admits {metadata : Metadata} {member : String}
    {members : List Value} (withheld : metadata.Withholds member)
    (admits : metadata.Admits members) : .text member ∉ members := by
  obtain ⟨column, found, notMapped⟩ := withheld.notMapped
  intro isNamed
  have admitted := admits member isNamed
  simp [found, notMapped] at admitted

namespace Work

/-- The query of a call, with the predicate that the call adds. -/
def filtered (source : Query) (condition : Option Predicate) : Query :=
  condition.elim source fun predicate => source.filter predicate

/-- The metadata of the type that a call is about. -/
def metadata? : Work → Option Metadata
  | query source condition _ => (filtered source condition).metadata?
  | getById type _ _ => type.bind (·.metadata.toOption)
  | getByKeys type _ _ => type.bind (·.metadata.toOption)
  | insert entity _ _ => entity.type.metadata.toOption
  | update entity _ _ => entity.type.metadata.toOption
  | deleteRows type _ _ _ => type.metadata.toOption
  | deleteEntity entity _ => entity.type.metadata.toOption

/-- The predicates of a call. -/
def predicates : Work → List Predicate
  | query source condition _ => (filtered source condition).predicates
  | update _ condition _ => condition.toList
  | deleteRows _ condition _ _ => condition.toList
  | _ => []

/-- The members that the predicates of a call name. -/
def members (work : Work) : List Value := work.predicates.flatMap Predicate.members

/-- The tables of a call. -/
def tables (metadata : Metadata) : Work → List String
  | query source condition options =>
    (filtered source condition).tables (options.tableOr metadata.tableName)
  | getById _ _ options => [options.tableOr metadata.tableName]
  | getByKeys _ _ options => [options.tableOr metadata.tableName]
  | insert _ options _ => [options.tableOr metadata.tableName]
  | update _ _ options => [options.tableOr metadata.tableName]
  | deleteRows _ _ _ options => [options.tableOr metadata.tableName]
  | deleteEntity _ options => [options.tableOr metadata.tableName]

/-- The columns that a call names in orderings, join keys and the keys of a DELETE. -/
def uncheckedColumns (metadata : Metadata) : Work → List String
  | query source condition _ => (filtered source condition).uncheckedColumns metadata
  | deleteRows _ condition keys _ => Statement.deletedColumns metadata condition keys
  | deleteEntity _ _ => metadata.keyColumns.map fun column => metadata.columnNameOf column.name
  | _ => []

/-- The dialect that a call is written in. -/
def writtenIn (dialect : Dialect) : Work → Dialect
  | query source _ _ => source.dialect
  | _ => dialect

variable {dialect : Dialect} {work : Work} {plan : Plan} {type : EntityType}
variable {predicate : Predicate} {options : Options}

/-- The query for a single row refers to columns of its type only. -/
theorem planSingle_refers (planned : planSingle dialect type predicate options = .ok plan)
    (texts : ∀ name ∈ predicate.members, ∃ text, name = .text text) :
    ∃ metadata mentions, type.metadata.toOption = some metadata ∧
      Refers dialect metadata [options.tableOr metadata.tableName] [] plan.compiled.sql mentions := by
  obtain ⟨compiled, accepted, planned⟩ := Fault.bind_eq_ok.mp planned
  cases planned
  have members : ((Query.start dialect (some type)).filter predicate).members =
      predicate.members := List.append_nil _
  obtain ⟨metadata, mentions, isMetadata, _, refers⟩ :=
    Query.compile_refers accepted (members ▸ texts)
  exact ⟨metadata, mentions, isMetadata, refers⟩

/-! ## Tests of keys -/

/-- A tree that names members by texts. -/
def NamesTexts (tree : Predicate) : Prop :=
  tree.expand = .ok tree ∧ ∀ name ∈ tree.memberNames, ∃ text, name = .text text

theorem namesTexts_test (column : String) (value : Value) :
    NamesTexts (.test (.text column) .equal value) :=
  ⟨rfl, by simp [Predicate.test, Predicate.memberNames]⟩

theorem namesTexts_allOf {first : Predicate} {rest : List Predicate} (firstTexts : NamesTexts first)
    (restTexts : ∀ test ∈ rest, NamesTexts test) : NamesTexts (allOf first rest) := by
  induction rest generalizing first with
  | nil => exact firstTexts
  | cons next rest ih =>
      obtain ⟨firstExpands, firstNames⟩ := firstTexts
      obtain ⟨nextExpands, nextNames⟩ := restTexts next (by simp)
      apply ih
      · refine ⟨?_, List.forall_mem_append.mpr ⟨firstNames, nextNames⟩⟩
        rw [Predicate.expand, firstExpands, nextExpands]
        rfl
      · exact fun test isTest => restTexts test (by simp [isTest])

theorem NamesTexts.members {tree : Predicate} (texts : NamesTexts tree) :
    ∀ name ∈ tree.members, ∃ text, name = .text text := by
  simpa [Predicate.members, texts.1, Except.toOption] using texts.2

theorem namesTexts_keyTest {values : List (Value × Value)} {column : Column} {test : Predicate}
    (tested : keyTest values column = .ok test) : NamesTexts test := by
  simp only [keyTest] at tested
  split at tested
  · cases tested
    exact namesTexts_test column.name _
  · cases tested

/-! ## Planned calls -/

theorem eq_some_of_given {given : Option EntityType} (isGiven : EntityType.given given = .ok type) :
    given = some type := by
  cases given with
  | none => cases isGiven
  | some other =>
      cases isGiven
      rfl

theorem mutationPlan_compiled (compiled : Compiled) (options : Options) (type : EntityType) :
    (mutationPlan compiled options type).compiled = compiled := by
  unfold mutationPlan
  split <;> rfl

theorem memberNames_allOf (first : Predicate) (rest : List Predicate) :
    (allOf first rest).memberNames = first.memberNames ++ rest.flatMap Predicate.memberNames := by
  induction rest generalizing first with
  | nil => simp [allOf]
  | cons next rest ih =>
      have folded : allOf first (next :: rest) = allOf (.logical .conjunction first next) rest := rfl
      rw [folded, ih, List.flatMap_cons, ← List.append_assoc]
      rfl

theorem memberNames_keyTest {values : List (Value × Value)} {column : Column} {test : Predicate}
    (tested : keyTest values column = .ok test) : test.memberNames = [.text column.name] := by
  simp only [keyTest] at tested
  split at tested
  · cases tested
    rfl
  · cases tested

/-- A predicate names key columns of a type only. -/
def NamesKeys (metadata : Metadata) (predicate : Predicate) : Prop :=
  NamesTexts predicate ∧
    ∀ name ∈ predicate.memberNames, ∃ column ∈ metadata.keyColumns, name = .text column.name

/-- A row is looked up in the same way in every dialect. -/
theorem plan_getById {given : Option EntityType} {key : Value}
    (planned : (Work.getById given key options).plan dialect = .ok plan) :
    ∃ type metadata predicate, given = some type ∧ type.metadata = .ok metadata ∧
      NamesKeys metadata predicate ∧ ∀ dialect, (Work.getById given key options).plan dialect =
        planSingle dialect type predicate options := by
  obtain ⟨type, isGiven, planned⟩ := Fault.bind_eq_ok.mp planned
  obtain ⟨metadata, isMetadata, planned⟩ := Fault.bind_eq_ok.mp planned
  obtain ⟨keys, areKeys, planned⟩ := Fault.bind_eq_ok.mp planned
  obtain ⟨rfl, _⟩ := Statement.primaryKey_eq_ok areKeys
  split at planned
  · rename_i column only
    refine ⟨type, metadata, _, eq_some_of_given isGiven, isMetadata,
      ⟨namesTexts_test column.name key, ?_⟩, fun dialect => ?_⟩
    · rw [only]
      simp [Predicate.test, Predicate.memberNames]
    · simp only [Work.plan, isGiven, isMetadata, areKeys, only, bind, Except.bind]
  · cases planned

theorem plan_getByKeys {given : Option EntityType} {keys : Option KeyValues}
    (planned : (Work.getByKeys given keys options).plan dialect = .ok plan) :
    ∃ type metadata predicate, given = some type ∧ type.metadata = .ok metadata ∧
      NamesKeys metadata predicate ∧ ∀ dialect, (Work.getByKeys given keys options).plan dialect =
        planSingle dialect type predicate options := by
  obtain ⟨values, areValues, planned⟩ := Fault.bind_eq_ok.mp planned
  obtain ⟨type, isGiven, planned⟩ := Fault.bind_eq_ok.mp planned
  obtain ⟨metadata, isMetadata, planned⟩ := Fault.bind_eq_ok.mp planned
  obtain ⟨columns, areKeys, planned⟩ := Fault.bind_eq_ok.mp planned
  obtain ⟨tests, areTests, planned⟩ := Fault.bind_eq_ok.mp planned
  obtain ⟨rfl, _⟩ := Statement.primaryKey_eq_ok areKeys
  cases tests with
  | nil => cases planned
  | cons first rest =>
      have namesTexts : ∀ test ∈ first :: rest, NamesTexts test :=
        forall_of_mapM areTests fun column _ test tested => namesTexts_keyTest tested
      obtain ⟨firstTexts, restTexts⟩ := List.forall_mem_cons.mp namesTexts
      refine ⟨type, metadata, allOf first rest, eq_some_of_given isGiven, isMetadata,
        ⟨namesTexts_allOf firstTexts restTexts, ?_⟩, fun dialect => ?_⟩
      · have eachKey : ∀ test ∈ first :: rest, ∀ name ∈ test.memberNames,
            ∃ column ∈ metadata.keyColumns, name = .text column.name :=
          forall_of_mapM areTests fun column isKey test tested => by
            rw [memberNames_keyTest tested, List.forall_mem_singleton]
            exact ⟨column, isKey, rfl⟩
        rw [memberNames_allOf, List.forall_mem_append, List.forall_mem_flatMap]
        exact List.forall_mem_cons.mp eachKey
      · simp only [Work.plan, areValues, isGiven, isMetadata, areKeys, areTests, bind, Except.bind]

/-- A planned call refers to the columns of its type and to those that it names unchecked. -/
theorem plan_refers (planned : work.plan dialect = .ok plan)
    (texts : ∀ name ∈ work.members, ∃ text, name = .text text) :
    ∃ metadata mentions, work.metadata? = some metadata ∧ metadata.Admits work.members ∧
      Refers (work.writtenIn dialect) metadata (work.tables metadata)
        (work.uncheckedColumns metadata) plan.compiled.sql mentions := by
  cases work with
  | query source condition options =>
      have filteredPlanned : ((filtered source condition).compile options).bind (fun compiled =>
          .ok { kind := .query, compiled, type := (filtered source condition).rowType }) =
            .ok plan := by
        cases condition <;> exact planned
      have sameDialect : (filtered source condition).dialect = source.dialect := by
        cases condition <;> rfl
      obtain ⟨compiled, accepted, filteredPlanned⟩ := Fault.bind_eq_ok.mp filteredPlanned
      cases filteredPlanned
      obtain ⟨metadata, mentions, isMetadata, admits, refers⟩ :=
        Query.compile_refers accepted texts
      rw [sameDialect] at refers
      exact ⟨metadata, mentions, isMetadata, admits, refers⟩
  | getById given key options =>
      obtain ⟨type, _, predicate, rfl, _, namesKeys, single⟩ := plan_getById planned
      obtain ⟨metadata, mentions, isMetadata, refers⟩ :=
        planSingle_refers (single dialect ▸ planned) namesKeys.1.members
      exact ⟨metadata, mentions, isMetadata, metadata.admits_nil, refers⟩
  | getByKeys given keys options =>
      obtain ⟨type, _, predicate, rfl, _, namesKeys, single⟩ := plan_getByKeys planned
      obtain ⟨metadata, mentions, isMetadata, refers⟩ :=
        planSingle_refers (single dialect ▸ planned) namesKeys.1.members
      exact ⟨metadata, mentions, isMetadata, metadata.admits_nil, refers⟩
  | insert entity options resultType =>
      obtain ⟨compiled, accepted, planned⟩ := Fault.bind_eq_ok.mp planned
      cases planned
      obtain ⟨metadata, mentions, isMetadata, refers⟩ := Statement.insert_refers accepted
      refine ⟨metadata, mentions, by simp [metadata?, isMetadata, Except.toOption],
        metadata.admits_nil, ?_⟩
      rw [mutationPlan_compiled]
      exact refers
  | update entity condition options =>
      obtain ⟨compiled, accepted, planned⟩ := Fault.bind_eq_ok.mp planned
      cases planned
      obtain ⟨metadata, mentions, isMetadata, admits, refers⟩ :=
        Statement.update_refers accepted texts
      refine ⟨metadata, mentions, by simp [metadata?, isMetadata, Except.toOption],
        admits, ?_⟩
      rw [mutationPlan_compiled]
      exact refers
  | deleteRows type condition keys options =>
      obtain ⟨⟨compiled, warnings⟩, accepted, planned⟩ := Fault.bind_eq_ok.mp planned
      cases planned
      obtain ⟨metadata, mentions, isMetadata, admits, refers⟩ :=
        Statement.delete_refers accepted texts
      exact ⟨metadata, mentions, by simp [metadata?, isMetadata, Except.toOption],
        admits, refers⟩
  | deleteEntity entity options =>
      obtain ⟨⟨compiled, warnings⟩, accepted, planned⟩ := Fault.bind_eq_ok.mp planned
      cases planned
      obtain ⟨metadata, mentions, isMetadata, refers⟩ := Statement.deleteEntity_refers accepted
      exact ⟨metadata, mentions, by simp [metadata?, isMetadata, Except.toOption],
        metadata.admits_nil, refers⟩

end Work

/-! ## Values that are withheld -/

/-- Two entities of one type differ at most in the value of a member. -/
structure Instance.SameBut (member : String) (first second : Instance) : Prop where
  type : first.type = second.type
  get : ∀ name, name ≠ member → first.get name = second.get name

namespace Metadata.Withholds

variable {metadata : Metadata} {member : String} {first second : Instance}

theorem get_eq (withheld : metadata.Withholds member) (same : first.SameBut member second)
    {column : Column} (mapped : column ∈ metadata.mappedColumns) :
    first.get column.name = second.get column.name :=
  same.get column.name (withheld.others column mapped).1

theorem valuesOf_eq (withheld : metadata.Withholds member) (same : first.SameBut member second) :
    metadata.valuesOf first = metadata.valuesOf second :=
  List.map_congr_left fun column mapped => by rw [withheld.get_eq same mapped]

theorem entityKeys_eq (withheld : metadata.Withholds member) (same : first.SameBut member second) :
    metadata.entityKeys first = metadata.entityKeys second :=
  List.map_congr_left fun column isKey => by
    rw [withheld.get_eq same (List.mem_of_mem_filter isKey)]

theorem keyValues_eq (withheld : metadata.Withholds member) (same : first.SameBut member second) :
    Statement.keyValues metadata first = Statement.keyValues metadata second :=
  List.map_congr_left fun column isKey => by
    rw [withheld.get_eq same (List.mem_of_mem_filter isKey)]

theorem insert_eq (withheld : metadata.Withholds member) (same : first.SameBut member second)
    (isMetadata : first.type.metadata = .ok metadata) (dialect : Dialect) (options : Options) :
    Statement.insert dialect first options = Statement.insert dialect second options := by
  have sameText : Statement.insertText dialect metadata first options =
      Statement.insertText dialect metadata second options := by
    unfold Statement.insertText Statement.insertedValues
    rw [withheld.valuesOf_eq same, withheld.entityKeys_eq same]
  have alsoMetadata : second.type.metadata = .ok metadata := same.type ▸ isMetadata
  simp only [Statement.insert, isMetadata, alsoMetadata, bind, Except.bind] at sameText ⊢
  rw [sameText]

theorem update_eq (withheld : metadata.Withholds member) (same : first.SameBut member second)
    (isMetadata : first.type.metadata = .ok metadata) (dialect : Dialect)
    (condition : Option Predicate) (options : Options) :
    Statement.update dialect first condition options =
      Statement.update dialect second condition options := by
  have sameText : Statement.updateText dialect metadata first condition options =
      Statement.updateText dialect metadata second condition options := by
    unfold Statement.updateText Statement.updatedValues
    rw [withheld.valuesOf_eq same, withheld.keyValues_eq same, same.type]
  have alsoMetadata : second.type.metadata = .ok metadata := same.type ▸ isMetadata
  simp only [Statement.update, isMetadata, alsoMetadata, bind, Except.bind] at sameText ⊢
  rw [sameText]

theorem deleteEntity_eq (withheld : metadata.Withholds member)
    (same : first.SameBut member second) (isMetadata : first.type.metadata = .ok metadata)
    (dialect : Dialect) (options : Options) :
    Statement.deleteEntity dialect first options =
      Statement.deleteEntity dialect second options := by
  have alsoMetadata : second.type.metadata = .ok metadata := same.type ▸ isMetadata
  simp only [Statement.deleteEntity, alsoMetadata, bind, Except.bind, same.type]
  cases found : metadata.primaryKey second.type.name with
  | error fault => rfl
  | ok columns =>
      obtain ⟨rfl, _⟩ := Statement.primaryKey_eq_ok found
      have samePairs : metadata.keyColumns.map (fun column => (column.name, first.get column.name)) =
          metadata.keyColumns.map fun column => (column.name, second.get column.name) :=
        List.map_congr_left fun column isKey => by
          rw [withheld.get_eq same (List.mem_of_mem_filter isKey)]
      simp only [samePairs]

end Metadata.Withholds

/-- Whether an entry of key values is about a member. -/
def KeyValues.isAbout (member : String) (entry : Value × Value) : Bool :=
  match entry.1 with
  | .text name => name == member
  | _ => false

theorem KeyValues.find?_filter_isAbout {member other : String} (different : other ≠ member)
    (entries : List (Value × Value)) :
    (entries.filter (!isAbout member ·)).find? (isAbout other) = entries.find? (isAbout other) := by
  rw [List.find?_filter]
  congr 1
  funext entry
  obtain ⟨name, value⟩ := entry
  cases name with
  | text name =>
      by_cases same : name = other
      · simp [isAbout, same, different]
      · simp [isAbout, same]
  | _ => rfl

theorem Work.keyTest_of_find? (values : List (Value × Value)) (column : Column) :
    keyTest values column =
      match values.find? (KeyValues.isAbout column.name) with
      | some entry => .ok (.test (.text column.name) .equal entry.2)
      | none => .error (.argument (.missingKey column.name)) :=
  rfl

/-- Only the entries about its member decide on the test of a key. -/
theorem Work.keyTest_eq {values others : List (Value × Value)} {column : Column} {member : String}
    (same : values.filter (!KeyValues.isAbout member ·) =
      others.filter (!KeyValues.isAbout member ·))
    (different : column.name ≠ member) : keyTest values column = keyTest others column := by
  have found : values.find? (KeyValues.isAbout column.name) =
      others.find? (KeyValues.isAbout column.name) := by
    rw [← KeyValues.find?_filter_isAbout different, same,
      KeyValues.find?_filter_isAbout different]
  rw [keyTest_of_find?, keyTest_of_find?, found]

namespace Work

/-- Two calls that differ at most in what an entity or key values hold for a member. -/
inductive SameBut (member : String) : Work → Work → Prop where
  | insert {first second : Instance} (same : first.SameBut member second) (options : Options)
      (resultType : Option EntityType) :
      SameBut member (.insert first options resultType) (.insert second options resultType)
  | update {first second : Instance} (same : first.SameBut member second)
      (condition : Option Predicate) (options : Options) :
      SameBut member (.update first condition options) (.update second condition options)
  | deleteEntity {first second : Instance} (same : first.SameBut member second)
      (options : Options) :
      SameBut member (.deleteEntity first options) (.deleteEntity second options)
  | getByKeys {first second : KeyValues}
      (same : first.members.filter (!KeyValues.isAbout member ·) =
        second.members.filter (!KeyValues.isAbout member ·))
      (type : Option EntityType) (options : Options) :
      SameBut member (.getByKeys type (some first) options) (.getByKeys type (some second) options)

variable {dialect : Dialect} {work other : Work} {plan : Plan} {metadata : Metadata}
variable {member : String}

theorem metadata_of_toOption {type : EntityType}
    (isMetadata : type.metadata.toOption = some metadata) : type.metadata = .ok metadata := by
  cases found : type.metadata with
  | error fault =>
      rw [found] at isMetadata
      cases isMetadata
  | ok resolved =>
      rw [found] at isMetadata
      cases isMetadata
      rfl

theorem mapM_congr {α β : Type} {items : List α} {first second : α → Except Fault β}
    (same : ∀ item ∈ items, first item = second item) : items.mapM first = items.mapM second := by
  induction items with
  | nil => rfl
  | cons item rest ih =>
      obtain ⟨sameFirst, sameRest⟩ := List.forall_mem_cons.mp same
      rw [List.mapM_cons, List.mapM_cons, sameFirst, ih sameRest]

/-- The value of a withheld member does not decide on any plan. -/
theorem SameBut.plan_eq (same : SameBut member work other)
    (isMetadata : work.metadata? = some metadata) (withheld : metadata.Withholds member)
    (dialect : Dialect) : work.plan dialect = other.plan dialect := by
  cases same with
  | @insert first second same options resultType =>
      have known : first.type.metadata = .ok metadata := metadata_of_toOption isMetadata
      simp only [Work.plan, withheld.insert_eq same known, same.type]
  | @update first second same condition options =>
      have known : first.type.metadata = .ok metadata := metadata_of_toOption isMetadata
      simp only [Work.plan, withheld.update_eq same known, same.type]
  | @deleteEntity first second same options =>
      have known : first.type.metadata = .ok metadata := metadata_of_toOption isMetadata
      simp only [Work.plan, withheld.deleteEntity_eq same known]
  | @getByKeys first second same type options =>
      cases type with
      | none => cases isMetadata
      | some type =>
          have known : type.metadata = .ok metadata := metadata_of_toOption isMetadata
          have sameTests : metadata.keyColumns.mapM (keyTest first.members) =
              metadata.keyColumns.mapM (keyTest second.members) :=
            mapM_congr fun column isKey =>
              keyTest_eq same (withheld.others column (List.mem_of_mem_filter isKey)).1
          simp only [Work.plan, KeyValues.required, EntityType.given, bind, Except.bind, known]
            at sameTests ⊢
          cases found : metadata.primaryKey type.name with
          | error fault => rfl
          | ok columns =>
              obtain ⟨rfl, _⟩ := Statement.primaryKey_eq_ok found
              simp only [sameTests]

/-- What calls do with a withheld member: their predicates cannot name it, their text
mentions its column exactly where an ordering, a join key or a key of a DELETE names it,
and apart from that they do not depend on its value. -/
theorem plan_withholds (dialect : Dialect) (work : Work) (plan : Plan) (metadata : Metadata)
    (member : String) (planned : work.plan dialect = .ok plan)
    (isMetadata : work.metadata? = some metadata) (withheld : metadata.Withholds member)
    (texts : ∀ name ∈ work.members, ∃ text, name = .text text) :
    .text member ∉ work.members ∧
      (∃ mentions, Composed (work.writtenIn dialect) plan.compiled.sql mentions ∧
        (∀ mention ∈ mentions, mention.column? = none →
          (∃ table ∈ work.tables metadata, mention = .table table) ∨
            (∃ name, mention = .parameter name) ∨ ∃ function, mention = .call function) ∧
        ((∃ mention ∈ mentions, mention.column? = some member) ↔
          member ∈ work.uncheckedColumns metadata)) ∧
      ∀ other, SameBut member work other → other.plan dialect = .ok plan := by
  obtain ⟨resolved, mentions, isResolved, admits, refers⟩ := plan_refers planned texts
  rw [isMetadata, Option.some.injEq] at isResolved
  subst isResolved
  refine ⟨withheld.not_admits admits, ⟨mentions, refers.composed, ?_, ?_, ?_⟩, ?_⟩
  · intro mention isMentioned noColumn
    have allowed := refers.allowed mention isMentioned
    cases mention with
    | table name => exact .inl ⟨name, allowed, rfl⟩
    | parameter name => exact .inr (.inl ⟨name, rfl⟩)
    | call function => exact .inr (.inr ⟨function, rfl⟩)
    | unnamed name => exact allowed.elim
    | _ => cases noColumn
  · rintro ⟨mention, isMentioned, named⟩
    have allowed := refers.allowed mention isMentioned
    exact (allowed.column named).resolve_left withheld.not_offers
  · exact refers.complete member
  · intro other same
    rw [← same.plan_eq isMetadata withheld, planned]

/-- A person with a name of its own and one that is not mapped. -/
def namedPerson (fullName : String) : Instance :=
  ⟨Samples.person, [("FirstName", .text "Ada"), ("FullName", .text fullName)]⟩

theorem person_withholds :
    ∃ metadata, Samples.person.metadata = .ok metadata ∧
      metadata.find? "FullName" = some { name := "FullName", notMapped := true } ∧
      metadata.Withholds "FullName" :=
  ⟨_, rfl, rfl, ⟨_, rfl, rfl⟩, by decide⟩

theorem namedPerson_sameBut (fullName other : String) :
    (namedPerson fullName).SameBut "FullName" (namedPerson other) where
  type := rfl
  get name different := by
    simp [Instance.get, namedPerson, Association.find_cons, Ne.symm different]

theorem person_insert_withholds :
    ∃ plan mentions,
      (Work.insert (namedPerson "Ada Lovelace") {} none).plan ⟨.sqlite, .colon⟩ = .ok plan ∧
      (Work.insert (namedPerson "unknown") {} none).plan ⟨.sqlite, .colon⟩ = .ok plan ∧
      Composed ⟨.sqlite, .colon⟩ plan.compiled.sql mentions ∧
      ∀ mention ∈ mentions, mention.column? ≠ some "FullName" := by
  obtain ⟨metadata, isMetadata, _, withheld⟩ := person_withholds
  have compiles : ((Work.insert (namedPerson "Ada Lovelace") {} none).plan
      ⟨.sqlite, .colon⟩).isOk = true := by
    decide
  cases planned : (Work.insert (namedPerson "Ada Lovelace") {} none).plan ⟨.sqlite, .colon⟩ with
  | error fault =>
      rw [planned] at compiles
      cases compiles
  | ok plan =>
      obtain ⟨_, ⟨mentions, composed, _, named⟩, same⟩ :=
        plan_withholds _ _ plan metadata "FullName" planned
          (by simp [metadata?, namedPerson, isMetadata, Except.toOption]) withheld nofun
      refine ⟨plan, mentions, rfl, same _ (.insert (namedPerson_sameBut _ _) {} none), composed, ?_⟩
      intro mention isMentioned isNamed
      cases named.mp ⟨mention, isMentioned, isNamed⟩

/-- Rows may be ordered by the column of a member that is not mapped. -/
def byFullName : Work :=
  .query ((Query.start ⟨.sqlite, .colon⟩ (some Samples.person)).orderBy (.text "FullName")) none {}

theorem byFullName_mentions_withheld :
    ∃ metadata plan, Samples.person.metadata = .ok metadata ∧
      metadata.find? "FullName" = some { name := "FullName", notMapped := true } ∧
      metadata.Withholds "FullName" ∧ byFullName.plan ⟨.sqlite, .colon⟩ = .ok plan ∧
      plan.compiled.sql =
        "SELECT \"Id\", \"FirstName\", \"LastName\", \"Age\", \"CreateDateUTC\" " ++
          "FROM \"Person\" ORDER BY \"FullName\"" := by
  obtain ⟨metadata, isMetadata, found, withheld⟩ := person_withholds
  have written : (byFullName.plan ⟨.sqlite, .colon⟩).toOption.map (·.compiled.sql) = some
      ("SELECT \"Id\", \"FirstName\", \"LastName\", \"Age\", \"CreateDateUTC\" " ++
        "FROM \"Person\" ORDER BY \"FullName\"") := by
    decide
  obtain ⟨plan, planned, sql_eq⟩ := Fault.ok_of_seen written
  exact ⟨metadata, plan, isMetadata, found, withheld, planned, sql_eq⟩

end Work

end EntitySql
