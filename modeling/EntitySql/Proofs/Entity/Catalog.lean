import EntitySql.Entity.Catalog
import EntitySql.Entity.Definition
import EntitySql.Proofs.Association
import EntitySql.Samples

/-!
# What a catalog remembers

Types are declared anew, derived from each other and looked up in any order.  What a
catalog has resolved is at all times the metadata that the type of that name has by
its own latest declaration, so that remembering it changes no answer.
-/

namespace EntitySql

namespace EntityType

variable {base : Option EntityType} {name : String} {shape : Shape} {fields : List Field}
  {type : EntityType} {mapping : Mapping}

theorem defineClosed_eq_ok (accepted : defineClosed base name fields = .ok type) :
    type.name = name ∧ type.mapping = Mapping.ofFields fields := by
  simp only [defineClosed] at accepted
  split at accepted <;>
  · obtain ⟨own, -, accepted⟩ := Fault.bind_eq_ok.mp accepted
    obtain ⟨all, -, accepted⟩ := Fault.bind_eq_ok.mp accepted
    obtain ⟨usable, -, accepted⟩ := Fault.bind_eq_ok.mp accepted
    cases accepted
    exact ⟨rfl, rfl⟩

theorem defineTolerant_eq_ok (accepted : defineTolerant base name fields = .ok type) :
    type.name = name ∧ type.mapping = Mapping.ofFields fields := by
  unfold defineTolerant at accepted
  dsimp only at accepted
  split at accepted
  · cases accepted
    exact ⟨rfl, rfl⟩
  · cases accepted
    exact ⟨rfl, rfl⟩
  · cases accepted

/-- A new type goes by its own name and says of its mapping what its own fields say. -/
theorem define_eq_ok (accepted : define base name shape fields = .ok type) :
    type.name = name ∧
      type.mapping = if shape = .bare then .undeclared else Mapping.ofFields fields := by
  unfold define at accepted
  obtain ⟨named, -, accepted⟩ := Fault.bind_eq_ok.mp accepted
  cases shape with
  | bare =>
      cases accepted
      exact ⟨rfl, rfl⟩
  | tolerant => exact defineTolerant_eq_ok accepted
  | closed => exact defineClosed_eq_ok accepted
  | stuck => exact defineClosed_eq_ok accepted

/-- The mapping of a base is of no account to what is derived from it. -/
theorem define_withMapping :
    define (some { type with mapping }) name shape fields = define (some type) name shape fields := by
  cases shape <;> rfl

end EntityType

namespace Catalog

/-- What is asked of a catalog. -/
inductive Call where
  | lookUp (name : String)
  | declare (name : String) (declaration : Declaration)
  | derive (base name : String) (shape : Shape) (fields : List Field)
  deriving Repr

/-- The type of a name; a name without a type stands for one without fields or
mapping. -/
def typeNamed (catalog : Catalog) (name : String) : EntityType :=
  (Association.find catalog.types name).getD { name, shape := .bare }

/-- What a call leaves behind.  A type is derived from a type that is there, under a
name that is not taken. -/
def perform (catalog : Catalog) : Call → Catalog
  | .lookUp name => (catalog.lookUp name).2
  | .declare name declaration => catalog.declare name declaration
  | .derive base name shape fields =>
    match Association.find catalog.types base, Association.find catalog.types name with
    | some type, none =>
      match EntityType.define (some type) name shape fields with
      | .ok derived => catalog.define derived
      | .error _ => catalog
    | _, _ => catalog

/-- What several calls leave behind. -/
def after (catalog : Catalog) (calls : List Call) : Catalog :=
  calls.foldl perform catalog

/-- What a type says about its mapping after some calls: its latest declaration, if it
has been declared in them. -/
def latestMapping (name : String) (mapping : Mapping) : List Call → Mapping
  | [] => mapping
  | .declare other declaration :: rest =>
    latestMapping name (if other = name then .declared declaration else mapping) rest
  | _ :: rest => latestMapping name mapping rest

/-- All that is remembered is what the type of that name has for its metadata now. -/
def Truthful (catalog : Catalog) : Prop :=
  ∀ name metadata, Association.find catalog.resolved name = some metadata →
    (catalog.typeNamed name).metadata = .ok metadata

variable {catalog : Catalog} {types : Association String EntityType} {name other : String}
  {type : EntityType} {declaration : Declaration} {call : Call}

theorem typeNamed_of_find (known : Association.find catalog.types name = some type) :
    catalog.typeNamed name = type := by
  rw [typeNamed, known, Option.getD_some]

/-- A catalog that remembers only the truth answers as if it remembered nothing. -/
theorem Truthful.lookUp_answer (truthful : catalog.Truthful) :
    (catalog.lookUp name).1 = (catalog.typeNamed name).metadata := by
  unfold lookUp
  split
  · rename_i metadata remembered
    exact (truthful name metadata remembered).symm
  · rw [← typeNamed]
    split <;> simp only [*]

@[simp]
theorem lookUp_types : (catalog.lookUp name).2.types = catalog.types := by
  unfold lookUp
  split
  · rfl
  · split <;> rfl

theorem Truthful.lookUp (truthful : catalog.Truthful) : (catalog.lookUp name).2.Truthful := by
  intro asked metadata remembered
  have same : (catalog.lookUp name).2.typeNamed asked = catalog.typeNamed asked := by
    simp only [typeNamed, lookUp_types]
  rw [same]
  unfold Catalog.lookUp at remembered
  split at remembered
  · exact truthful asked metadata remembered
  · split at remembered
    · rename_i resolved isResolved
      rw [Association.find_append, Option.or_eq_some_iff] at remembered
      rcases remembered with old | ⟨-, new⟩
      · exact truthful asked metadata old
      · rw [Association.find_cons, Association.find_nil, Option.ite_none_right_eq_some] at new
        obtain ⟨rfl, isMetadata⟩ := new
        cases isMetadata
        exact isResolved
    · exact truthful asked metadata remembered

/-- A declaration gives the type of its name a new mapping. -/
theorem find_declare :
    Association.find (catalog.declare other declaration).types name =
      (Association.find catalog.types name).map fun type =>
        { type with mapping := latestMapping name type.mapping [.declare other declaration] } := by
  have keepsNames : ∀ entry : String × EntityType,
      (if entry.1 == other then
        (entry.1, { entry.2 with mapping := .declared declaration }) else entry).1 = entry.1 := by
    intro entry
    split <;> rfl
  simp only [declare, Association.find, List.find?_map, Function.comp_def, keepsNames,
    Option.map_map]
  cases found : catalog.types.find? (·.1 == name) with
  | none => rfl
  | some entry =>
      have named : entry.1 = name := eq_of_beq (List.find?_some found :)
      by_cases declared : other = name
      · simp [latestMapping, named, declared]
      · simp [latestMapping, named, declared, Ne.symm declared]

/-- A declaration makes forget what was remembered of its name. -/
theorem find_declare_resolved :
    Association.find (catalog.declare other declaration).resolved name =
      if other = name then none else Association.find catalog.resolved name := by
  have kept := Association.find_filter (fun key => !(key == other)) catalog.resolved name
  by_cases declared : other = name
  · simpa [declare, declared] using kept
  · simpa [declare, declared, Ne.symm declared] using kept

theorem Truthful.declare (truthful : catalog.Truthful) :
    (catalog.declare other declaration).Truthful := by
  intro name metadata remembered
  rw [find_declare_resolved, Option.ite_none_left_eq_some] at remembered
  obtain ⟨different, remembered⟩ := remembered
  rw [← truthful name metadata remembered, typeNamed, typeNamed, find_declare]
  cases Association.find catalog.types name with
  | none => rfl
  | some type => rw [Option.map_some, latestMapping, if_neg different, latestMapping]

theorem find_define (new : Association.find catalog.types type.name = none) :
    Association.find (catalog.define type).types name =
      (Association.find catalog.types name).or (if type.name = name then some type else none) := by
  have absent : type.name ∉ catalog.types.map (·.1) := by
    rw [← Association.has_iff_mem, Association.has_eq_isSome, new]
    exact Bool.false_ne_true
  rw [define, Association.put_of_not_mem absent, Association.find_append, Association.find_cons,
    Association.find_nil]

/-- Of a name without a type nothing is remembered, for it has no metadata. -/
theorem Truthful.define (truthful : catalog.Truthful)
    (new : Association.find catalog.types type.name = none) : (catalog.define type).Truthful := by
  intro name metadata remembered
  have current := truthful name metadata remembered
  cases known : Association.find catalog.types name with
  | none =>
      rw [typeNamed, known] at current
      cases current
  | some former =>
      rw [typeNamed_of_find known] at current
      rw [typeNamed, find_define new, known]
      exact current

theorem perform_derive {base : String} {shape : Shape} {fields : List Field} {derived : EntityType}
    (known : Association.find catalog.types base = some type)
    (new : Association.find catalog.types name = none)
    (accepted : EntityType.define (some type) name shape fields = .ok derived) :
    catalog.perform (.derive base name shape fields) = catalog.define derived := by
  simp only [perform, known, new, accepted]

/-- A call looks a name up, declares one anew, adds a type under a new name or does
nothing. -/
theorem perform_cases (call : Call) :
    (∃ name, call = .lookUp name ∧ catalog.perform call = (catalog.lookUp name).2) ∨
    (∃ name declaration, call = .declare name declaration ∧
      catalog.perform call = catalog.declare name declaration) ∨
    (∃ base name shape fields, call = .derive base name shape fields ∧
      (catalog.perform call = catalog ∨
        ∃ derived, Association.find catalog.types derived.name = none ∧
          catalog.perform call = catalog.define derived)) := by
  cases call with
  | lookUp name => exact .inl ⟨name, rfl, rfl⟩
  | declare name declaration => exact .inr (.inl ⟨name, declaration, rfl, rfl⟩)
  | derive base name shape fields =>
      refine .inr (.inr ⟨base, name, shape, fields, rfl, ?_⟩)
      unfold perform
      dsimp only
      split
      · rename_i type known new
        split
        · rename_i derived accepted
          refine .inr ⟨derived, ?_, rfl⟩
          rw [(EntityType.define_eq_ok accepted).1]
          exact new
        · exact .inl rfl
      · exact .inl rfl

theorem Truthful.perform (truthful : catalog.Truthful) : (catalog.perform call).Truthful := by
  obtain ⟨name, -, done⟩ | ⟨name, declaration, -, done⟩ |
    ⟨base, name, shape, fields, -, done | ⟨derived, new, done⟩⟩ := catalog.perform_cases call
  · rw [done]
    exact truthful.lookUp
  · rw [done]
    exact truthful.declare
  · rw [done]
    exact truthful
  · rw [done]
    exact truthful.define new

/-- A type keeps all but its mapping, and its mapping unless it is declared anew. -/
theorem find_perform (known : Association.find catalog.types name = some type) :
    Association.find (catalog.perform call).types name =
      some { type with mapping := latestMapping name type.mapping [call] } := by
  obtain ⟨other, rfl, done⟩ | ⟨other, declaration, rfl, done⟩ |
    ⟨base, other, shape, fields, rfl, done | ⟨derived, new, done⟩⟩ := catalog.perform_cases call
  · rw [done, lookUp_types, known]
    rfl
  · rw [done, find_declare, known]
    rfl
  · rw [done, known]
    rfl
  · rw [done, find_define new, known]
    rfl

theorem latestMapping_cons {mapping : Mapping} {calls : List Call} :
    latestMapping name mapping (call :: calls) =
      latestMapping name (latestMapping name mapping [call]) calls := by
  cases call <;> rfl

theorem Truthful.after {calls : List Call} (truthful : catalog.Truthful) :
    (catalog.after calls).Truthful := by
  induction calls generalizing catalog with
  | nil => exact truthful
  | cons call calls ih => exact ih truthful.perform

theorem find_after {calls : List Call}
    (known : Association.find catalog.types name = some type) :
    Association.find (catalog.after calls).types name =
      some { type with mapping := latestMapping name type.mapping calls } := by
  induction calls generalizing catalog type with
  | nil => exact known
  | cons call calls ih =>
      rw [latestMapping_cons]
      exact ih (find_perform known)

/-- From a catalog that remembers only the truth, any calls lead to one that answers by
the latest declaration. -/
theorem lookUp_after {calls : List Call} (truthful : catalog.Truthful)
    (known : Association.find catalog.types name = some type) :
    ((catalog.after calls).lookUp name).1 =
      ({ type with mapping := latestMapping name type.mapping calls } : EntityType).metadata := by
  rw [truthful.after.lookUp_answer, typeNamed_of_find (find_after known)]

theorem latestMapping_append {mapping : Mapping} {calls later : List Call} :
    latestMapping name mapping (calls ++ later) =
      latestMapping name (latestMapping name mapping calls) later := by
  induction calls generalizing mapping with
  | nil => rfl
  | cons call calls ih =>
      rw [List.cons_append, latestMapping_cons, ih, ← latestMapping_cons]

/-- Remembering changes no answer.  Whatever has been called on a catalog of any types,
a type has the metadata, or is refused it, by its fields and its own latest declaration;
declaring another type changes nothing about it; and what is derived from it, after
any declarations, starts without them and is on its own from then on. -/
theorem lookUp_transparent
    (known : Association.find types name = some type) (calls : List Call) :
    ((after ⟨types, []⟩ calls).lookUp name).1 =
        ({ type with mapping := latestMapping name type.mapping calls } : EntityType).metadata ∧
      (∀ other declaration, other ≠ name →
        ((after ⟨types, []⟩ (calls ++ [.declare other declaration])).lookUp name).1 =
          ((after ⟨types, []⟩ calls).lookUp name).1) ∧
      ∀ derived shape fields defined,
        Association.find (after ⟨types, []⟩ calls).types derived = none →
        EntityType.define (some type) derived shape fields = .ok defined →
        defined.mapping = (if shape = .bare then .undeclared else Mapping.ofFields fields) ∧
          ∀ later, ((after ⟨types, []⟩
              (calls ++ .derive name derived shape fields :: later)).lookUp derived).1 =
            ({ defined with
              mapping := latestMapping derived defined.mapping later } : EntityType).metadata := by
  have truthful : Truthful ⟨types, []⟩ := by
    intro name metadata remembered
    cases remembered
  refine ⟨lookUp_after truthful known, ?_, ?_⟩
  · intro other declaration different
    rw [lookUp_after truthful known, lookUp_after truthful known, latestMapping_append,
      latestMapping, if_neg different, latestMapping]
  · intro derived shape fields defined new accepted
    obtain ⟨named, own⟩ := EntityType.define_eq_ok accepted
    refine ⟨own, fun later => ?_⟩
    have reachedBase : Association.find (after ⟨types, []⟩ calls).types name = some _ :=
      find_after known
    rw [after, List.foldl_append, List.foldl_cons, ← after, ← after,
      perform_derive reachedBase new (EntityType.define_withMapping.trans accepted)]
    refine lookUp_after (truthful.after.define (named ▸ new)) ?_
    rw [find_define (named ▸ new), new, if_pos named, Option.none_or]

/-- Another declaration of the sample persons. -/
def census : Declaration where
  table := some "people"
  columns := [{ name := "LastName", column := some "surname", key := true }]

/-- Persons are looked up, declared anew and looked up again.  Guests are derived from
them and looked up before persons are declared once more: they have plain columns and
no key. -/
theorem lookUp_transparent_guests :
    ((after ⟨Samples.all, []⟩ [.lookUp "Person", .declare "Person" census]).lookUp "Person").1 =
        .ok {
          name := "Person", table := some "people"
          columns := [{ name := "Id" }, { name := "FirstName" },
            { name := "LastName", column := some "surname", key := true }, { name := "Age" },
            { name := "CreateDateUTC" }, { name := "FullName" }] } ∧
      ((after ⟨Samples.all, []⟩ [.lookUp "Person", .declare "Person" census,
          .derive "Person" "Guest" .bare [], .lookUp "Guest",
          .declare "Person" {}]).lookUp "Guest").1 =
        .ok {
          name := "Guest"
          columns := [{ name := "Id" }, { name := "FirstName" }, { name := "LastName" },
            { name := "Age" }, { name := "CreateDateUTC" }, { name := "FullName" }] } := by
  have known : Association.find Samples.all "Person" = some Samples.person := rfl
  have transparent := lookUp_transparent known [.lookUp "Person", .declare "Person" census]
  obtain ⟨-, ofGuests⟩ := transparent.2.2 "Guest" .bare []
    { Samples.person with name := "Guest", mapping := .undeclared } rfl rfl
  exact ⟨transparent.1.trans rfl,
    (ofGuests [.lookUp "Guest", .declare "Person" {}]).trans rfl⟩

end Catalog

end EntitySql
