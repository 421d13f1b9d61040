import EntitySql.Entity.Instance
import EntitySql.Proofs.Association

/-!
# Instances made from values

An instance has the values that were given for its members.  A member for
which nothing was given is as in an instance made from nothing.
-/

namespace EntitySql

/-- A constructor of instances that can be made from values for the members of the given names,
and stores each value that a member accepts as it is.  A member that checks nothing accepts every
value; one that checks and converts what it is given accepts the values that it leaves as they
are.  Members for which nothing is given are untouched. -/
structure Stores (construct : Constructor) (names : List String) (accepts : String → Value → Prop)
    (untouched : Association String Value) : Prop where
  makes : ∀ given : Association String Value,
    (∀ name, (Association.find given name).isSome = true ↔ name ∈ names) →
      (∀ name value, Association.find given name = some value → accepts name value) →
        ∃ entity, construct given = .ok entity
  keeps : ∀ given entity, construct given = .ok entity → ∀ name ∈ names, ∀ value,
    Association.find given name = some value → accepts name value →
      Association.find entity.values name = some value
  leaves : ∀ given entity, construct given = .ok entity → ∀ name,
    Association.find given name = none →
      Association.find entity.values name = Association.find untouched name

namespace EntityType

/-- The values of an instance for which nothing is given. -/
def untouched (type : EntityType) : Association String Value :=
  if type.shape = .bare then [] else fill [] type.fields

/-- Instances of the type can be made from values for the members of the given
names, and only from those: a type with fields has each member as a field, and
asks for no other field. -/
def Takes (type : EntityType) (names : List String) : Prop :=
  type.shape = .bare ∨
    (type.shape = .stuck → type.fields = []) ∧
      (∀ name ∈ names, name ∈ type.fieldNames) ∧
        ∀ field ∈ type.fields, field.default = none → field.name ∈ names

variable {type : EntityType} {given : Association String Value} {entity : Instance}
variable {names : List String} {name : String} {value : Value}

theorem fill_cons (given : Association String Value) (field : Field) (rest : List Field) :
    fill given (field :: rest) =
      (field.name, ((Association.find given field.name).or field.default).getD .null) ::
        fill given rest :=
  rfl

/-- A field has the value given for it, or else the one it has without. -/
theorem find_fill (given : Association String Value) (fields : List Field) (name : String) :
    Association.find (fill given fields) name =
      (Association.find (fill [] fields) name).map (Association.find given name).getD := by
  induction fields with
  | nil => rfl
  | cons field rest ih =>
      simp only [fill_cons, Association.find_cons]
      by_cases same : field.name = name
      · cases found : Association.find given name <;> simp [same, found]
      · simp [same, ih]

theorem find_fill_isSome (given : Association String Value) (fields : List Field) (name : String) :
    (Association.find (fill given fields) name).isSome = true ↔ name ∈ fields.map (·.name) := by
  induction fields with
  | nil => simp [fill]
  | cons field rest ih =>
      simp only [fill_cons, Association.find_cons]
      by_cases same : field.name = name
      · simp [same]
      · simp [same, ih, Ne.symm same]

theorem instantiateExactly_values (made : type.instantiateExactly given = .ok entity) :
    entity.values = fill given type.fields := by
  unfold instantiateExactly at made
  split at made
  · cases made
  · split at made
    · cases made
    · cases made
      rfl

theorem instantiate_values (made : type.instantiate given = .ok entity) :
    entity.values = if type.shape = .bare then given else fill given type.fields := by
  unfold instantiate at made
  split at made
  case h_1 bare =>
    cases made
    simp [bare]
  case h_2 closed => simpa [closed] using instantiateExactly_values made
  case h_3 stuck =>
    cases exactly : type.instantiateExactly given with
    | error fault =>
        rw [exactly] at made
        cases made
    | ok first =>
        rw [exactly] at made
        simp only [bind, Except.bind] at made
        split at made
        · cases made
          simpa [stuck] using instantiateExactly_values exactly
        · cases made
  case h_4 tolerant =>
    split at made
    · cases made
      simp [tolerant]
    · cases made

/-- A member for which nothing was given is untouched. -/
theorem find_values_of_missing (made : type.instantiate given = .ok entity)
    (missing : Association.find given name = none) :
    Association.find entity.values name = Association.find type.untouched name := by
  rw [instantiate_values made, untouched]
  split
  · exact missing
  · rw [find_fill, missing]
    cases Association.find (fill [] type.fields) name <;> rfl

/-- A member has the value that was given for it. -/
theorem Takes.find_values (takes : type.Takes names) (member : name ∈ names)
    (made : type.instantiate given = .ok entity)
    (found : Association.find given name = some value) :
    Association.find entity.values name = some value := by
  rw [instantiate_values made]
  rcases takes with bare | ⟨_, fields, _⟩
  · rw [if_pos bare, found]
  · split
    · exact found
    · have isField := (find_fill_isSome [] type.fields name).mpr (fields name member)
      obtain ⟨default, isDefault⟩ := Option.isSome_iff_exists.mp isField
      rw [find_fill, isDefault, found]
      rfl

/-- An instance can be made from values for exactly these members. -/
theorem Takes.instantiates (takes : type.Takes names)
    (complete : ∀ name, (Association.find given name).isSome = true ↔ name ∈ names) :
    ∃ entity, type.instantiate given = .ok entity := by
  rcases takes with bare | ⟨stuck, fields, required⟩
  · exact ⟨⟨type, given⟩, by simp [instantiate, bare]⟩
  · have known : (given.map (·.1)).find? (fun name => !type.fieldNames.contains name) = none := by
      rw [List.find?_eq_none]
      intro name isGiven
      rw [← Association.has_iff_mem, Association.has_eq_isSome, complete] at isGiven
      simpa using fields name isGiven
    have enough : missing given type.fields = [] := by
      simp only [missing, List.map_eq_nil_iff, List.filter_eq_nil_iff]
      intro field member
      cases isDefault : field.default with
      | some _ => simp
      | none =>
          have isGiven := (complete field.name).mpr (required field member isDefault)
          simp [Association.has_eq_isSome, isGiven]
    have exactly : type.instantiateExactly given = .ok ⟨type, fill given type.fields⟩ := by
      rw [instantiateExactly, known, enough]
    cases shape : type.shape with
    | bare => exact ⟨⟨type, given⟩, by simp [instantiate, shape]⟩
    | closed => exact ⟨_, by rw [instantiate, shape]; exact exactly⟩
    | tolerant => exact ⟨⟨type, fill given type.fields⟩, by simp [instantiate, shape, enough]⟩
    | stuck =>
        refine ⟨⟨type, fill given type.fields⟩, ?_⟩
        rw [instantiate, shape]
        simp [exactly, stuck shape, bind, Except.bind, pure, Except.pure]

theorem Takes.stores (takes : type.Takes names) :
    Stores type.instantiate names (fun _ _ => True) type.untouched where
  makes _ complete _ := takes.instantiates complete
  keeps _ _ made _ member _ found _ := takes.find_values member made found
  leaves _ _ made _ missing := find_values_of_missing made missing

end EntityType

end EntitySql
