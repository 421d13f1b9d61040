import EntitySql.Proofs.Parameters

/-!
# Values bound in a row

Values bound to no parameters yet are numbered from zero on, in the order in which
they are bound.  A value bound under a hint has a name that was not in use.
-/

namespace EntitySql

theorem firstFree_of_free {taken : String → Bool} {nameOf : Nat → String} {start limit : Nat}
    (free : taken (nameOf start) = false) : firstFree taken nameOf start limit = start := by
  cases limit with
  | zero => rfl
  | succ limit => simp [firstFree, free]

namespace Parameters

variable {parameters reached : Parameters} {names : List String} {name : String}

/-! ## Generated names -/

/-- Binds values one after the other under generated names. -/
def bindEach : List Value → Action Parameters (List String)
  | [] => return []
  | value :: rest => do
    let name ← bindFresh value
    let names ← bindEach rest
    return name :: names

/-- Every value is bound, behind those that were bound before. -/
theorem bindEach_run (values : List Value) (parameters : Parameters) :
    ∃ names reached, bindEach values parameters = (.ok names, reached) ∧
      names.length = values.length ∧
      reached.entries = parameters.entries ++ names.zip values := by
  induction values generalizing parameters with
  | nil => exact ⟨[], parameters, rfl, rfl, by simp⟩
  | cons value rest ih =>
      obtain ⟨number, middle, ran, middle_eq, _⟩ := bindFresh_run value parameters
      obtain ⟨names, reached, restRan, length_eq, reached_eq⟩ := ih middle
      refine ⟨generatedName number :: names, reached, ?_, by simp [length_eq], ?_⟩
      · exact Action.bind_eq_ok.mpr ⟨_, _, ran, Action.bind_eq_ok.mpr ⟨_, _, restRan, rfl⟩⟩
      · rw [reached_eq, middle_eq, List.zip_cons_cons, List.append_assoc, List.singleton_append]

theorem generated_of_bindEach {values : List Value}
    (ran : bindEach values parameters = (.ok names, reached)) :
    ∀ name ∈ names, ∃ number, name = generatedName number := by
  induction values generalizing parameters names with
  | nil =>
      cases ran
      simp
  | cons value rest ih =>
      obtain ⟨first, middle, firstRan, ran⟩ := Action.bind_eq_ok.mp ran
      obtain ⟨others, last, restRan, answered⟩ := Action.bind_eq_ok.mp ran
      obtain ⟨rfl, rfl⟩ := Action.answer_eq_ok.mp answered
      obtain ⟨number, _, freshRan, _⟩ := bindFresh_run value parameters
      rw [firstRan] at freshRan
      cases freshRan
      exact List.forall_mem_cons.mpr ⟨⟨number, rfl⟩, ih restRan⟩

theorem bindEach_append {first later : List Value} {middle : Parameters}
    {laterNames : List String} (ran : bindEach first parameters = (.ok names, middle))
    (laterRan : bindEach later middle = (.ok laterNames, reached)) :
    bindEach (first ++ later) parameters = (.ok (names ++ laterNames), reached) := by
  induction first generalizing parameters names with
  | nil =>
      cases ran
      exact laterRan
  | cons value rest ih =>
      obtain ⟨name, bound, firstRan, ran⟩ := Action.bind_eq_ok.mp ran
      obtain ⟨others, last, restRan, answered⟩ := Action.bind_eq_ok.mp ran
      cases answered
      exact Action.bind_eq_ok.mpr ⟨_, _, firstRan, Action.bind_eq_ok.mpr ⟨_, _, ih restRan, rfl⟩⟩

/-- The parameters of values that are numbered in their order. -/
def numbered (values : List Value) : Parameters where
  entries := values.mapIdx fun number value => (generatedName number, value)
  counter := values.length

theorem has_generatedName_numbered (values : List Value) :
    (numbered values).has (generatedName values.length) = false := by
  rw [← Bool.not_eq_true, has, List.contains_iff_mem]
  intro member
  obtain ⟨entry, isEntry, named⟩ := List.mem_map.mp member
  obtain ⟨number, bound, rfl⟩ := List.mem_mapIdx.mp isEntry
  have same : number = values.length := generatedName_injective named
  omega

theorem bindFresh_numbered (values : List Value) (value : Value) :
    bindFresh value (numbered values) =
      (.ok (generatedName values.length), numbered (values ++ [value])) := by
  have number : firstFree (numbered values).has generatedName (numbered values).counter
      (numbered values).entries.length = values.length :=
    firstFree_of_free (has_generatedName_numbered values)
  simp only [bindFresh, number]
  simp [numbered, store]

/-- Values bound behind numbered ones are numbered on. -/
theorem bindEach_numbered (before values : List Value) :
    bindEach values (numbered before) =
      (.ok ((List.range' before.length values.length).map generatedName),
        numbered (before ++ values)) := by
  induction values generalizing before with
  | nil => simp [bindEach, pure, Action.answer]
  | cons value rest ih =>
      have later := ih (before ++ [value])
      refine Action.bind_eq_ok.mpr ⟨_, _, bindFresh_numbered before value,
        Action.bind_eq_ok.mpr ⟨_, _, later, ?_⟩⟩
      simp [pure, Action.answer, List.range'_succ]

/-! ## Hinted names -/

theorem suffixedName_injective (base : String) : Function.Injective (suffixedName base) := by
  intro first second same
  have characters := congrArg String.toList same
  unfold suffixedName at characters
  split at characters <;> split at characters
  · simp_all
  · simp at characters
  · simp at characters
  · have digits : Nat.toDigits 10 first = Nat.toDigits 10 second := by
      simpa [Nat.toString_eq_repr, Nat.toList_repr] using characters
    calc
      first = Nat.ofDigitChars 10 (Nat.toDigits 10 first) 0 :=
        Nat.ofDigitChars_ten_toDigits.symm
      _ = Nat.ofDigitChars 10 (Nat.toDigits 10 second) 0 := by rw [digits]
      _ = second := Nat.ofDigitChars_ten_toDigits

/-- A value is bound under a name that was not in use, behind all others. -/
theorem bindHinted_run (hint : String) (value : Value) (parameters : Parameters) :
    ∃ name, bindHinted hint value parameters = (.ok name, parameters.store name value) ∧
      name ∉ parameters.names := by
  refine ⟨_, rfl, ?_⟩
  have free : parameters.has _ = false := not_taken_firstFree (by
    obtain ⟨number, above, below, free⟩ :=
      exists_free (suffixedName_injective (baseName hint)) parameters.names 0
    refine ⟨number, above, ?_, ?_⟩
    · simpa [names] using below
    · simpa [has] using free)
  simpa [has] using free

theorem isWord_baseName (hint : String) : ∀ c ∈ (baseName hint).toList, Text.isWord c = true := by
  have safe : ∀ c ∈ hint.toList.map fun c => if Text.isWord c then c else '_',
      Text.isWord c = true := by
    rw [List.forall_mem_map]
    intro c _
    split
    · assumption
    · decide
  simp only [baseName]
  split
  · exact List.all_eq_true.mp (by decide)
  · rename_i first rest safe_eq
    rw [safe_eq] at safe
    split
    · rw [String.toList_ofList, List.forall_mem_cons]
      exact ⟨by decide, safe⟩
    · rw [String.toList_ofList, safe_eq]
      exact safe

theorem baseName_ne_empty (hint : String) : baseName hint ≠ "" := by
  simp only [baseName]
  split
  · decide
  · rename_i first rest safe_eq
    split <;> simp [safe_eq, ← String.toList_inj]

theorem readable_suffixedName (hint : String) (number : Nat) :
    suffixedName (baseName hint) number ≠ "" ∧
      ∀ c ∈ (suffixedName (baseName hint) number).toList, Text.isWord c = true := by
  have words := isWord_baseName hint
  have given := baseName_ne_empty hint
  rw [suffixedName]
  split
  · exact ⟨given, words⟩
  · refine ⟨by simp [given], ?_⟩
    simp only [String.toList_append, List.forall_mem_append]
    refine ⟨⟨words, List.all_eq_true.mp (by decide)⟩, ?_⟩
    rw [Nat.toString_eq_repr, Nat.toList_repr]
    exact fun c member =>
      (Text.isWord_of_isDigit (Nat.isDigit_of_mem_toDigits (by decide) (by decide) member)).1

/-- A value is bound under a name that can be read as the name of a placeholder. -/
theorem readable_of_bindHinted {hint : String} {value : Value}
    (ran : bindHinted hint value parameters = (.ok name, reached)) :
    name ≠ "" ∧ ∀ c ∈ name.toList, Text.isWord c = true := by
  obtain ⟨named, _⟩ := Prod.mk.inj ran
  rw [← Except.ok.inj named]
  exact readable_suffixedName hint _

end Parameters

end EntitySql
