import EntitySql.Proofs.Parameters.Binding
import EntitySql.Proofs.Sql.Composition
import EntitySql.Proofs.Sql.Condition
import EntitySql.Statement

/-!
# Values bound by mutations

The values of an INSERT, an UPDATE or a DELETE are bound one after the other under the
names of their columns, each of them under a name that was not in use.
-/

namespace EntitySql

open Sql (Mention Separated Woven WovenEach)

namespace Parameters

variable {before middle after : Parameters} {name : String} {value : Value}

/-- What was bound stays bound, and what is bound behind it has names of its own. -/
def Grows (before after : Parameters) (added : List (String × Value)) : Prop :=
  after.entries = before.entries ++ added ∧ (before.names.Nodup → after.names.Nodup)

theorem Grows.refl (parameters : Parameters) : parameters.Grows parameters [] :=
  ⟨by simp, id⟩

theorem Grows.trans {added more : List (String × Value)} (first : before.Grows middle added)
    (next : middle.Grows after more) : before.Grows after (added ++ more) :=
  ⟨by rw [next.1, first.1, List.append_assoc], fun nodup => next.2 (first.2 nodup)⟩

theorem Grows.names_subset {added : List (String × Value)} (grows : before.Grows after added) :
    before.names ⊆ after.names := by
  rw [names, names, grows.1, List.map_append]
  exact List.subset_append_left _ _

theorem Grows.mem_names {names : List String} {values : List Value}
    (grows : before.Grows after (names.zip values)) (length_eq : names.length = values.length)
    (isName : name ∈ names) : name ∈ after.names := by
  rw [Parameters.names, grows.1, List.map_append, List.map_fst_zip (Nat.le_of_eq length_eq)]
  exact List.mem_append_right _ isName

theorem grows_store (free : name ∉ before.names) :
    before.Grows (before.store name value) [(name, value)] := by
  refine ⟨rfl, fun nodup => ?_⟩
  have names_eq : (before.store name value).names = before.names ++ [name] := by
    simp [names, store]
  rw [names_eq, List.nodup_append]
  refine ⟨nodup, List.nodup_singleton name, ?_⟩
  rintro other isOther _ isName rfl
  rw [List.mem_singleton.mp isName] at isOther
  exact free isOther

/-- All names can be read as names of placeholders. -/
def Readable (parameters : Parameters) : Prop :=
  ∀ name ∈ parameters.names, (Sql.Operand.parameter name).Readable

theorem readable_empty : ({} : Parameters).Readable := by simp [Readable, names]

theorem Readable.bindHinted {hint : String} (readable : before.Readable)
    (ran : Parameters.bindHinted hint value before = (.ok name, after)) : after.Readable := by
  have named := readable_of_bindHinted ran
  obtain ⟨other, again, _⟩ := bindHinted_run hint value before
  rw [ran] at again
  cases again
  have names_eq : (before.store name value).names = before.names ++ [name] := by
    simp [names, store]
  rw [Readable, names_eq, List.forall_mem_append, List.forall_mem_singleton]
  exact ⟨readable, named⟩

theorem Readable.bindEach {values : List Value} {added : List String} (readable : before.Readable)
    (ran : Parameters.bindEach values before = (.ok added, after)) : after.Readable := by
  obtain ⟨again, last, bindRan, length_eq, entries⟩ := bindEach_run values before
  have generated := generated_of_bindEach ran
  rw [ran] at bindRan
  cases bindRan
  have names_eq : after.names = before.names ++ added := by
    rw [names, entries, List.map_append, List.map_fst_zip (Nat.le_of_eq length_eq)]
    rfl
  rw [Readable, names_eq, List.forall_mem_append]
  refine ⟨readable, fun name isAdded => ?_⟩
  obtain ⟨number, rfl⟩ := generated name isAdded
  exact ⟨generatedName_ne_empty number, isWord_generatedName number⟩

end Parameters

namespace Statement

variable {parameters reached : Parameters} {dialect : Dialect} {table : String}

/-- All values are bound, in their order. -/
theorem bindColumns_run (pairs : List (String × Value)) (parameters : Parameters) :
    ∃ names reached,
      bindColumns pairs parameters = (.ok ((pairs.map (·.1)).zip names), reached) ∧
      names.length = pairs.length ∧ parameters.Grows reached (names.zip (pairs.map (·.2))) := by
  induction pairs generalizing parameters with
  | nil => exact ⟨[], parameters, rfl, rfl, .refl parameters⟩
  | cons pair rest ih =>
      obtain ⟨column, value⟩ := pair
      obtain ⟨name, ran, free⟩ := Parameters.bindHinted_run column value parameters
      obtain ⟨names, reached, restRan, length_eq, grows⟩ := ih (parameters.store name value)
      refine ⟨name :: names, reached, ?_, by simp [length_eq],
        (Parameters.grows_store free).trans grows⟩
      exact Action.bind_eq_ok.mpr ⟨_, _, ran, Action.bind_eq_ok.mpr ⟨_, _, restRan, rfl⟩⟩

theorem columns_of_bindColumns {pairs : List (String × Value)} {bound : List (String × String)}
    (ran : bindColumns pairs parameters = (.ok bound, reached)) :
    bound.map (·.1) = pairs.map (·.1) := by
  obtain ⟨names, last, bindRan, length_eq, _⟩ := bindColumns_run pairs parameters
  rw [ran] at bindRan
  cases bindRan
  exact List.map_fst_zip (by simp [length_eq])

/-- Values are bound under readable names. -/
theorem readable_of_bindColumns {pairs : List (String × Value)} {bound : List (String × String)}
    (ran : bindColumns pairs parameters = (.ok bound, reached)) :
    ∀ pair ∈ bound, (Sql.Operand.parameter pair.2).Readable := by
  induction pairs generalizing parameters bound with
  | nil =>
      cases ran
      simp
  | cons pair rest ih =>
      obtain ⟨name, middle, firstRan, ran⟩ := Action.bind_eq_ok.mp ran
      obtain ⟨others, last, restRan, answered⟩ := Action.bind_eq_ok.mp ran
      obtain ⟨rfl, rfl⟩ := Action.answer_eq_ok.mp answered
      exact List.forall_mem_cons.mpr ⟨Parameters.readable_of_bindHinted firstRan, ih restRan⟩

theorem readable_bindColumns {pairs : List (String × Value)} {bound : List (String × String)}
    (readable : parameters.Readable)
    (ran : bindColumns pairs parameters = (.ok bound, reached)) : reached.Readable := by
  induction pairs generalizing parameters bound with
  | nil =>
      cases ran
      exact readable
  | cons pair rest ih =>
      obtain ⟨name, middle, firstRan, ran⟩ := Action.bind_eq_ok.mp ran
      obtain ⟨others, last, restRan, answered⟩ := Action.bind_eq_ok.mp ran
      obtain ⟨rfl, rfl⟩ := Action.answer_eq_ok.mp answered
      exact ih (readable.bindHinted firstRan) restRan

/-- What the key of an inserted row is compared with: its identity or a parameter. -/
def IsReadBack (table : String) (key : EntityKey) (compared : Mention) : Prop :=
  compared = .identity table key.column ∨ ∃ name, compared = .parameter name

/-- What a key is compared with after a run that started with some of the parameters: the
identity just generated, the parameter stored in its column, or else one of its own. -/
inductive Finds (table : String) (bound : Association String String) (before after : Parameters)
    (key : EntityKey) : Mention → Prop where
  | identity (generated : key.identity = true) :
      Finds table bound before after key (.identity table key.column)
  | stored {name : String} (plain : key.identity = false)
      (found : Association.find bound key.column = some name) :
      Finds table bound before after key (.parameter name)
  | own {name : String} (plain : key.identity = false)
      (missing : Association.find bound key.column = none) (fresh : name ∉ before.names)
      (holds : (name, key.value) ∈ after.entries) (readable : (Sql.Operand.parameter name).Readable) :
      Finds table bound before after key (.parameter name)

section Finds

variable {bound : Association String String} {key : EntityKey} {compared : Mention}
  {before middle after : Parameters} {added : List (String × Value)}

theorem Finds.isReadBack (finds : Finds table bound before after key compared) :
    IsReadBack table key compared := by
  cases finds with
  | identity => exact .inl rfl
  | stored => exact .inr ⟨_, rfl⟩
  | own => exact .inr ⟨_, rfl⟩

/-- What was compared before more was bound. -/
theorem Finds.keep (finds : Finds table bound before middle key compared)
    (grows : middle.Grows after added) : Finds table bound before after key compared := by
  cases finds with
  | identity generated => exact .identity generated
  | stored plain found => exact .stored plain found
  | own plain missing fresh holds readable =>
      refine .own plain missing fresh ?_ readable
      rw [grows.1]
      exact List.mem_append_left _ holds

/-- What is compared after more was bound. -/
theorem Finds.since (finds : Finds table bound middle after key compared)
    (grows : before.Grows middle added) : Finds table bound before after key compared := by
  cases finds with
  | identity generated => exact .identity generated
  | stored plain found => exact .stored plain found
  | own plain missing fresh holds readable =>
      refine .own plain missing (fun taken => fresh ?_) holds readable
      simp only [Parameters.names, grows.1, List.map_append]
      exact List.mem_append_left _ taken

end Finds

/-- The text of the condition on a key. -/
def readBackText (dialect : Dialect) (key : EntityKey) (compared : Mention) : String :=
  dialect.identifier key.column ++ " = " ++ compared.text dialect

/-- The condition on a key never fails, and binds at most one value.  What is bound does
not depend on the dialect. -/
theorem readBackTerm_run (table : String) (bound : Association String String) (key : EntityKey)
    (parameters : Parameters) :
    ∃ compared reached added,
      (∀ dialect, readBackTerm dialect table bound key parameters =
        (.ok (readBackText dialect key compared), reached)) ∧
      parameters.Grows reached added ∧ Finds table bound parameters reached key compared := by
  cases identity : key.identity with
  | true =>
      refine ⟨.identity table key.column, parameters, [], fun dialect => ?_, .refl parameters,
        .identity identity⟩
      simp only [readBackTerm, identity]
      rfl
  | false =>
      cases found : Association.find bound key.column with
      | some name =>
          refine ⟨.parameter name, parameters, [], fun dialect => ?_, .refl parameters,
            .stored identity found⟩
          simp only [readBackTerm, identity, found]
          rfl
      | none =>
          obtain ⟨name, ran, free⟩ := Parameters.bindHinted_run key.column key.value parameters
          refine ⟨.parameter name, parameters.store name key.value, _, fun dialect => ?_,
            Parameters.grows_store free,
            .own identity found free (List.mem_append_right _ (List.mem_singleton.mpr rfl))
              (Parameters.readable_of_bindHinted ran)⟩
          simp only [readBackTerm, identity, found]
          exact Action.bind_of_ok ran

theorem readBackTerms_run (table : String) (bound : Association String String)
    (keys : List EntityKey) (parameters : Parameters) :
    ∃ compared reached added,
      (∀ dialect, readBackTerms dialect table bound keys parameters =
        (.ok (List.zipWith (readBackText dialect) keys compared), reached)) ∧
      parameters.Grows reached added ∧
      List.Forall₂ (Finds table bound parameters reached) keys compared := by
  induction keys generalizing parameters with
  | nil => exact ⟨[], parameters, [], fun _ => rfl, .refl parameters, .nil⟩
  | cons key rest ih =>
      obtain ⟨compared, middle, added, ran, grows, finds⟩ :=
        readBackTerm_run table bound key parameters
      obtain ⟨others, reached, more, restRan, later, areFound⟩ := ih middle
      refine ⟨compared :: others, reached, _, fun dialect => ?_, grows.trans later,
        .cons (finds.keep later) (areFound.imp fun _ _ finds => finds.since grows)⟩
      exact Action.bind_eq_ok.mpr ⟨_, _, ran dialect,
        Action.bind_eq_ok.mpr ⟨_, _, restRan dialect, rfl⟩⟩

theorem readable_readBackTerm {bound : Association String String} {key : EntityKey} {term : String}
    (readable : parameters.Readable)
    (ran : readBackTerm dialect table bound key parameters = (.ok term, reached)) :
    reached.Readable := by
  cases identity : key.identity with
  | true =>
      simp only [readBackTerm, identity] at ran
      cases ran
      exact readable
  | false =>
      cases found : Association.find bound key.column with
      | some name =>
          simp only [readBackTerm, identity, found] at ran
          cases ran
          exact readable
      | none =>
          simp only [readBackTerm, identity, found] at ran
          obtain ⟨name, middle, boundRan, ran⟩ := Action.bind_eq_ok.mp ran
          cases ran
          exact readable.bindHinted boundRan

theorem readable_readBackTerms {bound : Association String String} {keys : List EntityKey}
    {terms : List String} (readable : parameters.Readable)
    (ran : readBackTerms dialect table bound keys parameters = (.ok terms, reached)) :
    reached.Readable := by
  induction keys generalizing parameters terms with
  | nil =>
      cases ran
      exact readable
  | cons key rest ih =>
      obtain ⟨term, middle, firstRan, ran⟩ := Action.bind_eq_ok.mp ran
      obtain ⟨others, last, restRan, answered⟩ := Action.bind_eq_ok.mp ran
      obtain ⟨rfl, rfl⟩ := Action.answer_eq_ok.mp answered
      exact ih (readable_readBackTerm readable firstRan) restRan

/-- The keys and what they are compared with. -/
def readBackMentions : List EntityKey → List Mention → List Mention
  | key :: keys, compared :: others => .column none key.column :: compared :: readBackMentions keys others
  | _, _ => []

theorem readBackText_woven (style : PlaceholderStyle) (key : EntityKey) (compared : Mention) :
    Woven dialect style (readBackText dialect key compared)
      (readBackText (dialect.inStyle style) key compared) [.column none key.column, compared] := by
  have later : Woven dialect style _ _ [compared] := .words " = " (by decide) (.last compared)
  have whole := Woven.mention (.column none key.column)
    (Separated.append_of_ne (by decide) (by decide)) later
  simpa [readBackText, Mention.text, Dialect.columnText, String.append_assoc] using whole

theorem readBack_woven (style : PlaceholderStyle) {keys : List EntityKey} {compared : List Mention}
    (length_eq : keys.length = compared.length) (given : keys ≠ []) :
    Woven dialect style (" AND ".intercalate (List.zipWith (readBackText dialect) keys compared))
      (" AND ".intercalate (List.zipWith (readBackText (dialect.inStyle style)) keys compared))
      (readBackMentions keys compared) := by
  have each : WovenEach dialect style (List.zipWith (readBackText dialect) keys compared)
      (List.zipWith (readBackText (dialect.inStyle style)) keys compared)
      (readBackMentions keys compared) := by
    clear given
    induction keys generalizing compared with
    | nil => exact .nil
    | cons key keys ih =>
        cases compared with
        | nil => cases length_eq
        | cons mention others =>
            exact .cons (readBackText_woven style key mention) (ih (Nat.succ_inj.mp length_eq))
  refine each.intercalate " AND " (by decide) (by decide) (by decide) ?_
  cases keys <;> cases compared <;> simp_all

theorem readBack_ne_empty {keys : List EntityKey} {compared : List Mention}
    (areReadBack : List.Forall₂ (IsReadBack table) keys compared) (given : keys ≠ []) :
    " AND ".intercalate (List.zipWith (readBackText dialect) keys compared) ≠ "" := by
  cases areReadBack with
  | nil => exact absurd rfl given
  | cons => exact Sql.intercalate_cons_ne_empty (by simp [readBackText])

/-- A statement is put together from what its text and its parameters come to. -/
theorem assemble_eq_ok {α : Type} {text : Action Parameters (String × α)} {compiled : Compiled}
    {extra : α} :
    assemble dialect text = .ok (compiled, extra) ↔
      ∃ sql reached, text {} = (.ok (sql, extra), reached) ∧
        compiled = { sql, parameters := reached.entries, dialect := dialect.name } := by
  unfold assemble
  split
  · rename_i sql rest reached ran
    simp only [ran]
    constructor
    · intro same
      cases same
      exact ⟨sql, reached, rfl, rfl⟩
    · rintro ⟨other, last, same, rfl⟩
      cases same
      rfl
  · rename_i fault reached ran
    simp [ran]

/-- A statement without any extra. -/
theorem assemble_text_eq_ok {text : Action Parameters String} {compiled : Compiled} :
    assemble dialect (text >>= fun sql => pure (sql, ())) = .ok (compiled, ()) ↔
      ∃ sql reached, text {} = (.ok sql, reached) ∧
        compiled = { sql, parameters := reached.entries, dialect := dialect.name } := by
  rw [assemble_eq_ok]
  constructor
  · rintro ⟨sql, reached, ran, rfl⟩
    obtain ⟨other, last, textRan, answered⟩ := Action.bind_eq_ok.mp ran
    obtain ⟨same, rfl⟩ := Action.answer_eq_ok.mp answered
    cases same
    exact ⟨sql, last, textRan, rfl⟩
  · rintro ⟨sql, reached, ran, rfl⟩
    exact ⟨sql, reached, Action.bind_of_ok ran, rfl⟩

/-- A statement of an entity whose metadata is looked up first. -/
theorem assembled_eq_ok {type : EntityType} {text : Metadata → Action Parameters String}
    {compiled : Compiled}
    (accepted : (do
      let metadata ← type.metadata
      let (compiled, _) ← assemble dialect do
        let sql ← text metadata
        return (sql, ())
      .ok compiled) = Except.ok compiled) :
    ∃ metadata sql reached, type.metadata = .ok metadata ∧
      text metadata {} = (.ok sql, reached) ∧
      compiled = { sql, parameters := reached.entries, dialect := dialect.name } := by
  obtain ⟨metadata, isMetadata, accepted⟩ := Fault.bind_eq_ok.mp accepted
  obtain ⟨⟨compiled, _⟩, assembled, answered⟩ := Fault.bind_eq_ok.mp accepted
  cases answered
  obtain ⟨sql, reached, ran, compiled_eq⟩ := assemble_text_eq_ok.mp assembled
  exact ⟨metadata, sql, reached, isMetadata, ran, compiled_eq⟩

theorem assembled_of_run {type : EntityType} {metadata : Metadata}
    {text : Metadata → Action Parameters String} {sql : String}
    (isMetadata : type.metadata = .ok metadata) (ran : text metadata {} = (.ok sql, reached)) :
    (do
      let metadata ← type.metadata
      let (compiled, _) ← assemble dialect do
        let sql ← text metadata
        return (sql, ())
      .ok compiled) =
    Except.ok ({ sql, parameters := reached.entries, dialect := dialect.name } : Compiled) :=
  Fault.bind_eq_ok.mpr ⟨metadata, isMetadata, Fault.bind_eq_ok.mpr
    ⟨_, assemble_text_eq_ok.mpr ⟨sql, reached, ran, rfl⟩, rfl⟩⟩

theorem assembled_of_fault {type : EntityType} {metadata : Metadata}
    {text : Metadata → Action Parameters String} {fault : Fault}
    (isMetadata : type.metadata = .ok metadata) (ran : text metadata {} = (.error fault, reached)) :
    (do
      let metadata ← type.metadata
      let (compiled, _) ← assemble dialect do
        let sql ← text metadata
        return (sql, ())
      .ok compiled) =
    (Except.error fault : Except Fault Compiled) := by
  have failed : (text metadata >>= fun sql => pure (sql, ())) {} = (.error fault, reached) :=
    Action.bind_of_error ran
  rw [isMetadata]
  change (assemble dialect (text metadata >>= fun sql => pure (sql, ())) >>= _) = _
  rw [assemble, failed]
  rfl

end Statement

end EntitySql
