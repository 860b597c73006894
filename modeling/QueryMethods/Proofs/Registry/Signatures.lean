import QueryMethods.Proofs.Condition.LeftFold
import QueryMethods.Proofs.MethodName.Alignment
import QueryMethods.Proofs.Registry.Faults
import QueryMethods.Proofs.Registry.NullArguments

/-!
# The signatures of derived methods

A method that is derived from its name is registered exactly when its parameters and its shape are
those that the name demands, each token names a field, and each parameter can be compared with the
first field so named. Its statement then selects by the tree of these fields, folded to the left.
-/

namespace QueryMethods

/-- The first field of the entity under the name, in any ASCII case. -/
def Entity.FirstField (entity : Entity) (name : String) (field : Field) : Prop :=
  ∃ before after, entity.fields = before ++ field :: after ∧ sameName field.name name = true ∧
    ∀ other ∈ before, sameName other.name name = false

/-- A parameter is compared with a field of its own type, and an integer also with a float. -/
def Param.Comparable (param : Param) (field : Field) : Prop :=
  param.type = field.type ∨ (param.type = .int ∧ field.type = .float)

/-- The method has the signature that its name asks for over the entity; the tokens of the name,
the parameters and the fields follow each other one by one. -/
structure Method.Follows (method : Method) (entity : Entity) (name : MethodName)
    (fields : List Field) : Prop where
  parse_eq : MethodName.parse method.name = .ok (some name)
  named : List.Forall₂ (fun token param => sameName token param.name = true)
    name.fields method.params
  shape_eq : method.shape = name.verb.shape
  found : List.Forall₂ entity.FirstField name.fields fields
  comparable : List.Forall₂ Param.Comparable method.params fields

/-- The statement that selects by the comparisons of the fields with the parameters. -/
structure Statement.Selects (statement : Statement) (config : Config) (entity : Entity)
    (method : Method) (name : MethodName) (fields : List Field) (condition : Condition) :
    Prop where
  source_eq : statement.source = .derived condition
  folds : Condition.FoldsLeft (fields.map (·.name)) name.connectors condition
  leaves_eq : condition.leaves = (fields.map (·.name)).zipIdx
  binds_eq : statement.binds = List.range method.params.length
  policy_eq : statement.policy = .discard
  returnsRows_eq : statement.returnsRows = true
  shape_eq : statement.shape = method.shape
  entity_eq : statement.entity = entity
  sql_eq : statement.sql = "SELECT " ++ name.verb.selection entity ++ " FROM " ++
    entity.qualifiedTable config.defaultSchema ++ " WHERE " ++
    (condition.render config.dialect []).sql ++ name.verb.limit

theorem Entity.field?_eq_some_iff {entity : Entity} {name : String} {field : Field} :
    entity.field? name = some field ↔ entity.FirstField name field := by
  unfold Entity.field? Entity.FirstField
  rw [List.find?_eq_some_iff_append]
  constructor
  · rintro ⟨hname, before, after, hfields, hbefore⟩
    exact ⟨before, after, hfields, hname, fun other hmem => by simpa using hbefore other hmem⟩
  · rintro ⟨before, after, hfields, hname, hbefore⟩
    exact ⟨hname, before, after, hfields, fun other hmem => by simpa using hbefore other hmem⟩

theorem Param.comparable_iff {param : Param} {field : Field} :
    param.Comparable field ↔ param.type.fits field.type = true :=
  ValueType.fits_iff.symm

theorem forall₂_zip_iff {α β γ : Type} {P : α → γ → Prop} {Q : β → γ → Prop} {left : List α}
    {right : List β} {results : List γ} (hlength : left.length = right.length) :
    List.Forall₂ (fun pair result => P pair.1 result ∧ Q pair.2 result) (left.zip right) results ↔
      List.Forall₂ P left results ∧ List.Forall₂ Q right results := by
  induction left generalizing right results with
  | nil =>
      obtain rfl := List.eq_nil_of_length_eq_zero hlength.symm
      simp
  | cons first left ih =>
      cases right with
      | nil => cases hlength
      | cons second right =>
          cases results with
          | nil => simp
          | cons result results =>
              simp only [List.zip_cons_cons, List.forall₂_cons, ih (Nat.succ.inj hlength)]
              exact and_and_and_comm

namespace Statement

theorem conditionOf_eq_ok_iff {name : MethodName} {entity : Entity} {method : Method}
    {condition : Condition} (hlength : name.fields.length = method.params.length) :
    conditionOf name entity method = .ok condition ↔
      ∃ fields, List.Forall₂ entity.FirstField name.fields fields ∧
        List.Forall₂ Param.Comparable method.params fields ∧
        Condition.FoldsLeft (fields.map (·.name)) name.connectors condition := by
  have hfields : ∀ fields, (name.fields.zip method.params).mapM
        (fun part => comparedField entity part.1 part.2) = .ok fields ↔
      List.Forall₂ entity.FirstField name.fields fields ∧
        List.Forall₂ Param.Comparable method.params fields := by
    intro fields
    rw [mapM_eq_ok_iff, ← forall₂_zip_iff hlength]
    simp only [comparedField_eq_ok_iff, Entity.field?_eq_some_iff, Param.comparable_iff]
  constructor
  · intro h
    obtain ⟨fields, hcompared, htree⟩ := conditionOf_eq_ok h
    obtain ⟨hfound, hcomparable⟩ := (hfields fields).mp (mapM_eq_ok_iff.mpr hcompared)
    exact ⟨fields, hfound, hcomparable, Condition.build?_eq_some_iff.mp htree⟩
  · rintro ⟨fields, hfound, hcomparable, hfold⟩
    have hcompared := (hfields fields).mpr ⟨hfound, hcomparable⟩
    have htree := Condition.build?_eq_some_iff.mpr hfold
    simp only [conditionOf, bind, Except.bind, hcompared, htree]

/-- A derived statement exists exactly for a method that follows its name. -/
theorem derive_eq_ok_iff {config : Config} {repository : String} {entity : Entity}
    {method : Method} {statement : Statement} :
    derive config repository entity method = .ok statement ↔
      ∃ name fields condition, method.Follows entity name fields ∧
        Condition.FoldsLeft (fields.map (·.name)) name.connectors condition ∧
        statement = .ofCondition config entity method name.verb condition := by
  have hnamed : ∀ name : MethodName,
      List.Forall₂ (fun field param => sameName field param = true) name.fields
          (method.params.map (·.name)) ↔
        List.Forall₂ (fun token param => sameName token param.name = true) name.fields
          method.params :=
    fun name => List.forall₂_map_right_iff
  constructor
  · intro h
    obtain ⟨name, condition, hparse, halign, hcondition, rfl⟩ := derive_eq_ok h
    obtain ⟨hmatch, hshape⟩ := MethodName.align_eq_ok_iff.mp halign
    have htokens := (hnamed name).mp hmatch
    obtain ⟨fields, hfound, hcomparable, hfold⟩ :=
      (conditionOf_eq_ok_iff htokens.length_eq).mp hcondition
    exact ⟨name, fields, condition, ⟨hparse, htokens, hshape, hfound, hcomparable⟩, hfold, rfl⟩
  · rintro ⟨name, fields, condition, hfollows, hfold, rfl⟩
    have halign : name.align (method.params.map (·.name)) method.shape = .ok () :=
      MethodName.align_eq_ok_iff.mpr ⟨(hnamed name).mpr hfollows.named, hfollows.shape_eq⟩
    have hcondition : conditionOf name entity method = .ok condition :=
      (conditionOf_eq_ok_iff hfollows.named.length_eq).mpr
        ⟨fields, hfollows.found, hfollows.comparable, hfold⟩
    simp only [derive, hfollows.parse_eq, halign, hcondition]
    rfl

theorem selects_ofCondition {config : Config} {entity : Entity} {method : Method}
    {name : MethodName} {fields : List Field} {condition : Condition}
    (hfollows : method.Follows entity name fields)
    (hfold : Condition.FoldsLeft (fields.map (·.name)) name.connectors condition) :
    (ofCondition config entity method name.verb condition).Selects config entity method name
      fields condition := by
  have hleaves : condition.leaves = (fields.map (·.name)).zipIdx :=
    Condition.leaves_of_build? (Condition.build?_eq_some_iff.mpr hfold)
  constructor
  case source_eq => rfl
  case folds => exact hfold
  case leaves_eq => exact hleaves
  case binds_eq =>
    have hall : condition.boundParams [] = condition.leaves.map (·.2) := by
      simp [Condition.boundParams]
    calc (condition.render config.dialect []).binds
        = condition.boundParams [] := Condition.binds_render _ _ _
      _ = (fields.map (·.name)).zipIdx.map (·.2) := by rw [hall, hleaves]
      _ = List.range method.params.length := by
        rw [List.zipIdx_map_snd, List.length_map, hfollows.comparable.length_eq,
          List.range_eq_range']
  case policy_eq => rfl
  case returnsRows_eq => rfl
  case shape_eq => rfl
  case entity_eq => rfl
  case sql_eq =>
    have hwhere : " WHERE " = " " ++ "WHERE " := by decide +kernel
    rw [hwhere]
    simp only [ofCondition, selectText_eq, Verb.opener, String.append_assoc]

end Statement

/-- A name that can be read has enough connectors for a tree. -/
theorem Method.Follows.exists_foldsLeft {method : Method} {entity : Entity} {name : MethodName}
    {fields : List Field} (h : method.Follows entity name fields) :
    ∃ condition, Condition.FoldsLeft (fields.map (·.name)) name.connectors condition := by
  have hconnectors := (MethodName.parse_eq_some_iff.mp h.parse_eq).1.separated.length_eq
  have hcount : (fields.map (·.name)).length = name.connectors.length + 1 := by
    rw [List.length_map, ← h.found.length_eq, ← hconnectors, List.length_map]
  obtain ⟨condition, hcondition⟩ := Condition.exists_build? hcount
  exact ⟨condition, Condition.build?_eq_some_iff.mp hcondition⟩

theorem Repository.register_new {config : Config} {name : String} {repository : Repository}
    {method : Method} (hnew : repository.entries.lookup method.name = none) :
    (repository.register config name [method]).result =
      (method.resolve config name repository.entity).result.map (repository.insert method) := by
  simp only [register, hnew]
  cases (method.resolve config name repository.entity).result <;> rfl

namespace Registry

variable {registry : Registry} {repository : String} {entity : Entity} {method : Method}

theorem entity_getD
    (hentity : ∀ known, registry.entity? repository = some known → known = entity) :
    ((registry.repository? repository).getD { entity }).entity = entity := by
  cases hknown : registry.repository? repository with
  | none => rfl
  | some known => exact hentity known.entity (by rw [entity?, hknown, Option.map_some])

theorem lookup_getD (entity : Entity) (hnew : registry.method? ⟨repository, method.name⟩ = none) :
    ((registry.repository? repository).getD { entity }).entries.lookup method.name = none := by
  rw [← method?_fresh registry ⟨repository, method.name⟩ entity, Repository.method?,
    Option.map_eq_none_iff] at hnew
  exact hnew

/-- A method that is new in its repository is resolved, and goes in with its statement. -/
theorem register_new
    (hentity : ∀ known, registry.entity? repository = some known → known = entity)
    (hnew : registry.method? ⟨repository, method.name⟩ = none) :
    (registry.register repository entity [method]).result =
      (method.resolve registry.config repository entity).result.map fun statement =>
        registry.put repository
          (((registry.repository? repository).getD { entity }).insert method statement) := by
  simp only [register, if_pos (entity_getD hentity),
    Repository.register_new (lookup_getD entity hnew)]
  rw [entity_getD hentity]
  cases (method.resolve registry.config repository entity).result <;> rfl

theorem entry?_put_insert {held : Repository} (statement : Option Statement)
    (hnew : held.entries.lookup method.name = none) :
    Registry.entry? (registry.put repository (held.insert method statement))
      ⟨repository, method.name⟩ = some ⟨method, statement⟩ := by
  unfold entry?
  rw [repository?_put, if_pos rfl, Option.bind_some, Repository.insert, List.lookup_append, hnew,
    lookup_cons_eq, if_pos rfl]
  rfl

end Registry

theorem Method.resolve_derived {config : Config} {repository : String} {entity : Entity}
    {method : Method} (hkind : method.kind = .derived) :
    (method.resolve config repository entity).result =
      (Statement.derive config repository entity method).map some := by
  simp only [resolve, hkind, noteStatement]
  cases Statement.derive config repository entity method <;> rfl

/-- **Derived methods are registered by their signature.** A method that is derived from its name
and new in its repository is registered exactly if it follows the name over the entity. Its
statement then selects by the tree of the fields that the name gives; otherwise the fault is in its
signature. -/
theorem Registry.registers_derived_iff {registry : Registry} {repository : String}
    {entity : Entity} {method : Method} (hkind : method.kind = .derived)
    (hentity : ∀ known, registry.entity? repository = some known → known = entity)
    (hnew : registry.method? ⟨repository, method.name⟩ = none) :
    ((∃ next, (registry.register repository entity [method]).result = .ok next) ↔
        ∃ name fields, method.Follows entity name fields) ∧
      (∀ error, (registry.register repository entity [method]).result = .error error →
        ∃ fault, error = .signature ⟨repository, method.name⟩ fault) ∧
      ∀ next, (registry.register repository entity [method]).result = .ok next →
        ∃ name fields condition statement, method.Follows entity name fields ∧
          next.entry? ⟨repository, method.name⟩ = some ⟨method, some statement⟩ ∧
          statement.Selects registry.config entity method name fields condition := by
  rw [register_new hentity hnew, Method.resolve_derived hkind]
  cases hderive : Statement.derive registry.config repository entity method with
  | error error =>
      -- Without a statement the method cannot follow its name, since every name has a tree.
      refine ⟨⟨nofun, ?_⟩, ?_, nofun⟩
      · rintro ⟨name, fields, hfollows⟩
        obtain ⟨condition, hfold⟩ := hfollows.exists_foldsLeft
        have hok : Statement.derive registry.config repository entity method =
            .ok (.ofCondition registry.config entity method name.verb condition) :=
          Statement.derive_eq_ok_iff.mpr ⟨name, fields, condition, hfollows, hfold, rfl⟩
        rw [hok] at hderive
        cases hderive
      · rintro other hother
        obtain rfl : error = other := Except.error.inj hother
        cases Statement.unresolved_of_derive hkind hderive with
        | template fault htemplate => rw [hkind] at htemplate; cases htemplate
        | unresolvable hnone => rw [hkind] at hnone; cases hnone
        | name fault => exact ⟨_, rfl⟩
        | unknownField => exact ⟨_, rfl⟩
        | incomparable => exact ⟨_, rfl⟩
  | ok statement =>
      obtain ⟨name, fields, condition, hfollows, hfold, rfl⟩ :=
        Statement.derive_eq_ok_iff.mp hderive
      refine ⟨⟨fun _ => ⟨name, fields, hfollows⟩, fun _ => ⟨_, rfl⟩⟩, nofun, ?_⟩
      rintro next hnext
      obtain rfl := Except.ok.inj hnext
      exact ⟨name, fields, condition, _, hfollows, entry?_put_insert _ (lookup_getD entity hnew),
        Statement.selects_ofCondition hfollows hfold⟩

/-- Its name is spelled in mixed case, and an integer is compared with a float. -/
def Accounts.search : Method where
  name := "Get_All_By_OWNER_or_balance_and_id"
  params := [⟨"owner", .text, true⟩, ⟨"Balance", .int, false⟩, ⟨"ID", .int, false⟩]
  shape := .list

theorem Registry.registers_derived_iff_accounts :
    Accounts.search.kind = .derived ∧
      (∀ known, Accounts.registry.entity? "accounts" = some known → known = Accounts.entity) ∧
      Accounts.registry.method? ⟨"accounts", Accounts.search.name⟩ = none ∧
      ∃ next name fields condition statement,
        (Accounts.registry.register "accounts" Accounts.entity [Accounts.search]).result =
          .ok next ∧
        Accounts.search.Follows Accounts.entity name fields ∧
        next.entry? ⟨"accounts", Accounts.search.name⟩ =
          some ⟨Accounts.search, some statement⟩ ∧
        statement.Selects Accounts.registry.config Accounts.entity Accounts.search name fields
          condition := by
  have hkind : Accounts.search.kind = .derived := by decide +kernel
  have hknown : Accounts.registry.entity? "accounts" = some Accounts.entity := by decide +kernel
  have hentity : ∀ known, Accounts.registry.entity? "accounts" = some known →
      known = Accounts.entity := by
    intro known h
    exact Option.some.inj (h.symm.trans hknown)
  have hnew : Accounts.registry.method? ⟨"accounts", Accounts.search.name⟩ = none := by
    decide +kernel
  obtain ⟨-, -, hstored⟩ := Registry.registers_derived_iff hkind hentity hnew
  have hsome : (Accounts.registry.register "accounts" Accounts.entity
      [Accounts.search]).result.toOption.isSome = true := by decide +kernel
  cases hresult : (Accounts.registry.register "accounts" Accounts.entity
      [Accounts.search]).result with
  | error error => rw [hresult] at hsome; cases hsome
  | ok next =>
      obtain ⟨name, fields, condition, statement, hstatement⟩ := hstored next hresult
      exact ⟨hkind, hentity, hnew, next, name, fields, condition, statement, rfl, hstatement⟩

end QueryMethods
