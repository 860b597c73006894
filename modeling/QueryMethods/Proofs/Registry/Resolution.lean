import QueryMethods.Registry.Resolution
import QueryMethods.Proofs.MethodName.Alignment

/-!
# What a method resolves to

Resolution succeeds in three ways, one for each kind of method that can be called or skipped. The
lemmas below invert it, so that nothing else has to unfold it.
-/

namespace QueryMethods

theorem Method.noteStatement_eq_ok {ref : MethodRef} {resolved : Logged (Except Error Statement)}
    {statement : Option Statement} (h : (noteStatement ref resolved).result = .ok statement) :
    ∃ found, resolved.result = .ok found ∧ statement = some found := by
  unfold noteStatement at h
  split at h
  · cases h
  case h_2 found hfound => exact ⟨found, hfound, (Except.ok.inj h).symm⟩

theorem Method.noteStatement_eq_error {ref : MethodRef}
    {resolved : Logged (Except Error Statement)} {error : Error}
    (h : (noteStatement ref resolved).result = .error error) : resolved.result = .error error := by
  unfold noteStatement at h
  split at h
  case h_1 found hfound => exact hfound.trans (congrArg Except.error (Except.error.inj h))
  case h_2 => cases h

/-- The three ways to resolve a method. -/
theorem Method.resolve_eq_ok {config : Config} {repository : String} {entity : Entity}
    {method : Method} {statement : Option Statement}
    (h : (method.resolve config repository entity).result = .ok statement) :
    (method.kind = .skipped ∧ statement = none) ∨
    (∃ sql found, method.kind = .template sql ∧ statement = some found ∧
      (Statement.ofTemplate config repository entity method sql).result = .ok found) ∨
    (∃ found, method.kind = .derived ∧ statement = some found ∧
      Statement.derive config repository entity method = .ok found) := by
  unfold resolve at h
  cases hkind : method.kind with
  | skipped =>
      simp only [hkind] at h
      exact .inl ⟨rfl, (Except.ok.inj h).symm⟩
  | template sql =>
      simp only [hkind] at h
      obtain ⟨found, hfound, hstatement⟩ := noteStatement_eq_ok h
      exact .inr (.inl ⟨sql, found, rfl, hstatement, hfound⟩)
  | derived =>
      simp only [hkind] at h
      obtain ⟨found, hfound, hstatement⟩ := noteStatement_eq_ok h
      exact .inr (.inr ⟨found, rfl, hstatement, hfound⟩)
  | unresolvable =>
      simp only [hkind] at h
      cases h

theorem Method.kind_eq_skipped_iff {method : Method} :
    method.kind = .skipped ↔ method.skip = true := by
  unfold kind
  cases method.skip with
  | true => simp
  | false =>
      cases method.template with
      | some sql => simp
      | none => cases hverb : MethodName.hasVerb method.name <;> simp

theorem Method.template_of_kind_eq_template {method : Method} {sql : String}
    (h : method.kind = .template sql) : method.template = some sql := by
  unfold kind at h
  cases hskip : method.skip with
  | true => simp [hskip] at h
  | false =>
      cases htemplate : method.template with
      | some found => simpa [hskip, htemplate] using h
      | none => cases hverb : MethodName.hasVerb method.name <;> simp [hskip, htemplate, hverb] at h

theorem Method.kind_eq_derived_iff {method : Method} :
    method.kind = .derived ↔
      method.skip = false ∧ method.template = none ∧ MethodName.hasVerb method.name = true := by
  unfold kind
  cases method.skip with
  | true => simp
  | false =>
      cases method.template with
      | some sql => simp
      | none => cases hverb : MethodName.hasVerb method.name <;> simp

theorem Method.template_of_kind_eq_derived {method : Method} (h : method.kind = .derived) :
    method.template = none :=
  (kind_eq_derived_iff.mp h).2.1

namespace Statement

/-- The statement that a bound template gives its method. -/
def ofBound (entity : Entity) (method : Method) (bound : BoundTemplate) : Statement where
  entity
  source := .template bound
  sql := bound.sql
  binds := bound.binds
  shape := method.shape
  returnsRows := bound.returnsRows
  policy := .ofModifying method.modifying

/-- The statement that selects by a condition. -/
def ofCondition (config : Config) (entity : Entity) (method : Method) (verb : Verb)
    (condition : Condition) : Statement where
  entity
  source := .derived condition
  sql := selectText verb entity (entity.qualifiedTable config.defaultSchema)
    (condition.render config.dialect []).sql
  binds := (condition.render config.dialect []).binds
  shape := method.shape
  returnsRows := true
  policy := .discard

theorem ofTemplate_eq_ok {config : Config} {repository : String} {entity : Entity}
    {method : Method} {sql : String} {statement : Statement}
    (h : (ofTemplate config repository entity method sql).result = .ok statement) :
    ∃ bound, BoundTemplate.ofTemplate sql method.params entity config.dialect = .ok bound ∧
      (bound.returnsRows = false → method.shape = .scalar) ∧
      statement = .ofBound entity method bound := by
  unfold ofTemplate at h
  cases hbound : BoundTemplate.ofTemplate sql method.params entity config.dialect with
  | error fault =>
      simp only [hbound] at h
      cases h
  | ok bound =>
      simp only [hbound] at h
      split at h
      · cases h
      · split at h
        · cases h
        case isFalse hrows =>
          refine ⟨bound, rfl, fun hnone => ?_, (Except.ok.inj h).symm⟩
          by_cases hshape : method.shape = .scalar
          · exact hshape
          · exact absurd ⟨hnone, hshape⟩ hrows

/-- A template fails by itself: nothing about it is left to the name of its method. -/
theorem ofTemplate_eq_error {config : Config} {repository : String} {entity : Entity}
    {method : Method} {sql : String} {error : Error}
    (h : (ofTemplate config repository entity method sql).result = .error error) :
    ∃ fault, error = .binding ⟨repository, method.name⟩ fault := by
  unfold ofTemplate at h
  cases hbound : BoundTemplate.ofTemplate sql method.params entity config.dialect with
  | error fault =>
      simp only [hbound] at h
      exact ⟨.template fault, (Except.error.inj h).symm⟩
  | ok bound =>
      simp only [hbound] at h
      split at h
      · exact ⟨.unused bound.unused, (Except.error.inj h).symm⟩
      · split at h
        · exact ⟨.rowless method.shape, (Except.error.inj h).symm⟩
        · cases h

theorem derive_eq_ok {config : Config} {repository : String} {entity : Entity}
    {method : Method} {statement : Statement}
    (h : derive config repository entity method = .ok statement) :
    ∃ name condition, MethodName.parse method.name = .ok (some name) ∧
      name.align (method.params.map (·.name)) method.shape = .ok () ∧
      conditionOf name entity method = .ok condition ∧
      statement = .ofCondition config entity method name.verb condition := by
  unfold derive at h
  cases hparse : MethodName.parse method.name with
  | error fault => simp only [hparse] at h; cases h
  | ok parsed =>
      cases parsed with
      | none => simp only [hparse] at h; cases h
      | some name =>
          simp only [hparse] at h
          cases halign : name.align (method.params.map (·.name)) method.shape with
          | error fault => simp only [halign] at h; cases h
          | ok aligned =>
              simp only [halign] at h
              cases hcondition : conditionOf name entity method with
              | error fault => simp only [hcondition] at h; cases h
              | ok condition =>
                  simp only [hcondition] at h
                  exact ⟨name, condition, rfl, halign, hcondition, (Except.ok.inj h).symm⟩

end Statement

theorem MethodName.length_eq_of_align {name : MethodName} {params : List String} {shape : Shape}
    (h : name.align params shape = .ok ()) : name.fields.length = params.length :=
  (align_eq_ok_iff.mp h).1.length_eq

end QueryMethods
