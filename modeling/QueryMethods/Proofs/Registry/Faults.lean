import QueryMethods.Proofs.Condition.Slots
import QueryMethods.Proofs.MethodName.Reading
import QueryMethods.Proofs.Registry.Contents
import QueryMethods.Proofs.Registry.Resolution

/-!
# Why a registration fails

A registration stops at its first method that does not fit. Under a name that is not in use, and
with each method under a name of its own, that is a method which does not resolve.
-/

namespace QueryMethods

namespace MethodName

/-- The method is derived from its name, which its parameters and its shape follow. -/
def Fits (method : Method) : Prop :=
  method.kind = .derived ∧ ∃ name, parse method.name = .ok (some name) ∧
    name.align (method.params.map (·.name)) method.shape = .ok ()

/-- The field that a parameter of a derived method is compared with. -/
def Compares (method : Method) (token : String) (param : Param) : Prop :=
  ∃ (name : MethodName) (place : Nat), parse method.name = .ok (some name) ∧
    name.fields[place]? = some token ∧ method.params[place]? = some param

end MethodName

/-- The ways in which a method does not resolve. -/
inductive Method.Unresolved (repository : String) (entity : Entity) (method : Method) :
    Error → Prop where
  /-- Its template cannot be bound. -/
  | template {sql : String} (fault : BindingFault) (hkind : method.kind = .template sql) :
      Unresolved repository entity method (.binding ⟨repository, method.name⟩ fault)
  /-- It has neither a template nor a name with a verb. -/
  | unresolvable (hkind : method.kind = .unresolvable) :
      Unresolved repository entity method (.unresolvable ⟨repository, method.name⟩)
  /-- Its name does not fit its signature. -/
  | name (fault : NameFault) (hkind : method.kind = .derived) (hunfit : ¬ MethodName.Fits method) :
      Unresolved repository entity method (.signature ⟨repository, method.name⟩ (.name fault))
  /-- One of its fields is no field of the entity. -/
  | unknownField {token : String} {param : Param} (hfits : MethodName.Fits method)
      (hcompares : MethodName.Compares method token param) (hnone : entity.field? token = none) :
      Unresolved repository entity method
        (.signature ⟨repository, method.name⟩ (.unknownField token entity.name))
  /-- One of its parameters is of a type that does not fit its field. -/
  | incomparable {token : String} {param : Param} {field : Field} (hfits : MethodName.Fits method)
      (hcompares : MethodName.Compares method token param)
      (hfield : entity.field? token = some field) (htype : param.type.fits field.type = false) :
      Unresolved repository entity method (.signature ⟨repository, method.name⟩
        (.incomparable param.name param.type field.name field.type))

theorem Statement.unresolved_of_derive {config : Config} {repository : String} {entity : Entity}
    {method : Method} {error : Error} (hkind : method.kind = .derived)
    (h : derive config repository entity method = .error error) :
    method.Unresolved repository entity error := by
  obtain ⟨-, -, hverb⟩ := Method.kind_eq_derived_iff.mp hkind
  unfold derive at h
  cases hparse : MethodName.parse method.name with
  | error fault =>
      simp only [hparse] at h
      obtain rfl := Except.error.inj h
      exact .name fault hkind (by rintro ⟨-, name, hname, -⟩; rw [hname] at hparse; cases hparse)
  | ok parsed =>
      cases parsed with
      | none =>
          rw [MethodName.hasVerb, MethodName.parse_eq_none_iff.mp hparse] at hverb
          cases hverb
      | some name =>
          simp only [hparse] at h
          cases halign : name.align (method.params.map (·.name)) method.shape with
          | error fault =>
              simp only [halign] at h
              obtain rfl := Except.error.inj h
              refine .name fault hkind ?_
              rintro ⟨-, other, hother, halign'⟩
              obtain rfl : name = other := by simpa [hparse] using hother
              rw [halign] at halign'
              cases halign'
          | ok aligned =>
              simp only [halign] at h
              cases hcondition : conditionOf name entity method with
              | ok condition => simp only [hcondition] at h; cases h
              | error fault =>
                  simp only [hcondition] at h
                  obtain rfl := Except.error.inj h
                  have hfits : MethodName.Fits method := ⟨hkind, name, hparse, halign⟩
                  have hparams := MethodName.length_eq_of_align halign
                  have hconnectors := (MethodName.parse_eq_some_iff.mp hparse).1.separated.length_eq
                  rw [List.length_map] at hparams hconnectors
                  obtain ⟨place, token, param, htoken, hparam, hcompared⟩ :=
                    conditionOf_eq_error hparams hconnectors hcondition
                  have hcompares : MethodName.Compares method token param :=
                    ⟨name, place, hparse, htoken, hparam⟩
                  rcases comparedField_eq_error hcompared with
                    ⟨hnone, rfl⟩ | ⟨field, hfield, htype, rfl⟩
                  · exact .unknownField hfits hcompares hnone
                  · exact .incomparable hfits hcompares hfield htype

theorem Method.unresolved_of_resolve {config : Config} {repository : String} {entity : Entity}
    {method : Method} {error : Error}
    (h : (method.resolve config repository entity).result = .error error) :
    method.Unresolved repository entity error := by
  unfold resolve at h
  cases hkind : method.kind with
  | skipped => simp only [hkind] at h; cases h
  | template sql =>
      simp only [hkind] at h
      obtain ⟨fault, rfl⟩ := Statement.ofTemplate_eq_error (noteStatement_eq_error h)
      exact .template fault hkind
  | derived =>
      simp only [hkind] at h
      exact Statement.unresolved_of_derive hkind (noteStatement_eq_error h)
  | unresolvable =>
      simp only [hkind] at h
      obtain rfl := Except.error.inj h
      exact .unresolvable hkind

/-- Up to the first method that fails everything went in; it fails because another method of its
name did, or because it does not resolve. -/
theorem Repository.register_eq_error {config : Config} {name : String} {methods : List Method}
    {repository : Repository} {error : Error}
    (h : (repository.register config name methods).result = .error error) :
    ∃ before method after next, methods = before ++ method :: after ∧
      (repository.register config name before).result = .ok next ∧
      ((∃ other, next.method? method.name = some other ∧ other ≠ method) ∨
        (method.resolve config name repository.entity).result = .error error) := by
  induction methods generalizing repository with
  | nil => cases h
  | cons method rest ih =>
      simp only [register] at h
      cases hlookup : repository.entries.lookup method.name with
      | some entry =>
          simp only [hlookup] at h
          by_cases hsame : entry.method = method
          · rw [if_pos hsame] at h
            obtain ⟨before, failed, after, next, rfl, hbefore, hfails⟩ := ih h
            refine ⟨method :: before, failed, after, next, rfl, ?_, hfails⟩
            simpa only [register, hlookup, if_pos hsame] using hbefore
          · refine ⟨[], method, rest, repository, rfl, rfl, .inl ⟨entry.method, ?_, hsame⟩⟩
            rw [method?, hlookup, Option.map_some]
      | none =>
          simp only [hlookup] at h
          cases hresolve : (method.resolve config name repository.entity).result with
          | error found =>
              simp only [hresolve] at h
              obtain rfl : found = error := Except.error.inj h
              exact ⟨[], method, rest, repository, rfl, rfl, .inr hresolve⟩
          | ok statement =>
              simp only [hresolve] at h
              obtain ⟨before, failed, after, next, rfl, hbefore, hfails⟩ := ih h
              refine ⟨method :: before, failed, after, next, rfl, ?_, hfails⟩
              simpa only [register, hlookup, hresolve] using hbefore

/-- Under a new name, methods with names of their own fail only by themselves. -/
theorem Registry.unresolved_of_register {registry : Registry} {name : String} {entity : Entity}
    {methods : List Method} {error : Error} (hnew : registry.repository? name = none)
    (hdistinct : (methods.map (·.name)).Nodup)
    (h : (registry.register name entity methods).result = .error error) :
    ∃ method ∈ methods, method.Unresolved name entity error := by
  simp only [register, hnew, Option.getD_none, if_pos] at h
  cases hresult : (Repository.register registry.config name { entity } methods).result with
  | ok repository => rw [hresult] at h; cases h
  | error found =>
      rw [hresult] at h
      obtain rfl : found = error := Except.error.inj h
      obtain ⟨before, method, after, next, rfl, hbefore, hfails⟩ :=
        Repository.register_eq_error hresult
      refine ⟨method, List.mem_append_right _ (List.mem_cons_self ..), ?_⟩
      rcases hfails with ⟨other, hother, -⟩ | hresolve
      · rcases (Repository.method?_register hbefore _ _).mp hother with hheld | ⟨hmem, hname⟩
        · cases hheld
        · rw [List.map_append, List.map_cons, List.nodup_append] at hdistinct
          have hne := hdistinct.2.2 _ (List.mem_map_of_mem hmem) _ (List.mem_cons_self ..)
          exact absurd hname hne
      · exact Method.unresolved_of_resolve hresolve

end QueryMethods
