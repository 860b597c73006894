import QueryMethods.Registry.Basic
import QueryMethods.Proofs.Checked

/-!
# Registries that come from registrations

A registry is built by registrations alone. Whatever their order, each entry stands under the name
of its method and holds the statement that the method resolves to on its own; everything that is
said about registered methods is read off this.
-/

namespace QueryMethods

structure Registration where
  repository : String
  entity : Entity
  methods : List Method
deriving DecidableEq

namespace Registry

def registerAll (registry : Registry) : List Registration → Except Error Registry
  | [] => .ok registry
  | ⟨repository, entity, methods⟩ :: rest =>
      match (registry.register repository entity methods).result with
      | .error error => .error error
      | .ok next => next.registerAll rest

/-- The registry is what successful registrations make of an empty one. -/
def Reachable (registry : Registry) : Prop :=
  ∃ registrations, (ofConfig registry.config).registerAll registrations = .ok registry

end Registry

/-- The entry stands under the name of its method and holds what the method resolves to. -/
structure Entry.Resolved (config : Config) (repository : String) (entity : Entity) (key : String)
    (entry : Entry) : Prop where
  name_eq : entry.method.name = key
  resolve_eq : (entry.method.resolve config repository entity).result = .ok entry.statement

def Repository.Resolved (config : Config) (name : String) (repository : Repository) : Prop :=
  ∀ key entry, (key, entry) ∈ repository.entries →
    entry.Resolved config name repository.entity key

def Registry.Resolved (registry : Registry) : Prop :=
  ∀ name repository, (name, repository) ∈ registry.repositories →
    repository.Resolved registry.config name

theorem mem_of_lookup_eq_some {α β : Type} [BEq α] [LawfulBEq α] {entries : List (α × β)}
    {key : α} {value : β} (h : entries.lookup key = some value) : (key, value) ∈ entries := by
  obtain ⟨before, after, heq, _⟩ := List.lookup_eq_some_iff.mp h
  rw [heq]
  exact List.mem_append_right before (List.mem_cons_self ..)

def Repository.insert (repository : Repository) (method : Method) (statement : Option Statement) :
    Repository :=
  { repository with entries := repository.entries ++ [(method.name, ⟨method, statement⟩)] }

/-- A method that comes again changes nothing, and any other goes in with its statement. -/
theorem Repository.register_cons_eq_ok {config : Config} {name : String} {method : Method}
    {rest : List Method} {repository next : Repository}
    (h : (repository.register config name (method :: rest)).result = .ok next) :
    (∃ entry, repository.entries.lookup method.name = some entry ∧ entry.method = method ∧
        (repository.register config name rest).result = .ok next) ∨
      (repository.entries.lookup method.name = none ∧ ∃ statement,
        (method.resolve config name repository.entity).result = .ok statement ∧
          ((repository.insert method statement).register config name rest).result = .ok next) := by
  simp only [register] at h
  cases hlookup : repository.entries.lookup method.name with
  | some entry =>
      simp only [hlookup] at h
      by_cases hsame : entry.method = method
      · rw [if_pos hsame] at h
        exact .inl ⟨entry, rfl, hsame, h⟩
      · rw [if_neg hsame] at h
        cases h
  | none =>
      simp only [hlookup] at h
      cases hresolve : (method.resolve config name repository.entity).result with
      | error error =>
          simp only [hresolve] at h
          cases h
      | ok statement =>
          simp only [hresolve] at h
          exact .inr ⟨rfl, statement, rfl, h⟩

theorem Repository.resolved_register {config : Config} {name : String} {methods : List Method}
    {repository next : Repository} (hresolved : repository.Resolved config name)
    (h : (repository.register config name methods).result = .ok next) :
    next.Resolved config name := by
  induction methods generalizing repository with
  | nil =>
      have heq : repository = next := Except.ok.inj h
      exact heq ▸ hresolved
  | cons method rest ih =>
      rcases register_cons_eq_ok h with ⟨_, _, _, hrest⟩ | ⟨_, statement, hresolve, hrest⟩
      · exact ih hresolved hrest
      · have hinsert : (repository.insert method statement).Resolved config name := by
          intro key entry hmem
          rcases List.mem_append.mp hmem with hold | hnew
          · exact hresolved key entry hold
          · obtain ⟨rfl, rfl⟩ := Prod.mk.inj (List.mem_singleton.mp hnew)
            exact ⟨rfl, hresolve⟩
        exact ih hinsert hrest

theorem Registry.mem_put {registry : Registry} {name key : String}
    {repository other : Repository}
    (h : (key, other) ∈ (registry.put name repository).repositories) :
    (key = name ∧ other = repository) ∨ (key, other) ∈ registry.repositories := by
  simp only [put] at h
  split at h
  · obtain ⟨entry, hmem, heq⟩ := List.mem_map.mp h
    by_cases hname : entry.1 == name
    · rw [if_pos hname] at heq
      obtain ⟨rfl, rfl⟩ := Prod.mk.inj heq
      exact .inl ⟨rfl, rfl⟩
    · rw [if_neg hname] at heq
      exact .inr (heq ▸ hmem)
  · rcases List.mem_append.mp h with hold | hnew
    · exact .inr hold
    · obtain ⟨rfl, rfl⟩ := Prod.mk.inj (List.mem_singleton.mp hnew)
      exact .inl ⟨rfl, rfl⟩

theorem Registry.register_eq_ok {registry next : Registry} {name : String} {entity : Entity}
    {methods : List Method} (h : (registry.register name entity methods).result = .ok next) :
    ((registry.repository? name).getD { entity }).entity = entity ∧
      ∃ repository, (((registry.repository? name).getD { entity }).register
          registry.config name methods).result = .ok repository ∧
        registry.put name repository = next := by
  simp only [register] at h
  split at h
  case isFalse => cases h
  case isTrue hentity =>
    refine ⟨hentity, ?_⟩
    cases hresult : (((registry.repository? name).getD { entity }).register
        registry.config name methods).result with
    | error error => rw [hresult] at h; cases h
    | ok repository => rw [hresult] at h; exact ⟨repository, rfl, Except.ok.inj h⟩

theorem Registry.config_register {registry next : Registry} {name : String} {entity : Entity}
    {methods : List Method} (h : (registry.register name entity methods).result = .ok next) :
    next.config = registry.config := by
  obtain ⟨-, repository, -, heq⟩ := register_eq_ok h
  rw [← heq]
  rfl

theorem Registry.resolved_register {registry next : Registry} {name : String} {entity : Entity}
    {methods : List Method} (hresolved : registry.Resolved)
    (h : (registry.register name entity methods).result = .ok next) : next.Resolved := by
  obtain ⟨-, repository, hregister, heq⟩ := register_eq_ok h
  have hbefore : ((registry.repository? name).getD { entity }).Resolved registry.config name := by
    cases hlookup : registry.repository? name with
    | none => exact fun _ _ hmem => absurd hmem List.not_mem_nil
    | some repository => exact hresolved name repository (mem_of_lookup_eq_some hlookup)
  have hafter := Repository.resolved_register hbefore hregister
  intro key other hmem
  rw [← heq] at hmem
  rw [config_register h]
  rcases Registry.mem_put hmem with ⟨rfl, rfl⟩ | hold
  · exact hafter
  · exact hresolved key other hold

theorem Registry.resolved_registerAll {registrations : List Registration}
    {registry next : Registry} (hresolved : registry.Resolved)
    (h : registry.registerAll registrations = .ok next) : next.Resolved := by
  induction registrations generalizing registry with
  | nil => exact Except.ok.inj h ▸ hresolved
  | cons registration rest ih =>
      simp only [registerAll] at h
      split at h
      · cases h
      case h_2 middle hmiddle =>
        exact ih (Registry.resolved_register hresolved hmiddle) h

theorem Registry.config_registerAll {registrations : List Registration}
    {registry next : Registry} (h : registry.registerAll registrations = .ok next) :
    next.config = registry.config := by
  induction registrations generalizing registry with
  | nil => exact Except.ok.inj h ▸ rfl
  | cons registration rest ih =>
      simp only [registerAll] at h
      split at h
      · cases h
      case h_2 middle hmiddle => exact (ih h).trans (Registry.config_register hmiddle)

theorem Registry.reachable_of_registerAll {config : Config} {registrations : List Registration}
    {registry : Registry} (h : (ofConfig config).registerAll registrations = .ok registry) :
    registry.Reachable :=
  ⟨registrations, by rw [Registry.config_registerAll h]; exact h⟩

theorem Registry.Reachable.resolved {registry : Registry} (h : registry.Reachable) :
    registry.Resolved := by
  obtain ⟨registrations, hregister⟩ := h
  exact Registry.resolved_registerAll (fun _ _ hmem => absurd hmem List.not_mem_nil) hregister

/-- Every entry that a lookup finds is resolved against the entity of its repository. -/
theorem Registry.Reachable.resolved_entry {registry : Registry} (hreach : registry.Reachable)
    {ref : MethodRef} {entry : Entry} (h : registry.entry? ref = some entry) :
    ∃ repository, registry.repository? ref.repository = some repository ∧
      entry.Resolved registry.config ref.repository repository.entity ref.method := by
  obtain ⟨repository, hrepository, hentry⟩ := Option.bind_eq_some_iff.mp h
  exact ⟨repository, hrepository,
    hreach.resolved ref.repository repository (mem_of_lookup_eq_some hrepository)
      ref.method entry (mem_of_lookup_eq_some hentry)⟩

namespace Accounts

def entity : Entity where
  name := "Account"
  table := "accounts"
  schema := none
  fields := [⟨"id", .int, false⟩, ⟨"owner", .text, true⟩, ⟨"balance", .float, false⟩]

def find : Method where
  name := "find_by_owner_or_id"
  params := [⟨"owner", .text, true⟩, ⟨"id", .int, false⟩]

def deposit : Method where
  name := "deposit"
  params := [⟨"amount", .float, false⟩, ⟨"id", .int, false⟩]
  shape := .scalar
  template := some
    "UPDATE accounts SET balance = balance + \x7bamount\x7d WHERE id = \x7bid\x7d OR \x7bamount\x7d = 0"
  modifying := true

def registration : Registration where
  repository := "accounts"
  entity := entity
  methods := [find, deposit]

def registry : Registry :=
  (((Registry.ofConfig {}).registerAll [registration]).toOption).getD (.ofConfig {})

theorem reachable_registry : registry.Reachable :=
  ⟨[registration], by decide +kernel⟩

def repository : Repository :=
  (registry.repository? "accounts").getD { entity }

theorem registered :
    registry.repository? "accounts" = some repository ∧ repository.entity = entity ∧
      registry.method? ⟨"accounts", "find_by_owner_or_id"⟩ = some find ∧
      registry.method? ⟨"accounts", "deposit"⟩ = some deposit := by
  decide +kernel

end Accounts

end QueryMethods
