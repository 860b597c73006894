import QueryMethods.Proofs.Registry.History

/-!
# What a registry holds

A repository of a registry is there because a registration named it, and a method because a
registration named both. Successful registrations put in all that they name and lose nothing, so
that the contents of a registry are those of its registrations, whatever their order.
-/

namespace QueryMethods

def Repository.method? (repository : Repository) (key : String) : Option Method :=
  (repository.entries.lookup key).map (·.method)

def Registry.entity? (registry : Registry) (name : String) : Option Entity :=
  (registry.repository? name).map (·.entity)

theorem Registry.method?_eq_bind (registry : Registry) (ref : MethodRef) :
    registry.method? ref = (registry.repository? ref.repository).bind (·.method? ref.method) :=
  Option.map_bind

theorem lookup_cons_eq {α : Type} (name key : String) (value : α) (entries : List (String × α)) :
    ((name, value) :: entries).lookup key =
      if key = name then some value else entries.lookup key := by
  by_cases hkey : key = name
  · simp [hkey]
  · have hne : (key == name) = false := beq_false_of_ne hkey
    simp [List.lookup_cons, hkey, hne]

theorem lookup_map_replace {α : Type} (name key : String) (value : α)
    (entries : List (String × α)) :
    (entries.map fun entry => if entry.1 == name then (name, value) else entry).lookup key =
      if key = name ∧ ∃ entry ∈ entries, entry.1 = name then some value
      else entries.lookup key := by
  simp only [beq_iff_eq]
  induction entries with
  | nil => simp
  | cons entry rest ih =>
      obtain ⟨other, old⟩ := entry
      rw [List.map_cons]
      by_cases hother : other = name
      · subst hother
        by_cases hkey : key = other
        · simp [hkey]
        · simpa [lookup_cons_eq, hkey] using ih
      · by_cases hkey : key = other
        · have hname : key ≠ name := fun h => hother (hkey.symm.trans h)
          simp [hkey, hother]
        · have hrest : (∃ entry ∈ (other, old) :: rest, entry.1 = name) ↔
              ∃ entry ∈ rest, entry.1 = name := by simp [hother]
          simp only [hrest]
          simpa [lookup_cons_eq, hother, hkey] using ih

theorem Registry.repository?_put (registry : Registry) (name key : String)
    (repository : Repository) :
    (registry.put name repository).repository? key =
      if key = name then some repository else registry.repository? key := by
  unfold put repository?
  split
  case isTrue hany =>
    have hexists : ∃ entry ∈ registry.repositories, entry.1 = name := by simpa using hany
    simp only [lookup_map_replace, hexists, and_true]
  case isFalse hany =>
    rw [List.lookup_append, lookup_cons_eq]
    by_cases hkey : key = name
    · have hnone : registry.repositories.lookup name = none := by
        rw [List.lookup_eq_none_iff]
        intro entry hmem
        exact bne_iff_ne.mpr fun h => hany (List.any_eq_true.mpr ⟨entry, hmem, by simp [h]⟩)
      simp [hkey, hnone]
    · simp [hkey]

theorem Repository.entity_register {config : Config} {name : String} {methods : List Method}
    {repository next : Repository}
    (h : (repository.register config name methods).result = .ok next) :
    next.entity = repository.entity := by
  induction methods generalizing repository with
  | nil => exact Except.ok.inj h ▸ rfl
  | cons method rest ih =>
      rcases register_cons_eq_ok h with ⟨_, _, _, hrest⟩ | ⟨_, statement, _, hrest⟩
      · exact ih hrest
      · have hinsert : next.entity = (repository.insert method statement).entity := ih hrest
        exact hinsert

theorem Repository.method?_insert {repository : Repository} {method other : Method}
    (statement : Option Statement) (key : String)
    (hnew : repository.entries.lookup method.name = none) :
    (repository.insert method statement).method? key = some other ↔
      repository.method? key = some other ∨ (other = method ∧ other.name = key) := by
  simp only [method?, insert, List.lookup_append, lookup_cons_eq]
  by_cases hkey : key = method.name
  · simp only [hkey, hnew, if_pos, Option.none_or, Option.map_some, Option.map_none,
      Option.some.injEq, reduceCtorEq, false_or]
    constructor
    · rintro rfl
      exact ⟨rfl, rfl⟩
    · rintro ⟨rfl, _⟩
      rfl
  · simp only [if_neg hkey, List.lookup_nil, Option.or_none, iff_self_or]
    rintro ⟨rfl, hname⟩
    exact absurd hname.symm hkey

theorem Repository.method?_register {config : Config} {name : String} {methods : List Method}
    {repository next : Repository}
    (h : (repository.register config name methods).result = .ok next) (key : String)
    (method : Method) :
    next.method? key = some method ↔
      repository.method? key = some method ∨ (method ∈ methods ∧ method.name = key) := by
  induction methods generalizing repository with
  | nil =>
      obtain rfl := Except.ok.inj h
      simp
  | cons first rest ih =>
      rcases register_cons_eq_ok h with
        ⟨entry, hlookup, hsame, hrest⟩ | ⟨hlookup, statement, _, hrest⟩
      · have hheld : repository.method? first.name = some first := by
          rw [method?, hlookup, Option.map_some, hsame]
        rw [ih hrest, List.mem_cons]
        constructor
        · rintro (hold | ⟨hmem, hkey⟩)
          · exact .inl hold
          · exact .inr ⟨.inr hmem, hkey⟩
        · rintro (hold | ⟨rfl | hmem, hkey⟩)
          · exact .inl hold
          · exact .inl (hkey ▸ hheld)
          · exact .inr ⟨hmem, hkey⟩
      · rw [ih hrest, method?_insert statement key hlookup, List.mem_cons, or_assoc,
          ← or_and_right]

theorem Registry.method?_fresh (registry : Registry) (ref : MethodRef) (entity : Entity) :
    ((registry.repository? ref.repository).getD { entity }).method? ref.method =
      registry.method? ref := by
  rw [method?_eq_bind]
  cases registry.repository? ref.repository <;> rfl

theorem Registry.entity?_register {registry next : Registry} {name : String} {entity : Entity}
    {methods : List Method} (h : (registry.register name entity methods).result = .ok next)
    (key : String) (other : Entity) :
    next.entity? key = some other ↔
      registry.entity? key = some other ∨ (name = key ∧ entity = other) := by
  obtain ⟨hentity, repository, hregister, rfl⟩ := register_eq_ok h
  rw [entity?, repository?_put]
  by_cases hkey : key = name
  · subst hkey
    have hafter : repository.entity = entity :=
      (Repository.entity_register hregister).trans hentity
    rw [if_pos rfl, Option.map_some, hafter, Option.some.injEq]
    constructor
    · exact fun heq => .inr ⟨rfl, heq⟩
    · rintro (hold | ⟨_, heq⟩)
      · obtain ⟨before, hbefore, hother⟩ := Option.map_eq_some_iff.mp hold
        rw [hbefore] at hentity
        exact hentity.symm.trans hother
      · exact heq
  · have hname : name ≠ key := Ne.symm hkey
    rw [if_neg hkey, ← entity?]
    simp [hname]

theorem Registry.method?_register {registry next : Registry} {name : String} {entity : Entity}
    {methods : List Method} (h : (registry.register name entity methods).result = .ok next)
    (ref : MethodRef) (method : Method) :
    next.method? ref = some method ↔
      registry.method? ref = some method ∨
        (name = ref.repository ∧ method ∈ methods ∧ method.name = ref.method) := by
  obtain ⟨-, repository, hregister, rfl⟩ := register_eq_ok h
  rw [method?_eq_bind, repository?_put]
  by_cases hkey : ref.repository = name
  · subst hkey
    rw [if_pos rfl, Option.bind_some, Repository.method?_register hregister,
      method?_fresh registry ref entity]
    simp
  · have hname : name ≠ ref.repository := Ne.symm hkey
    rw [if_neg hkey, ← method?_eq_bind]
    simp [hname]

/-- The registration hands in the method under this repository and name. -/
def Registration.Names (registration : Registration) (ref : MethodRef) (method : Method) : Prop :=
  registration.repository = ref.repository ∧ method ∈ registration.methods ∧
    method.name = ref.method

structure Registry.Holds (registry : Registry) (made : List Registration) : Prop where
  entity_iff : ∀ name entity, registry.entity? name = some entity ↔
    ∃ call ∈ made, call.repository = name ∧ call.entity = entity
  method_iff : ∀ ref method, registry.method? ref = some method ↔
    ∃ call ∈ made, call.Names ref method

theorem Registry.holds_ofConfig (config : Config) : (ofConfig config).Holds [] where
  entity_iff name entity := by simp [entity?, repository?, ofConfig]
  method_iff ref method := by simp [method?, entry?, repository?, ofConfig]

theorem Registry.Holds.register {registry next : Registry} {made : List Registration}
    {call : Registration} (hholds : registry.Holds made)
    (h : (registry.register call.repository call.entity call.methods).result = .ok next) :
    next.Holds (made ++ [call]) where
  entity_iff name entity := by
    rw [entity?_register h, hholds.entity_iff]
    simp only [List.mem_append, List.mem_singleton, or_and_right, exists_or, exists_eq_left]
  method_iff ref method := by
    rw [method?_register h, hholds.method_iff]
    simp only [List.mem_append, List.mem_singleton, or_and_right, exists_or, exists_eq_left,
      Registration.Names]

theorem Registry.Holds.registerAll {registry next : Registry} {made rest : List Registration}
    (hholds : registry.Holds made) (h : registry.registerAll rest = .ok next) :
    next.Holds (made ++ rest) := by
  induction rest generalizing registry made with
  | nil =>
      obtain rfl := Except.ok.inj h
      rwa [List.append_nil]
  | cons call rest ih =>
      simp only [Registry.registerAll] at h
      split at h
      · cases h
      case h_2 middle hmiddle =>
        rw [List.append_cons]
        exact ih (hholds.register hmiddle) h

end QueryMethods
