import QueryMethods.Proofs.Registry.Contents

/-!
# Registrations in any order

Whether a sequence of registrations succeeds, and what the registry holds after it, does not
depend on the order of the calls or of the methods inside a call, nor on how often a call is made.
-/

namespace QueryMethods

/-- The same calls in another order, with the methods of a call in another order, or with a call
made once more. -/
inductive Rearranged : List Registration → List Registration → Prop where
  | calls {made others : List Registration} (h : made.Perm others) : Rearranged made others
  | methods {methods others : List Method} (before after : List Registration)
      (repository : String) (entity : Entity) (h : methods.Perm others) :
      Rearranged (before ++ ⟨repository, entity, methods⟩ :: after)
        (before ++ ⟨repository, entity, others⟩ :: after)
  | again {made : List Registration} {call : Registration} (h : call ∈ made) :
      Rearranged made (made ++ [call])
  | trans {made middle others : List Registration} (left : Rearranged made middle)
      (right : Rearranged middle others) : Rearranged made others

/-- No two calls contradict each other, and each method has a statement of its own. -/
structure Consistent (config : Config) (made : List Registration) : Prop where
  entity_eq : ∀ first ∈ made, ∀ second ∈ made,
    first.repository = second.repository → first.entity = second.entity
  method_eq : ∀ first ∈ made, ∀ second ∈ made, first.repository = second.repository →
    ∀ method ∈ first.methods, ∀ other ∈ second.methods, method.name = other.name →
      method = other
  resolves : ∀ call ∈ made, ∀ method ∈ call.methods, ∃ statement,
    (method.resolve config call.repository call.entity).result = .ok statement

/-- Both know the same repositories, with the same method and statement under each name. -/
structure Registry.SameAnswers (registry other : Registry) : Prop where
  entity_eq : ∀ name, registry.entity? name = other.entity? name
  method_eq : ∀ ref, registry.method? ref = other.method? ref
  statement_eq : ∀ ref, registry.statement? ref = other.statement? ref

theorem Consistent.of_subset {config : Config} {made others : List Registration}
    (h : Consistent config made) (hsubset : others ⊆ made) : Consistent config others where
  entity_eq first hfirst second hsecond :=
    h.entity_eq first (hsubset hfirst) second (hsubset hsecond)
  method_eq first hfirst second hsecond :=
    h.method_eq first (hsubset hfirst) second (hsubset hsecond)
  resolves call hcall := h.resolves call (hsubset hcall)

theorem Repository.exists_register {config : Config} {name : String} {methods : List Method}
    {repository : Repository}
    (hresolves : ∀ method ∈ methods, ∃ statement,
      (method.resolve config name repository.entity).result = .ok statement)
    (hheld : ∀ method ∈ methods, ∀ other,
      repository.method? method.name = some other → other = method)
    (hsame : ∀ method ∈ methods, ∀ other ∈ methods, method.name = other.name → method = other) :
    ∃ next, (repository.register config name methods).result = .ok next := by
  induction methods generalizing repository with
  | nil => exact ⟨repository, rfl⟩
  | cons method rest ih =>
      have hmethod : method ∈ method :: rest := List.mem_cons_self ..
      have hrest : ∀ other ∈ rest, other ∈ method :: rest := fun _ h => List.mem_cons_of_mem _ h
      have hresolvesRest : ∀ other ∈ rest, ∃ statement,
          (other.resolve config name repository.entity).result = .ok statement :=
        fun other h => hresolves other (hrest other h)
      have hsameRest : ∀ first ∈ rest, ∀ second ∈ rest, first.name = second.name →
          first = second :=
        fun first hfirst second hsecond => hsame first (hrest first hfirst) second
          (hrest second hsecond)
      simp only [register]
      cases hlookup : repository.entries.lookup method.name with
      | some entry =>
          have hentry : entry.method = method :=
            hheld method hmethod entry.method (by rw [method?, hlookup, Option.map_some])
          simp only [if_pos hentry]
          exact ih hresolvesRest (fun other h => hheld other (hrest other h)) hsameRest
      | none =>
          obtain ⟨statement, hresolve⟩ := hresolves method hmethod
          simp only [hresolve]
          -- what the rest finds stored is old, or the method that has just gone in
          have hinsert : ∀ other ∈ rest, ∀ held,
              (repository.insert method statement).method? other.name = some held →
                held = other := by
            intro other hother held hlater
            rcases (method?_insert statement other.name hlookup).mp hlater with hold | ⟨rfl, hname⟩
            · exact hheld other (hrest other hother) held hold
            · exact hsame held hmethod other (hrest other hother) hname
          have hlater : ∃ next,
              ((repository.insert method statement).register config name rest).result = .ok next :=
            ih hresolvesRest hinsert hsameRest
          exact hlater

theorem Registry.Holds.exists_register {registry : Registry} {made : List Registration}
    {call : Registration} (hholds : registry.Holds made)
    (h : Consistent registry.config (made ++ [call])) :
    ∃ next, (registry.register call.repository call.entity call.methods).result = .ok next := by
  have hcall : call ∈ made ++ [call] := List.mem_append_right made (List.mem_singleton_self call)
  have hmade : ∀ other ∈ made, other ∈ made ++ [call] := fun _ hmem => List.mem_append_left _ hmem
  have hentity :
      ((registry.repository? call.repository).getD { entity := call.entity }).entity =
        call.entity := by
    cases hlookup : registry.repository? call.repository with
    | none => rfl
    | some repository =>
        have hknown : registry.entity? call.repository = some repository.entity := by
          rw [entity?, hlookup, Option.map_some]
        obtain ⟨first, hfirst, hname, hsame⟩ := (hholds.entity_iff _ _).mp hknown
        calc repository.entity = first.entity := hsame.symm
          _ = call.entity := h.entity_eq first (hmade first hfirst) call hcall hname
  have hresolves : ∀ method ∈ call.methods, ∃ statement,
      (method.resolve registry.config call.repository
        ((registry.repository? call.repository).getD { entity := call.entity }).entity).result =
          .ok statement := by
    rw [hentity]
    exact h.resolves call hcall
  have hheld : ∀ method ∈ call.methods, ∀ other,
      ((registry.repository? call.repository).getD { entity := call.entity }).method?
        method.name = some other → other = method := by
    intro method hmethod other hother
    rw [Registry.method?_fresh registry ⟨call.repository, method.name⟩] at hother
    obtain ⟨first, hfirst, hname, hmem, hkey⟩ := (hholds.method_iff _ _).mp hother
    exact h.method_eq first (hmade first hfirst) call hcall hname other hmem method hmethod hkey
  obtain ⟨repository, hregister⟩ :=
    Repository.exists_register hresolves hheld (h.method_eq call hcall call hcall rfl)
  refine ⟨registry.put call.repository repository, ?_⟩
  simp only [Registry.register, if_pos hentity, hregister]
  rfl

theorem Registry.Holds.exists_registerAll {registry : Registry} {made rest : List Registration}
    (hholds : registry.Holds made) (h : Consistent registry.config (made ++ rest)) :
    ∃ next, registry.registerAll rest = .ok next := by
  -- on the calls still to come: each one that succeeds joins those that the registry holds
  induction rest generalizing registry made with
  | nil => exact ⟨registry, rfl⟩
  | cons call rest ih =>
      rw [List.append_cons] at h
      obtain ⟨middle, hmiddle⟩ :=
        hholds.exists_register (h.of_subset (List.subset_append_left (made ++ [call]) rest))
      have hlater := hholds.register hmiddle
      rw [← config_register hmiddle] at h
      obtain ⟨next, hnext⟩ := ih hlater h
      refine ⟨next, ?_⟩
      simp only [Registry.registerAll, hmiddle]
      exact hnext

theorem Registry.Reachable.consistent {registry : Registry} {made : List Registration}
    (hreach : registry.Reachable) (hholds : registry.Holds made) :
    Consistent registry.config made := by
  have hentity : ∀ call ∈ made, registry.entity? call.repository = some call.entity :=
    fun call hcall => (hholds.entity_iff _ _).mpr ⟨call, hcall, rfl, rfl⟩
  have hmethod : ∀ call ∈ made, ∀ method ∈ call.methods,
      registry.method? ⟨call.repository, method.name⟩ = some method :=
    fun call hcall method hmem => (hholds.method_iff _ _).mpr ⟨call, hcall, rfl, hmem, rfl⟩
  refine ⟨?_, ?_, ?_⟩
  · intro first hfirst second hsecond hname
    have hheld := hentity first hfirst
    rw [hname, hentity second hsecond] at hheld
    exact (Option.some.inj hheld).symm
  · intro first hfirst second hsecond hname method hmem other hother hkey
    have hheld := hmethod first hfirst method hmem
    rw [hname, hkey, hmethod second hsecond other hother] at hheld
    exact (Option.some.inj hheld).symm
  · intro call hcall method hmem
    obtain ⟨entry, hentry, hheld⟩ := Option.map_eq_some_iff.mp (hmethod call hcall method hmem)
    obtain ⟨repository, hrepository, hresolved⟩ := hreach.resolved_entry hentry
    have hsame : repository.entity = call.entity := by
      have hknown := hentity call hcall
      rw [entity?, hrepository, Option.map_some] at hknown
      exact Option.some.inj hknown
    have hresolve := hresolved.resolve_eq
    rw [hheld, hsame] at hresolve
    exact ⟨entry.statement, hresolve⟩

theorem Registry.exists_registerAll_iff (config : Config) (made : List Registration) :
    (∃ registry, (ofConfig config).registerAll made = .ok registry) ↔ Consistent config made := by
  constructor
  · rintro ⟨registry, h⟩
    have hconsistent :=
      (reachable_of_registerAll h).consistent ((holds_ofConfig config).registerAll h)
    rw [config_registerAll h] at hconsistent
    exact hconsistent
  · exact fun h => (holds_ofConfig config).exists_registerAll h

/-- Both hand in the same methods, in whatever order. -/
structure Registration.SameAs (call other : Registration) : Prop where
  repository_eq : call.repository = other.repository
  entity_eq : call.entity = other.entity
  methods_perm : call.methods.Perm other.methods

namespace Registration.SameAs

theorem refl (call : Registration) : call.SameAs call :=
  ⟨rfl, rfl, .refl _⟩

theorem trans {call middle other : Registration} (left : call.SameAs middle)
    (right : middle.SameAs other) : call.SameAs other :=
  ⟨left.repository_eq.trans right.repository_eq, left.entity_eq.trans right.entity_eq,
    left.methods_perm.trans right.methods_perm⟩

end Registration.SameAs

/-- Each of the calls has its like among the others. -/
def Covered (made others : List Registration) : Prop :=
  ∀ call ∈ made, ∃ other ∈ others, call.SameAs other

namespace Covered

theorem of_subset {made others : List Registration} (h : made ⊆ others) : Covered made others :=
  fun call hcall => ⟨call, h hcall, .refl call⟩

theorem trans {made middle others : List Registration} (left : Covered made middle)
    (right : Covered middle others) : Covered made others := by
  intro call hcall
  obtain ⟨between, hbetween, hfirst⟩ := left call hcall
  obtain ⟨other, hother, hsecond⟩ := right between hbetween
  exact ⟨other, hother, hfirst.trans hsecond⟩

theorem of_perm_methods {methods others : List Method} (before after : List Registration)
    (repository : String) (entity : Entity) (h : methods.Perm others) :
    Covered (before ++ ⟨repository, entity, methods⟩ :: after)
      (before ++ ⟨repository, entity, others⟩ :: after) := by
  intro call hcall
  rcases List.mem_append.mp hcall with hbefore | hrest
  · exact ⟨call, List.mem_append_left _ hbefore, .refl call⟩
  rcases List.mem_cons.mp hrest with rfl | hafter
  · exact ⟨_, List.mem_append_right before (List.mem_cons_self ..), ⟨rfl, rfl, h⟩⟩
  · exact ⟨call, List.mem_append_right before (List.mem_cons_of_mem _ hafter), .refl call⟩

theorem consistent {config : Config} {made others : List Registration}
    (h : Covered others made) (hconsistent : Consistent config made) :
    Consistent config others := by
  refine ⟨?_, ?_, ?_⟩
  · intro first hfirst second hsecond hname
    obtain ⟨left, hleft, hsame⟩ := h first hfirst
    obtain ⟨right, hright, hlike⟩ := h second hsecond
    rw [hsame.repository_eq, hlike.repository_eq] at hname
    rw [hsame.entity_eq, hlike.entity_eq]
    exact hconsistent.entity_eq left hleft right hright hname
  · intro first hfirst second hsecond hname method hmethod other hother
    obtain ⟨left, hleft, hsame⟩ := h first hfirst
    obtain ⟨right, hright, hlike⟩ := h second hsecond
    rw [hsame.repository_eq, hlike.repository_eq] at hname
    exact hconsistent.method_eq left hleft right hright hname
      method (hsame.methods_perm.mem_iff.mp hmethod)
      other (hlike.methods_perm.mem_iff.mp hother)
  · intro call hcall method hmethod
    obtain ⟨left, hleft, hsame⟩ := h call hcall
    rw [hsame.repository_eq, hsame.entity_eq]
    exact hconsistent.resolves left hleft method (hsame.methods_perm.mem_iff.mp hmethod)

theorem exists_entity {made others : List Registration} (h : Covered made others) {name : String}
    {entity : Entity} (hmade : ∃ call ∈ made, call.repository = name ∧ call.entity = entity) :
    ∃ other ∈ others, other.repository = name ∧ other.entity = entity := by
  obtain ⟨call, hcall, hname, hentity⟩ := hmade
  obtain ⟨other, hother, hsame⟩ := h call hcall
  exact ⟨other, hother, hsame.repository_eq ▸ hname, hsame.entity_eq ▸ hentity⟩

theorem exists_names {made others : List Registration} (h : Covered made others) {ref : MethodRef}
    {method : Method} (hmade : ∃ call ∈ made, call.Names ref method) :
    ∃ other ∈ others, other.Names ref method := by
  obtain ⟨call, hcall, hname, hmem, hkey⟩ := hmade
  obtain ⟨other, hother, hsame⟩ := h call hcall
  exact ⟨other, hother, hsame.repository_eq ▸ hname, hsame.methods_perm.mem_iff.mp hmem, hkey⟩

theorem holds {registry : Registry} {made others : List Registration}
    (hforward : Covered made others) (hbackward : Covered others made)
    (hholds : registry.Holds made) : registry.Holds others where
  entity_iff name entity :=
    (hholds.entity_iff name entity).trans ⟨hforward.exists_entity, hbackward.exists_entity⟩
  method_iff ref method :=
    (hholds.method_iff ref method).trans ⟨hforward.exists_names, hbackward.exists_names⟩

end Covered

theorem Rearranged.covered {made others : List Registration} (h : Rearranged made others) :
    Covered made others ∧ Covered others made := by
  induction h with
  | calls hperm => exact ⟨.of_subset hperm.subset, .of_subset hperm.symm.subset⟩
  | methods before after repository entity hperm =>
      exact ⟨.of_perm_methods before after repository entity hperm,
        .of_perm_methods before after repository entity hperm.symm⟩
  | @again made call hmem =>
      have hback : made ++ [call] ⊆ made :=
        List.append_subset.mpr
          ⟨List.Subset.refl made, List.cons_subset.mpr ⟨hmem, List.nil_subset made⟩⟩
      exact ⟨.of_subset (List.subset_append_left made [call]), .of_subset hback⟩
  | trans _ _ hleft hright =>
      exact ⟨hleft.1.trans hright.1, hright.2.trans hleft.2⟩

/-- The statement of a method follows from the method and the entity of its repository. -/
theorem Registry.Reachable.statement?_eq {registry : Registry} (h : registry.Reachable)
    (ref : MethodRef) :
    registry.statement? ref = (registry.entity? ref.repository).bind fun entity =>
      (registry.method? ref).bind fun method =>
        (method.resolve registry.config ref.repository entity).result.toOption.join := by
  cases hentry : registry.entry? ref with
  | none => simp [statement?, method?, hentry]
  | some entry =>
      obtain ⟨repository, hrepository, hresolved⟩ := h.resolved_entry hentry
      simp [statement?, method?, entity?, hentry, hrepository, hresolved.resolve_eq,
        Except.toOption]

theorem Registry.Holds.sameAnswers {registry other : Registry} {made : List Registration}
    (hreach : registry.Reachable) (hother : other.Reachable)
    (hconfig : registry.config = other.config) (hholds : registry.Holds made)
    (hlike : other.Holds made) : registry.SameAnswers other := by
  have hentity : ∀ name, registry.entity? name = other.entity? name := by
    intro name
    ext entity
    rw [hholds.entity_iff, hlike.entity_iff]
  have hmethod : ∀ ref, registry.method? ref = other.method? ref := by
    intro ref
    ext method
    rw [hholds.method_iff, hlike.method_iff]
  refine ⟨hentity, hmethod, fun ref => ?_⟩
  rw [hreach.statement?_eq, hother.statement?_eq, hentity, hmethod, hconfig]

theorem Registry.registerAll_rearranged (config : Config) (made : List Registration) :
    ((∃ registry, (ofConfig config).registerAll made = .ok registry) ↔ Consistent config made) ∧
      ∀ registry, (ofConfig config).registerAll made = .ok registry →
        ∀ others, Rearranged made others →
          ∃ other, (ofConfig config).registerAll others = .ok other ∧
            registry.SameAnswers other := by
  refine ⟨exists_registerAll_iff config made, ?_⟩
  intro registry h others hothers
  obtain ⟨hforward, hbackward⟩ := hothers.covered
  have hconsistent : Consistent config made := (exists_registerAll_iff config made).mp ⟨registry, h⟩
  obtain ⟨other, hother⟩ :=
    (exists_registerAll_iff config others).mpr (hbackward.consistent hconsistent)
  have hholds : registry.Holds others :=
    hforward.holds hbackward ((holds_ofConfig config).registerAll h)
  have hconfig : registry.config = other.config :=
    (config_registerAll h).trans (config_registerAll hother).symm
  exact ⟨other, hother, Holds.sameAnswers (reachable_of_registerAll h)
    (reachable_of_registerAll hother) hconfig hholds ((holds_ofConfig config).registerAll hother)⟩

/-- The accounts handed in a second time, with the methods the other way around and before the
first call. -/
theorem Registry.registerAll_rearranged_accounts :
    Consistent {} [Accounts.registration] ∧
      ∃ other, (ofConfig {}).registerAll
          [⟨"accounts", Accounts.entity, [Accounts.deposit, Accounts.find]⟩,
            Accounts.registration] = .ok other ∧
        Accounts.registry.SameAnswers other := by
  have hregister : (ofConfig {}).registerAll [Accounts.registration] = .ok Accounts.registry := by
    decide +kernel
  have hmethods : [Accounts.find, Accounts.deposit].Perm [Accounts.deposit, Accounts.find] :=
    .swap _ _ []
  have htwice : Rearranged [Accounts.registration] [Accounts.registration, Accounts.registration] :=
    .again (List.mem_singleton_self _)
  have hturned : Rearranged [Accounts.registration, Accounts.registration]
      [Accounts.registration, ⟨"accounts", Accounts.entity, [Accounts.deposit, Accounts.find]⟩] :=
    .methods [Accounts.registration] [] "accounts" Accounts.entity hmethods
  obtain ⟨hiff, hrearranged⟩ := registerAll_rearranged {} [Accounts.registration]
  exact ⟨hiff.mp ⟨Accounts.registry, hregister⟩, hrearranged Accounts.registry hregister _
    (htwice.trans (hturned.trans (.calls (.swap _ _ []))))⟩

end QueryMethods
