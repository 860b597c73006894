import QueryMethods.Example.Users
import QueryMethods.Proofs.Declaration.Accepted
import QueryMethods.Proofs.Registry.Contents
import QueryMethods.Proofs.Registry.Invariant
import QueryMethods.Proofs.Typed.Values

/-!
# Typed calls are wired as declared

Three pieces of generated code have to agree: the listing that is registered, the arguments that a
delegate encodes, and the reader that it hands the output to. All three come from one method, and
the registry gives back what the listing promised, so that a typed call fails for what happened in
the database and for nothing else.
-/

namespace QueryMethods

theorem OutputReader.shape_ofReturns (entity : Path) (returns : Returns) :
    (ofReturns entity returns).shape = returns.shape := by
  cases returns with
  | optional inner => rw [ofReturns]; split <;> rfl
  | list inner => rw [ofReturns]; split <;> rfl
  | scalar type => rfl

theorem RepositoryDef.mem_delegates_iff {repository : RepositoryDef} {delegate : Delegate} :
    delegate ∈ repository.delegates ↔
      ∃ method ∈ repository.methods, method.skip = false ∧
        method.delegate repository.entity = delegate := by
  simp [delegates, and_assoc]

/-- What a method that is not skipped is registered as. -/
theorem MethodDef.registers {method : MethodDef} (hskip : method.skip = false)
    {registered : Method} (h : method.listing.method? = some registered) :
    registered.name = method.name ∧ registered.shape = method.returns.shape ∧
      registered.skip = false ∧
      ∃ types, (method.params.mapM fun param => param.2.hostType?) = some types ∧
        StandFor registered.params types := by
  rw [Listing.method?_eq] at h
  have hregisters := Listing.registers_of_methodIn h
  refine ⟨hregisters.name_eq, hregisters.shape_eq, hregisters.skip_eq.trans hskip, ?_⟩
  have hparams := hregisters.params
  rw [listing, hskip, if_neg Bool.false_ne_true, List.forall₂_map_left_iff] at hparams
  obtain ⟨types, htypes, hstand⟩ := exists_forall₂_of_partners
    (P := fun (param : String × TypeExpr) host => param.2.hostType? = some host)
    (Q := fun (param : Param) host => param.type = host.valueType ∧ param.nullable = host.nullable)
    hparams fun param registered hparam => by
      obtain ⟨host, hhost, htype⟩ := Option.map_eq_some_iff.mp hparam.2
      obtain ⟨htype, hnullable⟩ := Prod.mk.inj htype
      exact ⟨host, hhost, htype.symm, hnullable.symm⟩
  exact ⟨types, mapM_eq_some_iff.mpr htypes, hstand⟩

section

variable {registry : Registry} {ref : MethodRef} {method : Method} {args values : List Value}

/-- A call with fit arguments of a method that is not skipped sends a statement. -/
theorem Registry.Reachable.exists_invoke (hreach : registry.Reachable)
    (hmethod : registry.method? ref = some method) (hskip : method.skip = false)
    (hvalues : method.checkArguments args = .ok values) :
    ∃ (statement : Statement) (binds : List Bind), ∀ database,
      registry.invoke database ref args = statement.run database ref binds := by
  cases hprepare : registry.prepare ref args with
  | ok prepared => exact ⟨prepared.1, prepared.2, fun _ => by simp only [Registry.invoke, hprepare]⟩
  | error error =>
      rcases Registry.prepare_eq_error hreach hprepare with
        ⟨-, hskipped⟩ | ⟨other, fault, hother, hfault, -⟩
      · rw [hskipped method hmethod] at hskip
        cases hskip
      · obtain rfl := Option.some.inj (hother.symm.trans hmethod)
        rw [hfault] at hvalues
        cases hvalues

end

/-- What a delegate may rely on when it is called with arguments of these types, and what its caller
may be told. -/
structure Delegate.Wired (delegate : Delegate) (registry : Registry) (repository : String)
    (types : List HostType) : Prop where
  /-- The arguments pass. -/
  takes : ∀ args : HostValues types, ∃ method values,
    registry.method? ⟨repository, delegate.name⟩ = some method ∧
      method.checkArguments (HostValues.encode types args) = .ok values
  /-- The output has the shape that the reader expects. -/
  gives : ∀ database (args : HostValues types) output,
    (registry.invoke database ⟨repository, delegate.name⟩
      (HostValues.encode types args)).outcome = .finished (.ok output) →
    output.shape = delegate.reader.shape
  /-- The call fails in the database alone. -/
  fails : ∀ database (args : HostValues types) error,
    (registry.invoke database ⟨repository, delegate.name⟩
      (HostValues.encode types args)).outcome = .finished (.error error) →
    ∃ cause, error = .execution ⟨repository, delegate.name⟩ cause
  /-- Where the result can be read at all, reading fails for what was found in it. -/
  ends : ∀ method, delegate.typed? = some method →
    ∀ entity database (args : HostValues method.params) error,
      (method.call entity registry database repository args).result = some (.error error) →
      (∃ cause, error = .execution ⟨repository, delegate.name⟩ cause) ∨
        ∃ column fault, error = .decode ⟨column, fault⟩ ∧
          ∀ expected found, fault ≠ .outputShape expected found

theorem DecodeFault.ne_outputShape {fault : DecodeFault} (h : fault.isShape = false)
    (expected found : Shape) : fault ≠ .outputShape expected found := by
  rintro rfl
  cases h

theorem Delegate.typed?_eq_some {delegate : Delegate} {method : TypedMethod}
    (h : delegate.typed? = some method) :
    (delegate.params.mapM fun param => param.2.hostType?) = some method.params ∧
      method.name = delegate.name ∧ method.reader.shape = delegate.reader.shape := by
  obtain ⟨types, htypes, hrest⟩ := Option.bind_eq_some_iff.mp h
  obtain ⟨reader, hreader, hmethod⟩ := Option.bind_eq_some_iff.mp hrest
  obtain rfl := Option.some.inj hmethod
  exact ⟨htypes, rfl, OutputReader.shape_of_typed? hreader⟩

theorem Delegate.wired {registry : Registry} (hreach : registry.Reachable) {delegate : Delegate}
    {repository : String} {method : Method} {types : List HostType}
    (htypes : (delegate.params.mapM fun param => param.2.hostType?) = some types)
    (hmethod : registry.method? ⟨repository, delegate.name⟩ = some method)
    (hskip : method.skip = false) (hstand : StandFor method.params types)
    (hshape : method.shape = delegate.reader.shape) :
    delegate.Wired registry repository types := by
  have htakes : ∀ args : HostValues types, method.checkArguments (HostValues.encode types args) =
      .ok (HostValues.encode types args) := Method.checkArguments_encode hstand
  have hgives : ∀ database (args : HostValues types) output,
      (registry.invoke database ⟨repository, delegate.name⟩
        (HostValues.encode types args)).outcome = .finished (.ok output) →
      output.shape = delegate.reader.shape := by
    intro database args output hrun
    obtain ⟨other, hother, hout⟩ :=
      (Registry.guardedCall hreach database _ _).shape_eq output hrun
    obtain rfl := Option.some.inj (hother.symm.trans hmethod)
    exact hout.trans hshape
  have hfails : ∀ database (args : HostValues types) error,
      (registry.invoke database ⟨repository, delegate.name⟩
        (HostValues.encode types args)).outcome = .finished (.error error) →
      ∃ cause, error = .execution ⟨repository, delegate.name⟩ cause := by
    intro database args error hrun
    obtain ⟨statement, binds, hinvoke⟩ := hreach.exists_invoke hmethod hskip (htakes args)
    rw [hinvoke database] at hrun
    exact Statement.execution_of_run hrun
  refine ⟨fun args => ⟨method, _, hmethod, htakes args⟩, hgives, hfails, ?_⟩
  rintro ⟨name, params, reader⟩ htyped entity database args error hresult
  obtain ⟨hparams, hname, hreader⟩ := typed?_eq_some htyped
  obtain rfl : name = delegate.name := hname
  obtain rfl : params = types := Option.some.inj (hparams.symm.trans htypes)
  simp only [TypedMethod.call] at hresult
  split at hresult
  case h_1 => cases hresult
  case h_2 found hrun =>
    obtain rfl : found = error := Except.error.inj (Option.some.inj hresult)
    exact .inl (hfails database args found hrun)
  case h_3 output hrun =>
    obtain ⟨⟨column, fault⟩, hread, rfl⟩ :=
      exists_eq_error_of_mapError (Option.some.inj hresult)
    have hunfit := TypedReader.isShape_of_read ((hgives database args output hrun).trans
      hreader.symm) hread
    exact .inr ⟨column, fault, rfl, DecodeFault.ne_outputShape hunfit⟩

/-- **Typed calls are wired as declared.** Once the methods of an accepted trait are registered,
every declared method that is not skipped has a delegate, and every delegate is wired: whatever the
arguments and whatever the database does, they pass, the output has the shape that is read, and the
only errors come from the database and from reading the values that it returned. -/
theorem TraitDecl.calls_wired {decl : TraitDecl} {args : RepositoryArgs}
    {repository : RepositoryDef} (haccept : decl.accept args = .ok repository)
    {methods : List Method} (hmethods : repository.listings.mapM Listing.method? = some methods)
    {config : Config} {registrations : List Registration} {registry : Registry}
    (hregistry : (Registry.ofConfig config).registerAll registrations = .ok registry)
    {name : String} {entity : Entity} (hmem : ⟨name, entity, methods⟩ ∈ registrations) :
    (∀ declared, TraitItem.method declared ∈ decl.items → declared.isSkipped = false →
      ∃ delegate ∈ repository.delegates, delegate.identifier = declared.name ∧
        delegate.params = declared.plainParams) ∧
    ∀ delegate ∈ repository.delegates, ∃ types,
      (delegate.params.mapM fun param => param.2.hostType?) = some types ∧
        delegate.Wired registry name types := by
  constructor
  · intro declared hdeclared hskip
    obtain ⟨method, hmethod⟩ := exists_accept haccept hdeclared
    have hmember := (mem_methods_iff haccept).mpr ⟨declared, hdeclared, hmethod⟩
    obtain ⟨hdescribed, -, -⟩ := MethodDecl.accept_eq_ok_iff.mp hmethod
    obtain ⟨output, -, inner, -, rfl⟩ := by
      simpa only [MethodDecl.described?, Option.bind_eq_bind, Option.bind_eq_some_iff,
        Option.some.injEq] using hdescribed
    exact ⟨_, RepositoryDef.mem_delegates_iff.mpr ⟨_, hmember, hskip, rfl⟩, rfl, rfl⟩
  · intro delegate hdelegate
    obtain ⟨method, hmethod, hskip, rfl⟩ := RepositoryDef.mem_delegates_iff.mp hdelegate
    obtain ⟨registered, hregistered, hlisted⟩ : ∃ registered ∈ methods,
        method.listing.method? = some registered := by
      have hrelated := mapM_eq_some_iff.mp hmethods
      rw [RepositoryDef.listings, List.forall₂_map_left_iff] at hrelated
      exact exists_of_mem_forall₂ hrelated.flip hmethod
    obtain ⟨hname, hshape, hlive, types, htypes, hstand⟩ := MethodDef.registers hskip hlisted
    have hholds := (Registry.holds_ofConfig config).registerAll hregistry
    rw [List.nil_append] at hholds
    have hfound : registry.method? ⟨name, method.name⟩ = some registered :=
      (hholds.method_iff _ _).mpr ⟨_, hmem, rfl, hregistered, hname⟩
    refine ⟨types, htypes, Delegate.wired (Registry.reachable_of_registerAll hregistry) htypes
      hfound hlive hstand ?_⟩
    rw [hshape, MethodDef.delegate, OutputReader.shape_ofReturns]

/-- Methods of every kind: derived with an option in an option, with a template, and skipped. -/
def membersDecl : TraitDecl where
  name := "Members"
  items := [
    Users.derived "find_by_nickname"
      [("nickname", Users.option (Users.option (.reference (.named "str"))))] Users.user,
    Users.writing "set_status" [Users.id, Users.status] (.named "u64")
      "UPDATE users SET status = \x7bstatus\x7d WHERE id = \x7bid\x7d",
    Users.methodDecl [⟨"skip", .word⟩] "ping" [] (.named "bool") (some (inBraces []))]

def memberMethods : List Method :=
  [{ name := "find_by_nickname", params := [⟨"nickname", .text, true⟩] },
    { name := "set_status"
      params := [⟨"id", .uuid, false⟩, ⟨"status", .text, false⟩]
      shape := .scalar
      template := some "UPDATE users SET status = \x7bstatus\x7d WHERE id = \x7bid\x7d"
      modifying := true },
    { name := "ping", shape := .scalar, skip := true }]

def memberRegistration : Registration where
  repository := "members"
  entity := ⟨"User", "users", none, [⟨"id", .uuid, false⟩, ⟨"nickname", .text, true⟩]⟩
  methods := memberMethods

theorem TraitDecl.calls_wired_members :
    ∃ repository registry,
      membersDecl.accept (.path (.ofNames false ["User"])) = .ok repository ∧
      repository.listings.mapM Listing.method? = some memberMethods ∧
      (Registry.ofConfig {}).registerAll [memberRegistration] = .ok registry ∧
      repository.delegates.map (·.name) = ["find_by_nickname", "set_status"] ∧
      ∀ delegate ∈ repository.delegates, ∃ types,
        (delegate.params.mapM fun param => param.2.hostType?) = some types ∧
          delegate.Wired registry "members" types := by
  have hlisted : ((membersDecl.accept (.path (.ofNames false ["User"]))).toOption.map
      fun repository => (repository.listings.mapM Listing.method?,
        repository.delegates.map (·.name))) =
      some (some memberMethods, ["find_by_nickname", "set_status"]) := by decide +kernel
  have hregistered :
      ((Registry.ofConfig {}).registerAll [memberRegistration]).toOption.isSome = true := by
    decide +kernel
  cases hrepository : membersDecl.accept (.path (.ofNames false ["User"])) with
  | error faults => rw [hrepository] at hlisted; cases hlisted
  | ok repository =>
      cases hregistry : (Registry.ofConfig {}).registerAll [memberRegistration] with
      | error error => rw [hregistry] at hregistered; cases hregistered
      | ok registry =>
          rw [hrepository] at hlisted
          obtain ⟨hmethods, hnames⟩ := Prod.mk.inj (Option.some.inj hlisted)
          obtain ⟨-, hwired⟩ := calls_wired hrepository hmethods hregistry
            (List.mem_singleton_self memberRegistration)
          exact ⟨repository, registry, rfl, hmethods, rfl, hnames, hwired⟩

end QueryMethods
