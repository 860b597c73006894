import QueryMethods.Example.Users
import QueryMethods.Proofs.Declaration.Accepted
import QueryMethods.Proofs.Registry.Faults

/-!
# Names are checked alike

The name of a method is looked into twice: when its declaration is accepted, by the identifiers of
its parameters and the type that it returns, and when it is registered, by the parameters and the
shape that were listed. Both come to the same, so that a registration of accepted methods can only
find fault with their fields.
-/

namespace QueryMethods

theorem MethodDef.nameFault?_eq_none_iff {method : MethodDef} :
    method.nameFault? = none ↔ ∃ name, MethodName.parse method.name = .ok (some name) ∧
      name.align (method.params.map fun param => plainName param.1) method.returns.shape =
        .ok () := by
  unfold nameFault?
  cases MethodName.parse method.name with
  | error fault => simp
  | ok parsed =>
      cases parsed with
      | none => simp
      | some name =>
          simp only [Except.ok.injEq, Option.some.injEq]
          cases halign : name.align (method.params.map fun param => plainName param.1)
              method.returns.shape with
          | error fault => simp [halign]
          | ok aligned => simp [halign]

theorem MethodName.hasVerb_of_parse {text : String} {name : MethodName}
    (h : parse text = .ok (some name)) : hasVerb text = true := by
  cases hverb : splitVerb? (foldCase text.toList) with
  | some found => rw [hasVerb, hverb]; rfl
  | none => rw [parse_eq_none_iff.mpr hverb] at h; cases h

/-- What is listed for a method without a template and a body keeps all that its name is held to. -/
theorem MethodDef.fits_iff {types : ColumnTypes} {method : MethodDef} {registered : Method}
    (hskip : method.skip = false) (hquery : method.query = none)
    (h : method.listing.methodIn types = some registered) :
    MethodName.Fits registered ↔ method.nameFault? = none := by
  have hregisters := Listing.registers_of_methodIn h
  have hname : registered.name = method.name := hregisters.name_eq
  have hshape : registered.shape = method.returns.shape := hregisters.shape_eq
  have hparams : registered.params.map (·.name) =
      method.params.map fun param => plainName param.1 := by
    rw [hregisters.paramNames, listing, hskip, if_neg Bool.false_ne_true, List.map_map]
    rfl
  have hkind : registered.kind = .derived ↔ MethodName.hasVerb method.name = true := by
    rw [Method.kind_eq_derived_iff, hregisters.skip_eq, hregisters.template_eq, hname]
    simp [listing, hskip, hquery]
  rw [MethodName.Fits, hkind, hname, hshape, hparams, nameFault?_eq_none_iff]
  constructor
  · exact fun hfits => hfits.2
  · rintro ⟨name, hparse, halign⟩
    exact ⟨MethodName.hasVerb_of_parse hparse, name, hparse, halign⟩

/-- Whatever an accepted trait lists can be resolved by its kind, and is named as it should be where
that matters. -/
theorem TraitDecl.fits_of_accept {decl : TraitDecl} {args : RepositoryArgs}
    {repository : RepositoryDef} {types : ColumnTypes} {methods : List Method}
    (haccept : decl.accept args = .ok repository)
    (hmethods : repository.listings.mapM (·.methodIn types) = some methods) {registered : Method}
    (hmem : registered ∈ methods) :
    registered.kind ≠ .unresolvable ∧
      (registered.kind = .derived → MethodName.Fits registered) := by
  obtain ⟨listing, hlisting, hregistered⟩ :=
    exists_of_mem_forall₂ (mapM_eq_some_iff.mp hmethods) hmem
  obtain ⟨method, hmethod, rfl⟩ := List.mem_map.mp hlisting
  obtain ⟨declared, -, hdeclared⟩ := (mem_methods_iff haccept).mp hmethod
  obtain ⟨-, -, hfaults⟩ := MethodDecl.accept_eq_ok_iff.mp hdeclared
  have hregisters := Listing.registers_of_methodIn hregistered
  cases hskip : method.skip with
  | true =>
      have hkind := Method.kind_eq_skipped_iff.mpr (hregisters.skip_eq.trans hskip)
      simp [hkind]
  | false =>
      have hlive : registered.skip = false := hregisters.skip_eq.trans hskip
      have htemplate : registered.template = method.query.map (·.sql) := by
        rw [hregisters.template_eq]
        simp [MethodDef.listing, hskip]
      cases hquery : method.query with
      | some query =>
          have hkind : registered.kind = .template query.sql := by
            rw [Method.kind, hlive, htemplate, hquery]
            rfl
          simp [hkind]
      | none =>
          have hnone : method.nameFault? = none := by
            simpa [MethodDef.nameFaults, hskip, hquery] using hfaults
          have hfits := (MethodDef.fits_iff hskip hquery hregistered).mpr hnone
          exact ⟨by simp [hfits.1], fun _ => hfits⟩

theorem TraitDecl.names_of_listings {repository : RepositoryDef} {types : ColumnTypes}
    {methods : List Method}
    (hmethods : repository.listings.mapM (·.methodIn types) = some methods) :
    methods.map (·.name) = repository.methods.map (·.name) := by
  have hrelated := mapM_eq_some_iff.mp hmethods
  rw [RepositoryDef.listings, List.forall₂_map_left_iff] at hrelated
  rw [← List.forall₂_eq_eq_eq, List.forall₂_map_left_iff, List.forall₂_map_right_iff]
  exact hrelated.flip.imp fun _ _ h => (Listing.registers_of_methodIn h).name_eq

/-- **Names are checked alike.** A declaration without other faults is accepted exactly when the
method that it lists is derived and named as its parameters and its shape demand. The methods of an
accepted trait, each with a name of its own, are therefore never unresolvable and never in each
other's way under a new name, and a derived one has no fault but a field that the entity does not
have or that its parameter does not fit. -/
theorem TraitDecl.names_checked_alike (types : ColumnTypes) :
    (∀ decl : MethodDecl, decl.isSkipped = false → decl.query = .ok none →
      decl.signatureFaults = [] →
      ∃ method, decl.described? = some method ∧
        (decl.accept = .ok method ↔ method.nameFault? = none) ∧
        ∀ registered, method.listing.methodIn types = some registered →
          (method.nameFault? = none ↔ registered.kind = .derived ∧
            ∃ name, MethodName.parse registered.name = .ok (some name) ∧
              name.align (registered.params.map (·.name)) registered.shape = .ok ())) ∧
    ∀ (decl : TraitDecl) args repository methods, decl.accept args = .ok repository →
      (repository.methods.map (·.name)).Nodup →
      repository.listings.mapM (·.methodIn types) = some methods →
      ∀ (registry : Registry) name entity error, registry.repository? name = none →
        (registry.register name entity methods).result = .error error →
        (∀ ref, error ≠ .unresolvable ref ∧ error ≠ .duplicate ref) ∧
        ∀ ref fault, error = .signature ref fault →
          ∃ method ∈ methods, ref = ⟨name, method.name⟩ ∧ method.kind = .derived ∧
            ∃ token param, MethodName.Compares method token param ∧
              ((entity.field? token = none ∧ fault = .unknownField token entity.name) ∨
                ∃ field, entity.field? token = some field ∧ param.type.fits field.type = false ∧
                  fault = .incomparable param.name param.type field.name field.type) := by
  constructor
  · intro decl hskip hquery hsignature
    obtain ⟨method, hmethod⟩ := MethodDecl.exists_described? hsignature
    obtain ⟨output, -, inner, -, hdescribed⟩ := by
      simpa only [MethodDecl.described?, Option.bind_eq_bind, Option.bind_eq_some_iff] using hmethod
    have hlive : method.skip = false := by rw [← Option.some.inj hdescribed]; exact hskip
    have hplain : method.query = none := by
      rw [← Option.some.inj hdescribed]
      simp [MethodDecl.query?, hquery, Except.toOption]
    refine ⟨method, hmethod, ?_, fun registered h => (MethodDef.fits_iff hlive hplain h).symm⟩
    simp [MethodDecl.accept_eq_ok_iff, hmethod, hsignature, MethodDef.nameFaults, hlive, hplain]
  · intro decl args repository methods haccept hdistinct hmethods registry name entity error hnew
      herror
    rw [← names_of_listings hmethods] at hdistinct
    obtain ⟨method, hmem, hunresolved⟩ :=
      Registry.unresolved_of_register hnew hdistinct herror
    obtain ⟨hresolvable, hnamed⟩ := fits_of_accept haccept hmethods hmem
    cases hunresolved with
    | template fault hkind => simp
    | unresolvable hkind => exact absurd hkind hresolvable
    | name fault hkind hunfit => exact absurd (hnamed hkind) hunfit
    | @unknownField token param hfits hcompares hnone =>
        refine ⟨fun ref => ⟨by rintro ⟨⟩, by rintro ⟨⟩⟩, ?_⟩
        rintro ref fault heq
        obtain ⟨rfl, rfl⟩ := Error.signature.inj heq
        exact ⟨method, hmem, rfl, hfits.1, token, param, hcompares, .inl ⟨hnone, rfl⟩⟩
    | @incomparable token param field hfits hcompares hfield htype =>
        refine ⟨fun ref => ⟨by rintro ⟨⟩, by rintro ⟨⟩⟩, ?_⟩
        rintro ref fault heq
        obtain ⟨rfl, rfl⟩ := Error.signature.inj heq
        exact ⟨method, hmem, rfl, hfits.1, token, param, hcompares,
          .inr ⟨field, hfield, htype, rfl⟩⟩

/-- A derived method with a raw name and a raw parameter. -/
def kindDecl : MethodDecl where
  name := "r#find_By_type"
  receiver := some (code "&self")
  params := [(code "r#type", .named "String")]
  returns := some (Users.generic "Result" [Users.user, .named "Error"])

def kindRepositoryDecl : TraitDecl where
  name := "KindRepository"
  items := [.method kindDecl, Users.reading "all" [] Users.users "SELECT * FROM users"]

def kindMethods : List Method :=
  [{ name := "find_By_type", params := [⟨"type", .text, false⟩] },
    { name := "all", shape := .list, template := some "SELECT * FROM users" }]

theorem TraitDecl.names_checked_alike_kind :
    (kindDecl.isSkipped = false ∧ kindDecl.query = .ok none ∧ kindDecl.signatureFaults = [] ∧
      ∃ method, kindDecl.accept = .ok method) ∧
    ∃ repository, kindRepositoryDecl.accept (.path (.ofNames false ["User"])) = .ok repository ∧
      (repository.methods.map (·.name)).Nodup ∧
      repository.listings.mapM (·.methodIn .host) = some kindMethods ∧
      ∃ method ∈ kindMethods, method.kind = .derived ∧ ∃ token param,
        MethodName.Compares method token param ∧
          Entity.field? ⟨"User", "users", none, []⟩ token = none := by
  obtain ⟨hdecl, hregister⟩ := names_checked_alike .host
  have hskip : kindDecl.isSkipped = false := by decide
  have hquery : kindDecl.query = .ok none := by rfl
  have hsignature : kindDecl.signatureFaults = [] := by decide +kernel
  obtain ⟨method, hmethod, haccept, -⟩ := hdecl kindDecl hskip hquery hsignature
  have hname : (kindDecl.described?.map (·.nameFault?)) = some none := by decide +kernel
  rw [hmethod, Option.map_some, Option.some.injEq] at hname
  refine ⟨⟨hskip, hquery, hsignature, method, haccept.mpr hname⟩, ?_⟩
  have hlisted : ((kindRepositoryDecl.accept (.path (.ofNames false ["User"]))).toOption.map
      fun repository => (repository.methods.map (·.name),
        repository.listings.mapM (·.methodIn .host))) =
      some (["find_By_type", "all"], some kindMethods) := by decide +kernel
  cases hrepository : kindRepositoryDecl.accept (.path (.ofNames false ["User"])) with
  | error faults => rw [hrepository] at hlisted; cases hlisted
  | ok repository =>
      rw [hrepository] at hlisted
      obtain ⟨hnames, hmethods⟩ := Prod.mk.inj (Option.some.inj hlisted)
      have hdistinct : (repository.methods.map (·.name)).Nodup := by
        rw [hnames]
        decide
      have hfails : ((Registry.ofConfig {}).register "kinds" ⟨"User", "users", none, []⟩
          kindMethods).result =
            .error (.signature ⟨"kinds", "find_By_type"⟩ (.unknownField "type" "User")) := by
        decide +kernel
      obtain ⟨-, hsignatures⟩ := hregister _ _ repository kindMethods hrepository hdistinct
        hmethods (.ofConfig {}) "kinds" ⟨"User", "users", none, []⟩ _ rfl hfails
      obtain ⟨method, hmem, -, hkind, token, param, hcompares, hfault⟩ := hsignatures _ _ rfl
      refine ⟨repository, rfl, hdistinct, hmethods, method, hmem, hkind, token, param,
        hcompares, ?_⟩
      rcases hfault with ⟨hnone, -⟩ | ⟨field, -, -, hother⟩
      · exact hnone
      · cases hother

end QueryMethods
