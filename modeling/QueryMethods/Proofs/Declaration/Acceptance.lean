import QueryMethods.Proofs.Declaration.Names
import QueryMethods.Proofs.Declaration.Signatures

/-!
# Acceptance is exact

A trait is accepted exactly when it is lawful, however many rules its methods break and in whatever
order they are looked into. The methods of an accepted trait are then listed one by one, and those
that are not skipped are implemented.
-/

namespace QueryMethods

theorem Code.Binds.unique {pattern : Code} {identifier other : String}
    (h : pattern.afterAttributes.Binds identifier) (h' : pattern.afterAttributes.Binds other) :
    identifier = other :=
  Option.some.inj ((plainPattern?_eq_some_iff.mpr h).symm.trans (plainPattern?_eq_some_iff.mpr h'))

namespace MethodDecl

/-- The parameters are bound one by one to identifiers of the same types. -/
def Binds (params : List (Code × TypeExpr)) (bound : List (String × TypeExpr)) : Prop :=
  List.Forall₂ (fun param own => param.1.afterAttributes.Binds own.1 ∧ own.2 = param.2) params bound

/-- The method is listed under its plain name, with the shape of its result. -/
structure ListedAs (decl : MethodDecl) (listing : Listing) : Prop where
  name_eq : listing.name = plainName decl.name
  shape : ∃ output ok, decl.returns = some output ∧ output.IsResult ok ∧ ok.HasShape listing.shape

/-- The method is implemented under its own identifier, with its parameters and its result. -/
structure ImplementedBy (decl : MethodDecl) (delegate : Delegate) : Prop where
  identifier_eq : delegate.identifier = decl.name
  name_eq : delegate.name = plainName decl.name
  params : Binds decl.params delegate.params
  output_eq : decl.returns = some delegate.output

variable {decl : MethodDecl} {method : MethodDef}

theorem LawfulSignature.binds (h : decl.LawfulSignature TypeExpr.IsResult) :
    Binds decl.params decl.plainParams := by
  obtain ⟨receiver, hreceiver, -⟩ := h.receiver
  rw [plainParams, ownParams_of_receiver hreceiver]
  refine (forall₂_filterMap fun param hparam => ?_).imp fun param own hown => ?_
  · obtain ⟨identifier, hbinds⟩ := h.params param hparam
    exact ⟨(identifier, param.2), by simp [plainPattern?_eq_some_iff.mpr hbinds]⟩
  · obtain ⟨identifier, hidentifier, rfl⟩ := Option.map_eq_some_iff.mp hown
    exact ⟨plainPattern?_eq_some_iff.mp hidentifier, rfl⟩

/-- Fields name parameters as they are written when they name them as they are bound. -/
theorem sameNames_iff {fields : List String} {params : List (Code × TypeExpr)}
    {bound : List (String × TypeExpr)} (h : Binds params bound) :
    List.Forall₂ (fun field param => sameName field param = true) fields
        (bound.map fun own => plainName own.1) ↔
      List.Forall₂ (fun field (param : Code × TypeExpr) => ∃ identifier,
        param.1.afterAttributes.Binds identifier ∧ sameName field (plainName identifier) = true)
          fields params := by
  rw [List.forall₂_map_right_iff]
  induction h generalizing fields with
  | nil => simp
  | cons hparam _ ih =>
      cases fields with
      | nil => simp
      | cons field fields =>
          rw [List.forall₂_cons, List.forall₂_cons, ih]
          refine and_congr_left fun _ => ⟨fun hname => ⟨_, hparam.1, hname⟩, ?_⟩
          rintro ⟨identifier, hbinds, hname⟩
          exact hparam.1.unique hbinds ▸ hname

theorem described?_eq_some_iff : decl.described? = some method ↔
    ∃ output ok, decl.returns = some output ∧ output.IsResult ok ∧ method = {
      identifier := decl.name
      params := decl.plainParams
      output
      returns := .classify ok
      query := decl.query?
      skip := decl.isSkipped } := by
  simp only [described?, Option.bind_eq_bind, Option.bind_eq_some_iff, Option.some.injEq]
  refine exists_congr fun output => ?_
  constructor
  · rintro ⟨houtput, ok, hok, rfl⟩
    obtain ⟨found, hfound, hresult⟩ := returnedOk?_eq_some_iff.mp hok
    obtain rfl : found = output := Option.some.inj (hfound.symm.trans houtput)
    exact ⟨ok, houtput, hresult, rfl⟩
  · rintro ⟨ok, houtput, hresult, rfl⟩
    exact ⟨houtput, ok, returnedOk?_eq_some_iff.mpr ⟨output, houtput, hresult⟩, rfl⟩

theorem nameFault?_eq_none_iff (hlawful : decl.LawfulSignature TypeExpr.IsResult)
    (hmethod : decl.described? = some method) :
    method.nameFault? = none ↔ decl.Named TypeExpr.IsResult := by
  obtain ⟨output, ok, houtput, hresult, rfl⟩ := described?_eq_some_iff.mp hmethod
  rw [MethodDef.nameFault?_eq_none_iff]
  simp only [MethodName.align_eq_ok_iff, sameNames_iff hlawful.binds,
    TypeExpr.shape_classify_iff]
  refine exists_congr fun name => ?_
  constructor
  · rintro ⟨hparse, hfields, hshape⟩
    exact ⟨output, ok, hparse, hfields, houtput, hresult, hshape⟩
  · -- The declaration has one result only, so that this is the one that was looked into.
    rintro ⟨other, found, hparse, hfields, hother, hfound, hshape⟩
    have hsame : some found = some ok :=
      (returnedOk?_eq_some_iff.mpr ⟨other, hother, hfound⟩).symm.trans
        (returnedOk?_eq_some_iff.mpr ⟨output, houtput, hresult⟩)
    exact ⟨hparse, hfields, Option.some.inj hsame ▸ hshape⟩

theorem nameFaults_eq_nil_iff (hlawful : decl.LawfulSignature TypeExpr.IsResult)
    (hmethod : decl.described? = some method) :
    method.nameFaults = [] ↔
      (¬ decl.Has "skip" → ¬ decl.Has "query" → decl.Named TypeExpr.IsResult) := by
  have hname := nameFault?_eq_none_iff hlawful hmethod
  obtain ⟨output, ok, -, -, rfl⟩ := described?_eq_some_iff.mp hmethod
  rw [← hname, ← isSkipped_iff, ← isSome_query?_iff (queryFaults_eq_nil_iff.mpr hlawful.query)]
  cases decl.isSkipped <;> cases decl.query? <;> simp [MethodDef.nameFaults]

theorem exists_accept_iff :
    (∃ method, decl.accept = .ok method) ↔ decl.Lawful TypeExpr.IsResult := by
  simp only [accept_eq_ok_iff]
  constructor
  · rintro ⟨method, hmethod, hsignature, hname⟩
    have hlawful := signatureFaults_eq_nil_iff.mp hsignature
    exact ⟨hlawful, (nameFaults_eq_nil_iff hlawful hmethod).mp hname⟩
  · intro h
    have hsignature := signatureFaults_eq_nil_iff.mpr h.toLawfulSignature
    obtain ⟨method, hmethod⟩ := exists_described? hsignature
    exact ⟨method, hmethod, hsignature,
      (nameFaults_eq_nil_iff h.toLawfulSignature hmethod).mpr h.named⟩

theorem listedAs_of_accept (h : decl.accept = .ok method) : decl.ListedAs method.listing := by
  obtain ⟨hmethod, -, -⟩ := accept_eq_ok_iff.mp h
  obtain ⟨output, ok, houtput, hresult, rfl⟩ := described?_eq_some_iff.mp hmethod
  exact ⟨rfl, output, ok, houtput, hresult, TypeExpr.shape_classify_iff.mp rfl⟩

theorem implementedBy_of_accept (h : decl.accept = .ok method) (entity : Path) :
    decl.ImplementedBy (method.delegate entity) := by
  obtain ⟨hmethod, hsignature, -⟩ := accept_eq_ok_iff.mp h
  have hlawful := signatureFaults_eq_nil_iff.mp hsignature
  obtain ⟨output, ok, houtput, -, rfl⟩ := described?_eq_some_iff.mp hmethod
  exact ⟨rfl, rfl, hlawful.binds, houtput⟩

theorem skip_of_accept (h : decl.accept = .ok method) : method.skip = decl.isSkipped := by
  obtain ⟨hmethod, -, -⟩ := accept_eq_ok_iff.mp h
  obtain ⟨output, ok, -, -, rfl⟩ := described?_eq_some_iff.mp hmethod
  rfl

end MethodDecl

/-! ### Whole traits -/

def TraitItem.declared? : TraitItem → Option MethodDecl
  | .method declared => some declared
  | .other => none

theorem TraitItem.faults_eq_nil_iff {item : TraitItem} :
    item.faults = [] ↔
      ∃ declared, item = .method declared ∧ declared.Lawful TypeExpr.IsResult := by
  cases item with
  | other => simp [faults]
  | method declared =>
      simp only [method.injEq, exists_eq_left', faults_method_eq_nil_iff,
        MethodDecl.exists_accept_iff]

/-- Items without faults are methods that are accepted one by one. -/
theorem TraitItem.forall₂_accept {items : List TraitItem} (h : ∀ item ∈ items, item.faults = []) :
    List.Forall₂ (fun (declared : MethodDecl) method => declared.accept = .ok method)
      (items.filterMap declared?) (items.filterMap method?) := by
  induction items with
  | nil => exact .nil
  | cons item items ih =>
      obtain ⟨hitem, hitems⟩ := List.forall_mem_cons.mp h
      cases item with
      | other => cases hitem
      | method declared =>
          obtain ⟨method, haccept⟩ := faults_method_eq_nil_iff.mp hitem
          have hmethod : (TraitItem.method declared).method? = some method := by
            rw [method?, haccept]
            rfl
          rw [List.filterMap_cons_some hmethod, List.filterMap_cons_some (f := declared?) rfl]
          exact .cons haccept (ih hitems)

namespace TraitDecl

def declared (decl : TraitDecl) : List MethodDecl :=
  decl.items.filterMap TraitItem.declared?

/-- The rules for a trait, whatever counts as the result of which type. -/
structure Lawful (IsResult : TypeExpr → TypeExpr → Prop) (decl : TraitDecl) : Prop where
  notGeneric : decl.generics = []
  methods : ∀ item ∈ decl.items, ∃ method, item = .method method ∧ method.Lawful IsResult

variable {decl : TraitDecl} {args : RepositoryArgs} {repository : RepositoryDef}

theorem exists_accept_iff : (∃ repository, decl.accept args = .ok repository) ↔
    (∃ entity, args.entity = .ok entity) ∧ decl.Lawful TypeExpr.IsResult := by
  simp only [accept_eq_ok_iff, TraitItem.faults_eq_nil_iff]
  constructor
  · rintro ⟨repository, entity, hentity, hgeneric, hmethods, -⟩
    exact ⟨⟨entity, hentity⟩, hgeneric, hmethods⟩
  · rintro ⟨⟨entity, hentity⟩, hlawful⟩
    exact ⟨_, entity, hentity, hlawful.notGeneric, hlawful.methods, rfl⟩

/-- **Acceptance is exact.** A repository is accepted exactly when its entity can be read and its
trait is lawful. The generated code then lists the methods in the order of declaration, each under
its name and with the shape of its result, and implements those that are not skipped. -/
theorem accept_exact (decl : TraitDecl) (args : RepositoryArgs) :
    ((∃ repository, decl.accept args = .ok repository) ↔
      (∃ entity, args.entity = .ok entity) ∧ decl.Lawful TypeExpr.IsResult) ∧
    ∀ repository, decl.accept args = .ok repository →
      List.Forall₂ MethodDecl.ListedAs decl.declared repository.listings ∧
        List.Forall₂ MethodDecl.ImplementedBy
          (decl.declared.filter fun declared => !declared.isSkipped) repository.delegates := by
  refine ⟨exists_accept_iff, fun repository haccept => ?_⟩
  obtain ⟨hmethods, hfaults⟩ := accept_eq_ok haccept
  have haccepted := TraitItem.forall₂_accept hfaults
  rw [← declared, ← hmethods] at haccepted
  rw [RepositoryDef.listings, RepositoryDef.delegates, List.forall₂_map_right_iff,
    List.forall₂_map_right_iff]
  constructor
  · exact haccepted.imp fun _ _ h => MethodDecl.listedAs_of_accept h
  · have hkept := List.rel_filter (p := fun (declared : MethodDecl) => !declared.isSkipped)
      (q := fun (method : MethodDef) => !method.skip)
      (fun _ _ h => by simp [MethodDecl.skip_of_accept h]) haccepted
    exact hkept.imp fun _ _ h => MethodDecl.implementedBy_of_accept h _

/-- Methods of every kind, of which the last is skipped. -/
theorem accept_exact_users :
    Users.repositoryDecl.Lawful TypeExpr.IsResult ∧
      ∃ repository, Users.repositoryDecl.accept (.path (.ofNames false ["User"])) = .ok repository ∧
        List.Forall₂ MethodDecl.ListedAs Users.repositoryDecl.declared repository.listings ∧
        List.Forall₂ MethodDecl.ImplementedBy Users.repositoryDecl.declared.dropLast
          repository.delegates := by
  obtain ⟨hexact, hgenerated⟩ :=
    accept_exact Users.repositoryDecl (.path (.ofNames false ["User"]))
  have hsome : (Users.repositoryDecl.accept
      (.path (.ofNames false ["User"]))).toOption.isSome = true := by decide +kernel
  cases haccept : Users.repositoryDecl.accept (.path (.ofNames false ["User"])) with
  | error faults => rw [haccept] at hsome; cases hsome
  | ok repository =>
      obtain ⟨-, hlawful⟩ := hexact.mp ⟨repository, haccept⟩
      exact ⟨hlawful, repository, rfl, hgenerated repository haccept⟩

end TraitDecl

/-- A path that ends in `Result`, be it within another type. -/
def TypeExpr.EndsInResult (type ok : TypeExpr) : Prop :=
  ∃ owner, type.Applies owner "Result" ok

/-- A method that returns `<Users>::Result<Option<User>, Error>`. -/
def ownedResultMethod : MethodDecl where
  name := "find_by_id"
  receiver := some (code "&self")
  params := [(code "id", .named "i64")]
  returns := some (.path (some (.named "Users")) (.ofNames false ["Result"])
    (some [Users.user, .named "Error"]))

def ownedResultDecl : TraitDecl where
  name := "UserRepository"
  items := [.method ownedResultMethod]

/-- By its last segment the method returns a result, and it keeps all other rules; but a path within
another type is deliberately none. -/
theorem TraitDecl.accept_ownedResult :
    ownedResultDecl.Lawful TypeExpr.EndsInResult ∧
      (∃ entity, (RepositoryArgs.path (.ofNames false ["User"])).entity = .ok entity) ∧
      ownedResultDecl.accept (.path (.ofNames false ["User"])) = .error [.returnType] := by
  have hid : Code.Binds "id" (QueryMethods.code "id").afterAttributes :=
    plainPattern?_eq_some_iff.mp (by decide)
  have hreturns : ∃ output ok, ownedResultMethod.returns = some output ∧ output.EndsInResult ok ∧
      ok.HasShape .optional :=
    ⟨_, Users.user, rfl, ⟨_, _, _, rfl, rfl⟩, .optional ⟨_, _, rfl, rfl⟩⟩
  have hnamed : ownedResultMethod.Named TypeExpr.EndsInResult := by
    obtain ⟨output, ok, houtput, hresult, hshape⟩ := hreturns
    exact ⟨⟨.findBy, ["id"], []⟩, output, ok, by decide +kernel,
      .cons ⟨"id", hid, by decide⟩ .nil, houtput, hresult, hshape⟩
  have hlawful : ownedResultMethod.Lawful TypeExpr.EndsInResult := {
    isAsync := rfl
    notGeneric := rfl
    receiver := ⟨QueryMethods.code "&self", rfl, isSharedSelf_iff.mp (by decide)⟩
    params := by
      intro param hparam
      obtain rfl := List.mem_singleton.mp hparam
      exact ⟨"id", hid⟩
    returns := by
      obtain ⟨output, ok, houtput, hresult, -⟩ := hreturns
      exact ⟨output, ok, houtput, hresult⟩
    query := by simp [ownedResultMethod]
    notBoth := by simp [MethodDecl.Has, ownedResultMethod]
    body := by simp [MethodDecl.Has, ownedResultMethod]
    named := fun _ _ => hnamed }
  refine ⟨⟨rfl, ?_⟩, ⟨_, rfl⟩, rfl⟩
  intro item hitem
  exact ⟨ownedResultMethod, List.mem_singleton.mp hitem, hlawful⟩

end QueryMethods
