import QueryMethods.Typed.Call
import QueryMethods.Proofs.Checked

/-!
# Accepted repositories

What stands in an accepted repository is what its declarations describe, and what is listed for
registration is what stands in it. The types of the parameters come from the calling program, so
that they are taken as given.
-/

namespace QueryMethods

/-- The method that a declaration describes, be it accepted or not. -/
def MethodDecl.described? (decl : MethodDecl) : Option MethodDef := do
  let output ← decl.returns
  let inner ← decl.returnedOk?
  some {
    identifier := decl.name
    params := decl.plainParams
    output
    returns := .classify inner
    query := decl.query?
    skip := decl.isSkipped }

/-- Only the name of a method with neither a template nor a body is looked into. -/
def MethodDef.nameFaults (method : MethodDef) : List DeclarationFault :=
  if method.skip || method.query.isSome then [] else method.nameFault?.toList

/-- A described method is accepted if it has no faults at all. -/
theorem MethodDecl.accept_eq (decl : MethodDecl) :
    decl.accept = match decl.described? with
      | none => .error decl.signatureFaults
      | some method =>
          if decl.signatureFaults ++ method.nameFaults = [] then .ok method
          else .error (decl.signatureFaults ++ method.nameFaults) := by
  unfold accept described?
  cases decl.returns with
  | none => rfl
  | some output =>
      cases decl.returnedOk? with
      | none => rfl
      | some inner =>
          simp only [Option.bind_eq_bind, Option.bind_some]
          split
          case h_1 hnone => exact (if_pos hnone).symm
          case h_2 hsome => exact (if_neg hsome).symm

theorem MethodDecl.accept_eq_ok_iff {decl : MethodDecl} {method : MethodDef} :
    decl.accept = .ok method ↔
      decl.described? = some method ∧ decl.signatureFaults = [] ∧ method.nameFaults = [] := by
  rw [accept_eq, ← List.append_eq_nil_iff]
  cases decl.described? with
  | none => simp
  | some found =>
      simp only [Option.some.injEq]
      by_cases hnone : decl.signatureFaults ++ found.nameFaults = []
      · rw [if_pos hnone, Except.ok.injEq]
        constructor
        · rintro rfl
          exact ⟨rfl, hnone⟩
        · exact fun h => h.1
      · rw [if_neg hnone]
        constructor
        · exact fun h => nomatch h
        · rintro ⟨rfl, h⟩
          exact absurd h hnone

theorem MethodDecl.exists_described? {decl : MethodDecl} (h : decl.signatureFaults = []) :
    ∃ method, decl.described? = some method := by
  simp only [signatureFaults, List.append_eq_nil_iff] at h
  obtain ⟨⟨⟨⟨⟨-, hreturns⟩, -⟩, -⟩, -⟩, -⟩ := h
  cases hinner : decl.returnedOk? with
  | none => rw [hinner] at hreturns; cases hreturns
  | some inner =>
      obtain ⟨output, houtput, -⟩ := Option.bind_eq_some_iff.mp hinner
      exact ⟨_, by rw [described?, houtput, hinner]; rfl⟩

/-- A declaration that is not accepted has a fault. -/
theorem MethodDecl.accept_ne_nil (decl : MethodDecl) : decl.accept ≠ .error [] := by
  intro h
  rw [accept_eq] at h
  cases hmethod : decl.described? with
  | none =>
      rw [hmethod] at h
      obtain ⟨method, hsome⟩ := exists_described? (Except.error.inj h)
      rw [hmethod] at hsome
      cases hsome
  | some method =>
      simp only [hmethod] at h
      by_cases hnone : decl.signatureFaults ++ method.nameFaults = []
      · rw [if_pos hnone] at h
        cases h
      · rw [if_neg hnone] at h
        exact hnone (Except.error.inj h)

theorem TraitItem.faults_method_eq_nil_iff {declared : MethodDecl} :
    (TraitItem.method declared).faults = [] ↔ ∃ method, declared.accept = .ok method := by
  rw [faults]
  cases haccept : declared.accept with
  | ok method => simp
  | error faults =>
      simp only [reduceCtorEq, exists_false, iff_false]
      rintro rfl
      exact declared.accept_ne_nil haccept

/-- A trait is accepted when neither its arguments nor any part of it has a fault. -/
theorem TraitDecl.accept_eq_ok_iff {decl : TraitDecl} {args : RepositoryArgs}
    {repository : RepositoryDef} :
    decl.accept args = .ok repository ↔ ∃ entity, args.entity = .ok entity ∧ decl.generics = [] ∧
      (∀ item ∈ decl.items, item.faults = []) ∧
      repository = ⟨decl, entity, decl.items.filterMap TraitItem.method?⟩ := by
  have hgeneric : MethodDecl.faultIf (!decl.generics.isEmpty) .genericTrait = [] ↔
      decl.generics = [] := by
    rw [MethodDecl.faultIf_eq_nil_iff, Bool.not_eq_false', List.isEmpty_iff]
  unfold accept
  cases args.entity with
  | error faults => simp
  | ok entity =>
      simp only [Except.ok.injEq, exists_eq_left', ← List.flatMap_eq_nil_iff, ← hgeneric]
      rw [← and_assoc, ← List.append_eq_nil_iff]
      split
      case h_1 hnone => simp [hnone, eq_comm]
      case h_2 hsome =>
        simp only [reduceCtorEq, false_iff, not_and]
        exact fun hnone => absurd hnone hsome

theorem TraitDecl.accept_eq_ok {decl : TraitDecl} {args : RepositoryArgs}
    {repository : RepositoryDef} (h : decl.accept args = .ok repository) :
    repository.methods = decl.items.filterMap TraitItem.method? ∧
      ∀ item ∈ decl.items, item.faults = [] := by
  obtain ⟨entity, -, -, hfaults, rfl⟩ := accept_eq_ok_iff.mp h
  exact ⟨rfl, hfaults⟩

/-- The methods of an accepted repository are the declared ones, each accepted by itself. -/
theorem TraitDecl.mem_methods_iff {decl : TraitDecl} {args : RepositoryArgs}
    {repository : RepositoryDef} (h : decl.accept args = .ok repository) {method : MethodDef} :
    method ∈ repository.methods ↔
      ∃ declared, TraitItem.method declared ∈ decl.items ∧ declared.accept = .ok method := by
  rw [(accept_eq_ok h).1, List.mem_filterMap]
  constructor
  · rintro ⟨item, hitem, hmethod⟩
    cases item with
    | other => cases hmethod
    | method declared =>
        refine ⟨declared, hitem, ?_⟩
        simp only [TraitItem.method?] at hmethod
        cases haccept : declared.accept with
        | error faults => rw [haccept] at hmethod; cases hmethod
        | ok found =>
            rw [haccept] at hmethod
            exact congrArg Except.ok (Option.some.inj hmethod)
  · rintro ⟨declared, hitem, haccept⟩
    exact ⟨.method declared, hitem, by rw [TraitItem.method?, haccept]; rfl⟩

theorem TraitDecl.exists_accept {decl : TraitDecl} {args : RepositoryArgs}
    {repository : RepositoryDef} (h : decl.accept args = .ok repository) {declared : MethodDecl}
    (hmem : TraitItem.method declared ∈ decl.items) : ∃ method, declared.accept = .ok method :=
  TraitItem.faults_method_eq_nil_iff.mp ((accept_eq_ok h).2 _ hmem)

/-- The column type of every type that the calling program lets stand for one, and whether it may
be `NULL`. -/
abbrev ColumnTypes := TypeExpr → Option (ValueType × Bool)

def ColumnTypes.host : ColumnTypes := fun type =>
  type.hostType?.map fun host => (host.valueType, host.nullable)

/-- The method that a listing registers where types are read as given. -/
def Listing.methodIn (types : ColumnTypes) (listing : Listing) : Option Method := do
  let params ← listing.params.mapM fun (param : TypeExpr × String) =>
    (types param.1).map fun column => (⟨param.2, column.1, column.2⟩ : Param)
  some {
    name := listing.name
    params
    shape := listing.shape
    template := listing.query.map (·.sql)
    modifying := (listing.query.map (·.modifying)).getD false
    skip := listing.skip }

theorem Listing.method?_eq (listing : Listing) : listing.method? = listing.methodIn .host := by
  have hparam : (fun param : TypeExpr × String => param.1.hostType?.map (Param.ofHost param.2)) =
      fun param => (ColumnTypes.host param.1).map fun column =>
        (⟨param.2, column.1, column.2⟩ : Param) := by
    funext param
    cases htype : param.1.hostType? <;> simp [ColumnTypes.host, Param.ofHost, htype]
  rw [method?, methodIn, hparam]
  cases listing.params.mapM fun param => (ColumnTypes.host param.1).map fun column =>
    (⟨param.2, column.1, column.2⟩ : Param) <;> rfl

/-- What a listing and the method that it registers have in common. -/
structure Listing.Registers (types : ColumnTypes) (listing : Listing) (method : Method) : Prop where
  name_eq : method.name = listing.name
  params : List.Forall₂ (fun param registered =>
    registered.name = param.2 ∧ types param.1 = some (registered.type, registered.nullable))
      listing.params method.params
  shape_eq : method.shape = listing.shape
  template_eq : method.template = listing.query.map (·.sql)
  skip_eq : method.skip = listing.skip

theorem Listing.registers_of_methodIn {types : ColumnTypes} {listing : Listing} {method : Method}
    (h : listing.methodIn types = some method) : listing.Registers types method := by
  obtain ⟨params, hparams, hmethod⟩ := Option.bind_eq_some_iff.mp h
  obtain rfl := Option.some.inj hmethod
  refine ⟨rfl, ?_, rfl, rfl, rfl⟩
  refine (mapM_eq_some_iff.mp hparams).imp fun param registered hregistered => ?_
  obtain ⟨column, hcolumn, rfl⟩ := Option.map_eq_some_iff.mp hregistered
  exact ⟨rfl, hcolumn⟩

/-- Parameters are registered under the names that they are listed with. -/
theorem Listing.Registers.paramNames {types : ColumnTypes} {listing : Listing} {method : Method}
    (h : listing.Registers types method) :
    method.params.map (·.name) = listing.params.map (·.2) := by
  rw [← List.forall₂_eq_eq_eq, List.forall₂_map_left_iff, List.forall₂_map_right_iff]
  exact h.params.flip.imp fun _ _ hparam => hparam.1

end QueryMethods
