import QueryMethods.Proofs.Declaration.QueryAttributes
import QueryMethods.Proofs.MethodName.Alignment

/-!
# Lawful methods

A declared method is lawful when its signature has one of the few forms that are understood, its
attributes agree with its body, and, without any of them, its name agrees with its parameters and
its result. The signature has no fault exactly when the method is lawful but for its name.
-/

namespace QueryMethods

/-- `&self`, perhaps with a lifetime. -/
inductive Code.SharedSelf : Code → Prop where
  | plain : SharedSelf [.mark '&', .word "self"]
  | lifetime (name : String) :
      SharedSelf [.mark '&', .mark '\'', .word name, .word "self"]

theorem isSharedSelf_iff {receiver : Code} :
    isSharedSelf receiver = true ↔ receiver.afterAttributes.SharedSelf := by
  unfold isSharedSelf
  constructor
  · intro h
    split at h
    case h_1 hcode => exact hcode ▸ .plain
    case h_2 name hcode => exact hcode ▸ .lifetime name
    case h_3 => cases h
  · intro h
    generalize receiver.afterAttributes = code at h
    cases h <;> rfl

/-- The pattern is an identifier, bound as it is, as mutable or by reference. -/
inductive Code.Binds (identifier : String) : Code → Prop where
  | own (hname : isName identifier = true) : Binds identifier [.word identifier]
  | mutable (hname : isName identifier = true) : Binds identifier [.word "mut", .word identifier]
  | reference (hname : isName identifier = true ∨ identifier = "self") :
      Binds identifier [.word "ref", .word identifier]
  | mutableReference (hname : isName identifier = true ∨ identifier = "self") :
      Binds identifier [.word "ref", .word "mut", .word identifier]

theorem plainPattern?_eq_some_iff {pattern : Code} {identifier : String} :
    plainPattern? pattern = some identifier ↔ pattern.afterAttributes.Binds identifier := by
  unfold plainPattern?
  constructor
  · intro h
    split at h
    case h_1 text hcode =>
      obtain ⟨hname, ⟨⟩⟩ := Option.ite_none_right_eq_some.mp h
      exact hcode ▸ .own hname
    case h_2 text hcode =>
      obtain ⟨hname, ⟨⟩⟩ := Option.ite_none_right_eq_some.mp h
      exact hcode ▸ .mutable hname
    case h_3 text hcode =>
      obtain ⟨hname, ⟨⟩⟩ := Option.ite_none_right_eq_some.mp h
      exact hcode ▸ .reference hname
    case h_4 text hcode =>
      obtain ⟨hname, ⟨⟩⟩ := Option.ite_none_right_eq_some.mp h
      exact hcode ▸ .mutableReference hname
    case h_5 => cases h
  · intro h
    generalize pattern.afterAttributes = code at h
    cases h <;> simp_all

namespace TypeExpr

/-- A path, in `owner` if any, that ends in `name` with a first argument. -/
def Applies (type : TypeExpr) (owner : Option TypeExpr) (name : String) (first : TypeExpr) : Prop :=
  ∃ path rest, type = .path owner path (some (first :: rest)) ∧ path.last? = some name

theorem argumentOf?_eq_some_iff {type first : TypeExpr} {name : String} :
    type.argumentOf? name = some first ↔ type.Applies none name first := by
  constructor
  · intro h
    unfold argumentOf? at h
    split at h
    case h_1 path found rest =>
      obtain ⟨hname, ⟨⟩⟩ := Option.ite_none_right_eq_some.mp h
      exact ⟨path, rest, rfl, hname⟩
    case h_2 => cases h
  · rintro ⟨path, rest, rfl, hname⟩
    exact if_pos hname

/-- A `Result`, and the type in it. -/
def IsResult (type ok : TypeExpr) : Prop :=
  type.Applies none "Result" ok

/-- What a type says about the number of rows. -/
inductive HasShape : Shape → TypeExpr → Prop where
  | optional {type inner : TypeExpr} (h : type.Applies none "Option" inner) :
      HasShape .optional type
  | list {type inner : TypeExpr} (h : type.Applies none "Vec" inner) : HasShape .list type
  | scalar {type : TypeExpr} (hoption : ∀ inner, ¬ type.Applies none "Option" inner)
      (hvec : ∀ inner, ¬ type.Applies none "Vec" inner) : HasShape .scalar type

theorem Applies.name_unique {type first other : TypeExpr} {owner : Option TypeExpr}
    {name second : String} (h : type.Applies owner name first)
    (h' : type.Applies owner second other) : name = second := by
  obtain ⟨path, rest, rfl, hname⟩ := h
  obtain ⟨path', rest', heq, hname'⟩ := h'
  obtain ⟨-, rfl, -⟩ := TypeExpr.path.inj heq
  exact Option.some.inj (hname.symm.trans hname')

theorem shape_classify_iff {type : TypeExpr} {shape : Shape} :
    (Returns.classify type).shape = shape ↔ type.HasShape shape := by
  unfold Returns.classify
  split
  case h_1 hoption =>
    have happlies := argumentOf?_eq_some_iff.mp hoption
    constructor
    · rintro rfl
      exact .optional happlies
    · intro h
      cases h with
      | optional => rfl
      | list hlist => exact absurd (happlies.name_unique hlist) (by decide)
      | scalar hnone => exact absurd happlies (hnone _)
  case h_2 hvec =>
    have happlies := argumentOf?_eq_some_iff.mp hvec
    constructor
    · rintro rfl
      exact .list happlies
    · intro h
      cases h with
      | optional hoption => exact absurd (hoption.name_unique happlies) (by decide)
      | list => rfl
      | scalar _ hnone => exact absurd happlies (hnone _)
  case h_3 hoption hvec =>
    have hnone (inner : TypeExpr) : ¬ type.Applies none "Option" inner := fun h =>
      nomatch hoption.symm.trans (argumentOf?_eq_some_iff.mpr h)
    have hnone' (inner : TypeExpr) : ¬ type.Applies none "Vec" inner := fun h =>
      nomatch hvec.symm.trans (argumentOf?_eq_some_iff.mpr h)
    constructor
    · rintro rfl
      exact .scalar hnone hnone'
    · intro h
      cases h with
      | optional h => exact absurd h (hnone _)
      | list h => exact absurd h (hnone' _)
      | scalar => rfl

end TypeExpr

namespace MethodDecl

/-- An attribute of this name stands at the method. -/
def Has (decl : MethodDecl) (name : String) : Prop :=
  ∃ attr ∈ decl.attributes, attr.name = name

/-- The name parses, and its fields are the parameters in their order and its verb demands the
shape of the result. -/
def Named (IsResult : TypeExpr → TypeExpr → Prop) (decl : MethodDecl) : Prop :=
  ∃ name output ok, MethodName.parse (plainName decl.name) = .ok (some name) ∧
    List.Forall₂ (fun field (param : Code × TypeExpr) => ∃ identifier,
      param.1.afterAttributes.Binds identifier ∧
        sameName field (plainName identifier) = true) name.fields decl.params ∧
    decl.returns = some output ∧ IsResult output ok ∧ ok.HasShape name.verb.shape

/-- The rules for a method apart from its name, whatever counts as the result of which type. -/
structure LawfulSignature (IsResult : TypeExpr → TypeExpr → Prop) (decl : MethodDecl) : Prop where
  isAsync : decl.isAsync = true
  notGeneric : decl.generics = []
  receiver : ∃ receiver, decl.receiver = some receiver ∧ receiver.afterAttributes.SharedSelf
  params : ∀ param ∈ decl.params, ∃ identifier, param.1.afterAttributes.Binds identifier
  returns : ∃ output ok, decl.returns = some output ∧ IsResult output ok
  query : ∀ attr, decl.attributes.find? (·.name == "query") = some attr →
    ∃ given query, attr.form = .list given ∧ QueryAttribute.WrittenBy given query
  notBoth : ¬ (decl.Has "skip" ∧ decl.Has "query")
  body : decl.body.isSome = true ↔ decl.Has "skip"

/-- The rules for a method. Only a name that nothing else stands for is looked into. -/
structure Lawful (IsResult : TypeExpr → TypeExpr → Prop) (decl : MethodDecl) : Prop
    extends LawfulSignature IsResult decl where
  named : ¬ decl.Has "skip" → ¬ decl.Has "query" → decl.Named IsResult

variable {decl : MethodDecl}

theorem isSkipped_iff : decl.isSkipped = true ↔ decl.Has "skip" := by
  simp [isSkipped, Has]

theorem returnedOk?_eq_some_iff {ok : TypeExpr} :
    decl.returnedOk? = some ok ↔ ∃ output, decl.returns = some output ∧ output.IsResult ok := by
  rw [returnedOk?, Option.bind_eq_some_iff]
  exact exists_congr fun output => and_congr_right fun _ => TypeExpr.argumentOf?_eq_some_iff

theorem has_query_iff :
    decl.Has "query" ↔ ∃ attr, decl.attributes.find? (·.name == "query") = some attr := by
  rw [← Option.isSome_iff_exists, List.find?_isSome]
  simp [Has]

theorem ownParams_of_receiver {receiver : Code} (h : decl.receiver = some receiver) :
    decl.ownParams = decl.params := by
  rw [ownParams, h]

theorem exists_read_of_queryFaults (h : decl.queryFaults = []) {attr : Attribute}
    (hattr : decl.attributes.find? (·.name == "query") = some attr) :
    ∃ query, QueryAttribute.read attr.form = .ok query := by
  cases hread : QueryAttribute.read attr.form with
  | ok query => exact ⟨query, rfl⟩
  | error faults =>
      simp only [queryFaults, query, hattr, hread, Except.map, List.map_eq_nil_iff] at h
      exact absurd (h ▸ hread) (QueryAttribute.read_ne_error_nil attr.form)

theorem queryFaults_eq_nil_iff :
    decl.queryFaults = [] ↔ ∀ attr, decl.attributes.find? (·.name == "query") = some attr →
      ∃ given query, attr.form = .list given ∧ QueryAttribute.WrittenBy given query := by
  constructor
  · intro h attr hattr
    obtain ⟨query, hread⟩ := exists_read_of_queryFaults h hattr
    obtain ⟨given, hgiven⟩ := QueryAttribute.read_eq_ok_iff.mp hread
    exact ⟨given, query, hgiven⟩
  · intro h
    cases hattr : decl.attributes.find? (·.name == "query") with
    | none => simp [queryFaults, query, hattr]
    | some attr =>
        obtain ⟨given, query, hgiven⟩ := h attr hattr
        have hread := QueryAttribute.read_eq_ok_iff.mpr ⟨given, hgiven⟩
        simp [queryFaults, MethodDecl.query, hattr, hread, Except.map]

theorem isSome_query?_iff (h : decl.queryFaults = []) :
    decl.query?.isSome = true ↔ decl.Has "query" := by
  rw [has_query_iff]
  cases hattr : decl.attributes.find? (·.name == "query") with
  | none => simp [query?, query, hattr, Except.toOption]
  | some attr =>
      obtain ⟨found, hread⟩ := exists_read_of_queryFaults h hattr
      simp [query?, query, hattr, hread, Except.map, Except.toOption]

theorem isSharedSelf_receiver_iff : decl.receiver.any isSharedSelf = true ↔
    ∃ receiver, decl.receiver = some receiver ∧ receiver.afterAttributes.SharedSelf := by
  cases decl.receiver <;> simp [isSharedSelf_iff]

theorem patternFaults_eq_nil_iff {receiver : Code} (h : decl.receiver = some receiver) :
    (decl.ownParams.filter fun param => (plainPattern? param.1).isNone).map
        (fun _ => DeclarationFault.pattern) = [] ↔
      ∀ param ∈ decl.params, ∃ identifier, param.1.afterAttributes.Binds identifier := by
  rw [ownParams_of_receiver h, List.map_eq_nil_iff, List.filter_eq_nil_iff]
  simp [← plainPattern?_eq_some_iff, ← Option.isSome_iff_exists, Option.isSome_iff_ne_none]

theorem returnedOk?_isNone_eq_false_iff : decl.returnedOk?.isNone = false ↔
    ∃ output ok, decl.returns = some output ∧ output.IsResult ok := by
  rw [Option.isNone_eq_false_iff, Option.isSome_iff_exists, exists_comm]
  simp only [returnedOk?_eq_some_iff]

/-- The rules on bodies and on attributes that exclude each other, as they are checked. -/
theorem attributeFaults_eq_nil_iff (h : decl.queryFaults = []) :
    ((decl.isSkipped && decl.query?.isSome) = false ∧ (decl.isSkipped && decl.body.isNone) = false ∧
      (!decl.isSkipped && decl.body.isSome) = false) ↔
      ¬ (decl.Has "skip" ∧ decl.Has "query") ∧ (decl.body.isSome = true ↔ decl.Has "skip") := by
  rw [← isSkipped_iff, ← isSome_query?_iff h]
  cases decl.isSkipped <;> cases decl.query? <;> cases decl.body <;> simp

/-- **The signature has no fault exactly when it is lawful.** -/
theorem signatureFaults_eq_nil_iff :
    decl.signatureFaults = [] ↔ decl.LawfulSignature TypeExpr.IsResult := by
  simp only [signatureFaults, List.append_eq_nil_iff, faultIf_eq_nil_iff, Bool.not_eq_false',
    isSharedSelf_receiver_iff, returnedOk?_isNone_eq_false_iff, List.isEmpty_iff, and_assoc]
  constructor
  · rintro ⟨hasync, hgeneric, hreceiver, hparams, hreturns, hquery, hattributes⟩
    have ⟨receiver, hsome, _⟩ := hreceiver
    obtain ⟨hboth, hbody⟩ := (attributeFaults_eq_nil_iff hquery).mp hattributes
    exact ⟨hasync, hgeneric, hreceiver, (patternFaults_eq_nil_iff hsome).mp hparams, hreturns,
      queryFaults_eq_nil_iff.mp hquery, hboth, hbody⟩
  · intro h
    obtain ⟨receiver, hreceiver, hshared⟩ := h.receiver
    have hquery := queryFaults_eq_nil_iff.mpr h.query
    exact ⟨h.isAsync, h.notGeneric, h.receiver, (patternFaults_eq_nil_iff hreceiver).mpr h.params,
      h.returns, hquery, (attributeFaults_eq_nil_iff hquery).mpr ⟨h.notBoth, h.body⟩⟩

end MethodDecl

end QueryMethods
