import QueryMethods.Proofs.Declaration.Accepted

/-!
# What registration code builds

Registration code is a chain of calls of the library, one for each thing that it says of a method.
The rules below give such code its meaning call by call, wherever it comes from. The code of a
listing builds the method that the listing registers.
-/

namespace QueryMethods

/-- Code of a vector, whose items are evaluated one by one. -/
inductive IsVector {α : Type} (IsItem : Code → α → Prop) : Code → List α → Prop where
  | items {items : List Code} {values : List α} (h : List.Forall₂ IsItem items values) :
      IsVector IsItem (code "::std::vec!" ++ inBrackets (commaSeparated items)) values

inductive IsShape : Code → Shape → Prop where
  | optional : IsShape (support "ResultShape" ++ Path.separator ++ [.word "OptionalSingle"]) .optional
  | list : IsShape (support "ResultShape" ++ Path.separator ++ [.word "List"]) .list
  | scalar : IsShape (support "ResultShape" ++ Path.separator ++ [.word "Scalar"]) .scalar

inductive IsFlag : Code → Bool → Prop where
  | true : IsFlag [.word "true"] true
  | false : IsFlag [.word "false"] false

/-- A method is built from its name. Each further call sets one field, or adds a parameter whose
column is that of a type of the calling program. -/
inductive Builds (types : ColumnTypes) : Code → Method → Prop where
  | new (name : String) :
      Builds types (support "MethodDescriptor" ++ code "::new" ++ inParens [.literal name]) { name }
  | paramOf {built : Code} {method : Method} {type : TypeExpr} {column : ValueType × Bool}
      (name : String) (h : Builds types built method) (htype : types type = some column) :
      Builds types (built ++ code ".param_of::" ++ inAngles type.code ++ inParens [.literal name])
        { method with params := method.params ++ [⟨name, column.1, column.2⟩] }
  | returns {built constant : Code} {method : Method} {shape : Shape}
      (h : Builds types built method) (hshape : IsShape constant shape) :
      Builds types (built ++ code ".returns" ++ inParens constant) { method with shape }
  | query {built : Code} {method : Method} (sql : String) (h : Builds types built method) :
      Builds types (built ++ code ".query" ++ inParens [.literal sql])
        { method with template := some sql }
  | modifying {built constant : Code} {method : Method} {flag : Bool}
      (h : Builds types built method) (hflag : IsFlag constant flag) :
      Builds types (built ++ code ".modifying" ++ inParens constant)
        { method with modifying := flag }
  | skip {built : Code} {method : Method} (h : Builds types built method) :
      Builds types (built ++ code ".skip()") { method with skip := true }

theorem isShape_shapeCode (shape : Shape) : IsShape (Listing.shapeCode shape) shape := by
  cases shape with
  | optional => exact .optional
  | list => exact .list
  | scalar => exact .scalar

theorem isFlag_toString (flag : Bool) : IsFlag [.word (toString flag)] flag := by
  cases flag with
  | true => exact .true
  | false => exact .false

variable {types : ColumnTypes} {built : Code} {method : Method}

theorem Builds.params (h : Builds types built method) {params : List (TypeExpr × String)}
    {registered : List Param}
    (hparams : List.Forall₂ (fun param registered => ∃ column, types param.1 = some column ∧
      (⟨param.2, column.1, column.2⟩ : Param) = registered) params registered) :
    Builds types (built ++ params.flatMap Listing.paramCode)
      { method with params := method.params ++ registered } := by
  induction hparams generalizing built method with
  | nil =>
      rw [List.flatMap_nil, List.append_nil, List.append_nil]
      exact h
  | @cons param first params registered hparam _ ih =>
      obtain ⟨column, hcolumn, rfl⟩ := hparam
      have hcode : built ++ Listing.paramCode param =
          built ++ code ".param_of::" ++ inAngles param.1.code ++ inParens [.literal param.2] := by
        simp only [Listing.paramCode, List.append_assoc]
      rw [List.flatMap_cons, ← List.append_assoc, hcode, List.append_cons]
      exact ih (h.paramOf param.2 hcolumn)

theorem Builds.queried (h : Builds types built method) (query : QueryAttribute) :
    Builds types (built ++ Listing.queryCode query)
      { method with template := some query.sql, modifying := query.modifying } := by
  have hcode : built ++ Listing.queryCode query =
      built ++ code ".query" ++ inParens [.literal query.sql] ++
        code ".modifying" ++ inParens [.word (toString query.modifying)] := by
    simp only [Listing.queryCode, List.append_assoc]
  rw [hcode]
  exact (h.query query.sql).modifying (isFlag_toString query.modifying)

namespace Listing

variable {listing : Listing}

/-- The code of a listing builds the method that the listing registers. -/
theorem builds_print (h : listing.methodIn types = some method) :
    Builds types listing.print method := by
  obtain ⟨params, hparams, hmethod⟩ := Option.bind_eq_some_iff.mp h
  obtain rfl := Option.some.inj hmethod
  have hlisted := mapM_eq_some_iff.mp hparams
  simp only [Option.map_eq_some_iff] at hlisted
  have hnew : Builds types _ _ := .new listing.name
  have hnamed := hnew.params hlisted
  have hshaped := hnamed.returns (isShape_shapeCode listing.shape)
  have hqueried : Builds types (support "MethodDescriptor" ++ QueryMethods.code "::new" ++
      inParens [.literal listing.name] ++ listing.params.flatMap paramCode ++
      QueryMethods.code ".returns" ++ inParens (shapeCode listing.shape) ++
      (listing.query.map queryCode).getD [])
      { name := listing.name
        params
        shape := listing.shape
        template := listing.query.map (·.sql)
        modifying := (listing.query.map (·.modifying)).getD false } := by
    cases listing.query with
    | none =>
        rw [Option.map_none, Option.getD_none, List.append_nil]
        exact hshaped
    | some query => exact hshaped.queried query
  rw [print]
  cases listing.skip with
  | false =>
      rw [if_neg Bool.false_ne_true, List.append_nil]
      exact hqueried
  | true =>
      rw [if_pos rfl]
      exact hqueried.skip

theorem builds_method? (h : listing.method? = some method) : Builds .host listing.print method := by
  rw [method?_eq] at h
  exact builds_print h

end Listing

theorem infix_inBraces (body : Code) : body <:+: inBraces body :=
  ⟨[.mark '{'], [.mark '}'], rfl⟩

/-- The function that lists the methods of a repository. -/
inductive ListsMethods (types : ColumnTypes) : Code → List Method → Prop where
  | function {body : Code} {methods : List Method} (h : IsVector (Builds types) body methods) :
      ListsMethods types (code "fn methods() -> ::std::vec::Vec" ++
        inAngles (support "MethodDescriptor") ++ inBraces body) methods

/-- A repository lists its methods for registration, each as its listing registers it. -/
theorem RepositoryDef.exists_listsMethods {repository : RepositoryDef} {methods : List Method}
    (h : repository.listings.mapM (Listing.methodIn types) = some methods) :
    ∃ function, ListsMethods types function methods ∧
      function <:+: repository.registrationCode := by
  have hitems : List.Forall₂ (Builds types) (repository.listings.map Listing.print) methods := by
    rw [List.forall₂_map_left_iff]
    exact (mapM_eq_some_iff.mp h).imp fun listing method hmethod => listing.builds_print hmethod
  refine ⟨_, .function (.items hitems), ?_⟩
  apply List.IsInfix.trans (List.suffix_append _ _).isInfix
  apply List.IsInfix.trans (infix_inBraces _)
  exact (List.suffix_append _ _).isInfix

end QueryMethods
