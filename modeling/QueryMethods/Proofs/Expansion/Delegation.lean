import QueryMethods.Proofs.Expansion.Registration

/-!
# What delegation code does

A generated method runs on the values of its parameters: each is looked up under its own name and
encoded, the registry is called, and what comes back is read by the code that follows. The rules
below are those of the language and of the library, and by them the code of a method runs as its
typed call does.
-/

namespace QueryMethods

/-- A value of the calling program. -/
structure TypedValue where
  type : HostType
  value : type.Carrier

def TypedValue.encode (typed : TypedValue) : Value :=
  typed.type.encode typed.value

def HostValues.typed : (types : List HostType) → HostValues types → List TypedValue
  | [], _ => []
  | type :: rest, (value, values) => ⟨type, value⟩ :: typed rest values

/-- An argument is the value of a variable, as the database takes it. -/
inductive IsArgument (scope : List (String × TypedValue)) : Code → Value → Prop where
  | toValue {identifier : String} {value : TypedValue}
      (h : scope.lookup identifier = some value) :
      IsArgument scope
        (support "ToValue" ++ code "::to_value" ++ inParens [.mark '&', .word identifier])
        value.encode

/-- A call of the registry names a method and gives the values of its arguments. -/
inductive IsCall (scope : List (String × TypedValue)) : Code → String → List Value → Prop where
  | call {arguments : Code} {values : List Value} (name : String)
      (h : IsVector (IsArgument scope) arguments values) :
      IsCall scope
        (support "RepositoryHandle" ++ code "::call" ++
          inParens ([.word "self", .mark ',', .literal name, .mark ','] ++ arguments)) name values

inductive ReadsRow : {α : Type} → Code → (Row → Except DecodeError α) → Prop where
  | first {type : TypeExpr} {result : ResultType} (htype : type.resultType? = some result) :
      ReadsRow (code "|row: &" ++ support "Row" ++ code "| row.first::" ++ inAngles type.code ++
        inParens []) fun row => row.first result.decode

/-- Code that reads an output, where the entity goes by the last word of its path. -/
inductive ReadsOutput (path : Path) (entity : EntityType) :
    {α : Type} → Code → (Output → Except DecodeError α) → Prop where
  | entity {type : TypeExpr} (htype : type.names path = true) :
      ReadsOutput path entity
        ([.word "output", .mark '.', .word "into_entity"] ++ Path.separator ++
          inAngles type.code ++ inParens []) fun output => output.toOptional entity.ofRow
  | entities {type : TypeExpr} (htype : type.names path = true) :
      ReadsOutput path entity
        ([.word "output", .mark '.', .word "into_entities"] ++ Path.separator ++
          inAngles type.code ++ inParens []) fun output => output.toList entity.ofRow
  | optional {α : Type} {closure : Code} {read : Row → Except DecodeError α}
      (h : ReadsRow closure read) :
      ReadsOutput path entity
        ([.word "output", .mark '.', .word "into_optional"] ++ inParens closure)
        fun output => output.toOptional read
  | list {α : Type} {closure : Code} {read : Row → Except DecodeError α}
      (h : ReadsRow closure read) :
      ReadsOutput path entity
        ([.word "output", .mark '.', .word "into_list"] ++ inParens closure)
        fun output => output.toList read
  | scalar {type : TypeExpr} {result : ResultType} (htype : type.resultType? = some result) :
      ReadsOutput path entity
        ([.word "output", .mark '.', .word "into_scalar"] ++ Path.separator ++
          inAngles type.code ++ inParens []) fun output => output.toScalar result.decode

/-- What a body gives back that awaits a call and reads its output. A call that is dropped gives
nothing back; a failed call, and an output that cannot be read, end the body with their error. -/
inductive GivesBack {α : Type} (read : Output → Except DecodeError α) :
    Outcome → Option (Except Error α) → Prop where
  | dropped : GivesBack read .cancelled none
  | failed (error : Error) : GivesBack read (.finished (.error error)) (some (.error error))
  | unreadable {output : Output} {error : DecodeError} (h : read output = .error error) :
      GivesBack read (.finished (.ok output)) (some (.error (.decode error)))
  | read {output : Output} {value : α} (h : read output = .ok value) :
      GivesBack read (.finished (.ok output)) (some (.ok value))

section

variable (path : Path) (entity : EntityType) (registry : Registry) (database : Database)
  (repository : String)

/-- Runs of the body of a method, on the variables that its parameters bind. -/
inductive RunsBody (scope : List (String × TypedValue)) :
    {α : Type} → Code → TypedRun α → Prop where
  | awaits {α : Type} {call reader : Code} {name : String} {values : List Value}
      {read : Output → Except DecodeError α} {result : Option (Except Error α)} {run : Run}
      (hcall : IsCall scope call name values)
      (hrun : registry.invoke database ⟨repository, name⟩ values = run)
      (hreader : ReadsOutput path entity reader read)
      (hresult : GivesBack read run.outcome result) :
      RunsBody scope
        (code "let output =" ++ call ++ code ".await?;" ++ code "::core::result::Result::Ok" ++
          inParens (reader ++ [.mark '?'])) ⟨result, run.events, run.notices⟩

/-- Runs of a method by its name. Its parameters have names of their own, and each takes a value of
its declared type. -/
inductive RunsMethod : {α : Type} → Code → String → List TypedValue → TypedRun α → Prop where
  | method {α : Type} {identifier : String} {params : List (String × TypeExpr)}
      {output : TypeExpr} {body : Code} {args : List TypedValue} {run : TypedRun α}
      (hdistinct : (params.map (·.1)).Nodup)
      (hargs : List.Forall₂ (fun param (arg : TypedValue) => param.2.hostType? = some arg.type)
        params args)
      (hbody : RunsBody path entity registry database repository
        ((params.map (·.1)).zip args) body run) :
      RunsMethod
        ([.word "async", .word "fn", .word identifier] ++
          inParens (code "&self," ++ commaSeparated (params.map fun (identifier, type) =>
            .word identifier :: .mark ':' :: type.code)) ++
          code "->" ++ output.code ++ inBraces body) identifier args run

end

namespace HostValues

theorem encode_eq_map (types : List HostType) (args : HostValues types) :
    encode types args = (typed types args).map TypedValue.encode := by
  induction types with
  | nil => rfl
  | cons type rest ih =>
      obtain ⟨value, values⟩ := args
      rw [encode, typed, List.map_cons, ih]
      rfl

theorem map_type_typed (types : List HostType) (args : HostValues types) :
    (typed types args).map (·.type) = types := by
  induction types with
  | nil => rfl
  | cons type rest ih =>
      obtain ⟨value, values⟩ := args
      rw [typed, List.map_cons, ih]

end HostValues

/-- Each of several distinct names has the value that it is bound to. -/
theorem lookup_zip_of_nodup {names : List String} {values : List TypedValue}
    (hdistinct : names.Nodup) {name : String} {value : TypedValue}
    (hmem : (name, value) ∈ names.zip values) : (names.zip values).lookup name = some value := by
  induction names generalizing values with
  | nil => cases hmem
  | cons first names ih =>
      obtain ⟨hfirst, hrest⟩ := List.nodup_cons.mp hdistinct
      cases values with
      | nil => cases hmem
      | cons bound values =>
          rw [List.zip_cons_cons] at hmem ⊢
          rcases List.mem_cons.mp hmem with heq | hlater
          · obtain ⟨rfl, rfl⟩ := Prod.mk.inj heq
            exact List.lookup_cons_self
          · have hname : name ∈ names := (List.of_mem_zip hlater).1
            have hne : (name == first) = false := by
              rw [beq_eq_false_iff_ne]
              rintro rfl
              exact hfirst hname
            rw [List.lookup_cons, hne]
            exact ih hrest hlater

namespace Delegate

def argumentsCode (delegate : Delegate) : Code :=
  code "::std::vec!" ++ inBrackets (commaSeparated (delegate.params.map fun (identifier, _) =>
    support "ToValue" ++ code "::to_value" ++ inParens [.mark '&', .word identifier]))

def callCode (delegate : Delegate) : Code :=
  support "RepositoryHandle" ++ code "::call" ++
    inParens ([.word "self", .mark ',', .literal delegate.name, .mark ','] ++
      delegate.argumentsCode)

theorem print_eq (delegate : Delegate) :
    delegate.print = [.word "async", .word "fn", .word delegate.identifier] ++
      inParens (code "&self," ++ commaSeparated (delegate.params.map fun (identifier, type) =>
        .word identifier :: .mark ':' :: type.code)) ++
      code "->" ++ delegate.output.code ++
      inBraces (code "let output =" ++ delegate.callCode ++ code ".await?;" ++
        code "::core::result::Result::Ok" ++ inParens (delegate.reader.print ++ [.mark '?'])) := by
  simp only [print, callCode, argumentsCode, List.append_assoc]

/-- Arguments are encoded under the names of their parameters, in the order of declaration. -/
theorem isCall_callCode (delegate : Delegate) {args : List TypedValue}
    (hdistinct : (delegate.params.map (·.1)).Nodup)
    (hlength : delegate.params.length = args.length) :
    IsCall ((delegate.params.map (·.1)).zip args) delegate.callCode delegate.name
      (args.map TypedValue.encode) := by
  apply IsCall.call
  apply IsVector.items
  have hlookup : List.Forall₂
      (fun name value => ((delegate.params.map (·.1)).zip args).lookup name = some value)
      (delegate.params.map (·.1)) args := by
    rw [List.forall₂_iff_zip]
    exact ⟨by rw [List.length_map, hlength], fun hmem => lookup_zip_of_nodup hdistinct hmem⟩
  rw [List.forall₂_map_left_iff, List.forall₂_map_right_iff]
  rw [List.forall₂_map_left_iff] at hlookup
  exact hlookup.imp fun param value hvalue => .toValue hvalue

end Delegate

theorem givesBack {α : Type} (read : Output → Except DecodeError α) (outcome : Outcome) :
    GivesBack read outcome (match outcome with
      | .cancelled => none
      | .finished (.error error) => some (.error error)
      | .finished (.ok output) => some ((read output).mapError .decode)) := by
  cases outcome with
  | cancelled => exact .dropped
  | finished result =>
      cases result with
      | error error => exact .failed error
      | ok output =>
          cases hread : read output with
          | error error =>
              simp only [hread]
              exact .unreadable hread
          | ok value =>
              simp only [hread]
              exact .read hread

variable {path : Path} {entity : EntityType}

/-- The code that a declared result is read by reads it as its type says. -/
theorem readsOutput_ofReturns {returns : Returns} {reader : TypedReader}
    (h : (OutputReader.ofReturns path returns).typed? = some reader) :
    ReadsOutput path entity (OutputReader.ofReturns path returns).print (reader.read entity) := by
  cases returns with
  | scalar type =>
      obtain ⟨result, hresult, rfl⟩ := Option.map_eq_some_iff.mp h
      exact .scalar hresult
  | optional inner =>
      rw [OutputReader.ofReturns] at h ⊢
      split at h
      case isTrue hnames =>
        obtain rfl := Option.some.inj h
        rw [if_pos hnames]
        exact .entity hnames
      case isFalse hnames =>
        obtain ⟨result, hresult, rfl⟩ := Option.map_eq_some_iff.mp h
        rw [if_neg hnames]
        exact .optional (.first hresult)
  | list inner =>
      rw [OutputReader.ofReturns] at h ⊢
      split at h
      case isTrue hnames =>
        obtain rfl := Option.some.inj h
        rw [if_pos hnames]
        exact .entities hnames
      case isFalse hnames =>
        obtain ⟨result, hresult, rfl⟩ := Option.map_eq_some_iff.mp h
        rw [if_neg hnames]
        exact .list (.first hresult)

/-- The code of a method runs as its typed call does, whatever the registry and the database. -/
theorem MethodDef.runsMethod_print {method : MethodDef} {typed : TypedMethod}
    (h : (method.delegate path).typed? = some typed)
    (hdistinct : (method.params.map (·.1)).Nodup) (registry : Registry) (database : Database)
    (repository : String) (args : HostValues typed.params) :
    RunsMethod path entity registry database repository (method.delegate path).print
      method.identifier (HostValues.typed typed.params args)
      (typed.call entity registry database repository args) := by
  obtain ⟨types, htypes, hrest⟩ := Option.bind_eq_some_iff.mp h
  obtain ⟨reader, hreader, hmethod⟩ := Option.bind_eq_some_iff.mp hrest
  obtain rfl := Option.some.inj hmethod
  have hargs : List.Forall₂
      (fun (param : String × TypeExpr) (arg : TypedValue) => param.2.hostType? = some arg.type)
      method.params (HostValues.typed types args) := by
    have hdeclared := mapM_eq_some_iff.mp htypes
    rw [← HostValues.map_type_typed types args, List.forall₂_map_right_iff] at hdeclared
    exact hdeclared
  have hcall := (method.delegate path).isCall_callCode hdistinct hargs.length_eq
  rw [← HostValues.encode_eq_map] at hcall
  rw [Delegate.print_eq]
  apply RunsMethod.method hdistinct hargs
  exact .awaits hcall rfl (readsOutput_ofReturns hreader) (givesBack _ _)

/-- Every method with a generated body is part of the implementation. -/
theorem RepositoryDef.print_infix_delegationCode {repository : RepositoryDef} {method : MethodDef}
    (hmem : method ∈ repository.methods) (hskip : method.skip = false) :
    (method.delegate repository.entity).print <:+: repository.delegationCode := by
  have hdelegate : method.delegate repository.entity ∈ repository.delegates := by
    apply List.mem_map_of_mem
    rw [List.mem_filter, hskip]
    exact ⟨hmem, rfl⟩
  have hbody : (method.delegate repository.entity).print <:+:
      repository.delegates.flatMap Delegate.print :=
    List.infix_of_mem_flatten (List.mem_map_of_mem hdelegate)
  apply hbody.trans
  apply List.IsInfix.trans (infix_inBraces _)
  exact (List.suffix_append _ _).isInfix

end QueryMethods
