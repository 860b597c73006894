import QueryMethods.Declaration.Attribute
import QueryMethods.Declaration.Type
import QueryMethods.MethodName.Parser

/-!
# Declared repositories

A trait declares a repository: every method is asynchronous, takes `&self` and plain parameters, and
returns a `Result`. A method with neither a template nor a body of its own is derived from its name,
which is held to the same rules as at registration.
-/

namespace QueryMethods

structure MethodDecl where
  attributes : List Attribute := []
  isAsync : Bool := true
  name : String
  generics : List Code := []
  receiver : Option Code
  params : List (Code × TypeExpr) := []
  returns : Option TypeExpr
  body : Option Code := none

inductive TraitItem where
  | method (decl : MethodDecl)
  | other

structure TraitDecl where
  attributes : List Attribute := []
  head : TraitHead := ⟨[], [], []⟩
  name : String
  generics : List Code := []
  tail : TraitTail := ⟨[], []⟩
  items : List TraitItem := []

/-- What is wrong with a declaration. -/
inductive DeclarationFault where
  | argument (fault : AttributeFault)
  | genericTrait
  | foreignItem
  | notAsync
  | genericMethod
  | receiver
  | pattern
  | returnType
  | skipWithQuery
  | skipWithoutBody
  | bodyWithoutSkip
  | name (method : String) (fault : NameFault)
  | noVerb (method : String)
  | genericEntity
  | unnamedFields
  | union
deriving DecidableEq

def DeclarationFault.message : DeclarationFault → String
  | .argument fault => fault.message
  | .genericTrait => "repository traits cannot be generic"
  | .foreignItem => "repository traits may only contain methods"
  | .notAsync => "repository methods must be `async`"
  | .genericMethod => "repository methods cannot be generic"
  | .receiver => "repository methods must take `&self`"
  | .pattern => "parameters must be plain identifiers"
  | .returnType => "repository methods must return `Result<T, E>`"
  | .skipWithQuery => "`#[skip]` and `#[query]` cannot be combined"
  | .skipWithoutBody => "`#[skip]` methods need a default body"
  | .bodyWithoutSkip => "generated methods cannot have a body; add `#[skip]` to keep it"
  | .name method fault => "`" ++ method ++ "`: " ++ fault.message
  | .noVerb method =>
      "`" ++ method ++ "` has no query prefix (find_by_, get_by_, find_all_by_, get_all_by_, " ++
        "count_by_); add `#[query(sql = \"...\")]` or `#[skip]`"
  | .genericEntity => "Entity cannot be derived for generic structs"
  | .unnamedFields => "Entity requires named fields"
  | .union => "Unions are not supported"

/-- The template of a method, and whether it is committed. -/
structure QueryAttribute where
  sql : String
  modifying : Bool
deriving DecidableEq

namespace QueryAttribute

def keys : List KnownKey :=
  [.of "modifying" ArgumentReader.flag false, .of "sql" ArgumentReader.text true]

def read : AttributeForm → Except (List AttributeFault) QueryAttribute
  | .word => .error [.unexpectedFormat "word"]
  | .value literal => .error [.unexpectedType literal.kind]
  | .list given =>
      let arguments := readArguments given
      match argumentFaults keys [] arguments with
      | [] => .ok {
          sql := (readArgument? ArgumentReader.text "sql" arguments).getD ""
          modifying := (readArgument? ArgumentReader.flag "modifying" arguments).getD false }
      | faults => .error faults

end QueryAttribute

/-- What a method returns: an option or a list of rows, or one value. -/
inductive Returns where
  | optional (inner : TypeExpr)
  | list (inner : TypeExpr)
  | scalar (type : TypeExpr)

namespace Returns

def classify (type : TypeExpr) : Returns :=
  match type.optionInner?, type.vecInner? with
  | some inner, _ => .optional inner
  | none, some inner => .list inner
  | none, none => .scalar type

def shape : Returns → Shape
  | .optional _ => .optional
  | .list _ => .list
  | .scalar _ => .scalar

end Returns

/-- A method of an accepted repository. Its parameters are identifiers with their types. -/
structure MethodDef where
  identifier : String
  params : List (String × TypeExpr)
  output : TypeExpr
  returns : Returns
  query : Option QueryAttribute
  skip : Bool

def MethodDef.name (method : MethodDef) : String :=
  plainName method.identifier

/-- The identifier that a pattern binds, if it binds one as a whole; attributes may stand before it,
and a reference may be bound to the receiver's own name. -/
def plainPattern? (pattern : Code) : Option String :=
  match pattern.afterAttributes with
  | [.word text] => if isName text then some text else none
  | [.word "mut", .word text] => if isName text then some text else none
  | [.word "ref", .word text] => if isName text ∨ text = "self" then some text else none
  | [.word "ref", .word "mut", .word text] =>
      if isName text ∨ text = "self" then some text else none
  | _ => none

/-- A receiver by shared reference, perhaps with a lifetime. -/
def isSharedSelf (receiver : Code) : Bool :=
  match receiver.afterAttributes with
  | [.mark '&', .word "self"] => true
  | [.mark '&', .mark '\'', .word _, .word "self"] => true
  | _ => false

/-- A parameter that is a receiver of any type, by its pattern. -/
def isTypedSelf (pattern : Code) : Bool :=
  match pattern.afterAttributes with
  | [.word "self"] => true
  | [.word "mut", .word "self"] => true
  | _ => false

namespace MethodDecl

def isSkipped (decl : MethodDecl) : Bool :=
  decl.attributes.any (·.name == "skip")

/-- The template of a method, from the first attribute that gives one. -/
def query (decl : MethodDecl) : Except (List AttributeFault) (Option QueryAttribute) :=
  match decl.attributes.find? (·.name == "query") with
  | none => .ok none
  | some attr => (QueryAttribute.read attr.form).map some

/-- The template, where a faulty attribute counts as none. -/
def query? (decl : MethodDecl) : Option QueryAttribute :=
  decl.query.toOption.join

def queryFaults (decl : MethodDecl) : List DeclarationFault :=
  match decl.query with
  | .ok _ => []
  | .error faults => faults.map .argument

/-- The parameters after the receiver. -/
def ownParams (decl : MethodDecl) : List (Code × TypeExpr) :=
  match decl.receiver, decl.params with
  | none, first :: rest => if isTypedSelf first.1 then rest else first :: rest
  | _, params => params

def plainParams (decl : MethodDecl) : List (String × TypeExpr) :=
  decl.ownParams.filterMap fun (pattern, type) => (plainPattern? pattern).map (·, type)

/-- The type inside the returned `Result`. -/
def returnedOk? (decl : MethodDecl) : Option TypeExpr :=
  decl.returns.bind TypeExpr.resultOk?

/-- `fault` if the condition holds. -/
def faultIf (condition : Bool) (fault : DeclarationFault) : List DeclarationFault :=
  if condition then [fault] else []

theorem faultIf_eq_nil_iff {condition : Bool} {fault : DeclarationFault} :
    faultIf condition fault = [] ↔ condition = false := by
  cases condition <;> simp [faultIf]

/-- The faults of the signature and the attributes. -/
def signatureFaults (decl : MethodDecl) : List DeclarationFault :=
  faultIf (!decl.isAsync) .notAsync ++
  faultIf (!decl.generics.isEmpty) .genericMethod ++
  faultIf (!decl.receiver.any isSharedSelf) .receiver ++
  (decl.ownParams.filter fun param => (plainPattern? param.1).isNone).map (fun _ => .pattern) ++
  faultIf decl.returnedOk?.isNone .returnType ++
  decl.queryFaults ++
  faultIf (decl.isSkipped && decl.query?.isSome) .skipWithQuery ++
  faultIf (decl.isSkipped && decl.body.isNone) .skipWithoutBody ++
  faultIf (!decl.isSkipped && decl.body.isSome) .bodyWithoutSkip

end MethodDecl

/-- The fault of the name of a derived method. -/
def MethodDef.nameFault? (method : MethodDef) : Option DeclarationFault :=
  match MethodName.parse method.name with
  | .error fault => some (.name method.name fault)
  | .ok none => some (.noVerb method.name)
  | .ok (some name) =>
      match name.align (method.params.map fun param => plainName param.1) method.returns.shape with
      | .error fault => some (.name method.name fault)
      | .ok () => none

/-- Accepts a method; a method without a `Result` to look into is not held to the rules on names. -/
def MethodDecl.accept (decl : MethodDecl) : Except (List DeclarationFault) MethodDef :=
  match decl.returns, decl.returnedOk? with
  | some output, some inner =>
      let method : MethodDef := {
        identifier := decl.name
        params := decl.plainParams
        output
        returns := .classify inner
        query := decl.query?
        skip := decl.isSkipped }
      let nameFaults :=
        if method.skip || method.query.isSome then [] else method.nameFault?.toList
      match decl.signatureFaults ++ nameFaults with
      | [] => .ok method
      | faults => .error faults
  | _, _ => .error decl.signatureFaults

/-- The arguments of a repository: its entity alone, a list of arguments, or the code that comes
after `entity =`. -/
inductive RepositoryArgs where
  | path (entity : Path)
  | list (arguments : List Argument)
  | code (lexemes : List Lexeme)

namespace RepositoryArgs

def keys : List KnownKey :=
  [.of "entity" ArgumentReader.path true]

/-- The path that read arguments give to the entity. -/
def entityOf (arguments : List ReadArgument) : Except (List AttributeFault) Path :=
  match argumentFaults keys [] arguments,
    readArgument? ArgumentReader.path "entity" arguments with
  | [], some entity => .ok entity
  | faults, _ => .error faults

def entity : RepositoryArgs → Except (List AttributeFault) Path
  | .path entity => .ok entity
  | .list arguments => entityOf (readArguments arguments)
  | .code lexemes =>
      let named := ⟨.word "entity", false⟩ :: ⟨.mark '=', false⟩ :: lexemes
      match Grammar.read Grammar.argumentList named with
      | .ok arguments => entityOf arguments
      | .error fault => .error [.grammar fault]

end RepositoryArgs

/-- An accepted repository: its trait, its entity and its methods in the order of declaration. -/
structure RepositoryDef where
  trait : TraitDecl
  entity : Path
  methods : List MethodDef

namespace TraitItem

def faults : TraitItem → List DeclarationFault
  | .other => [.foreignItem]
  | .method decl =>
      match decl.accept with
      | .ok _ => []
      | .error faults => faults

def method? : TraitItem → Option MethodDef
  | .other => none
  | .method decl => decl.accept.toOption

end TraitItem

/-- Accepts a trait without a fault; faults of the arguments hide all others. -/
def TraitDecl.accept (decl : TraitDecl) (args : RepositoryArgs) :
    Except (List DeclarationFault) RepositoryDef :=
  match args.entity with
  | .error faults => .error (faults.map .argument)
  | .ok entity =>
      match MethodDecl.faultIf (!decl.generics.isEmpty) .genericTrait ++
        decl.items.flatMap TraitItem.faults with
      | [] => .ok { trait := decl, entity, methods := decl.items.filterMap TraitItem.method? }
      | faults => .error faults

end QueryMethods
