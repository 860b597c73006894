import QueryMethods.Expansion.Registration

/-!
# Delegation code

The generated implementation of a repository hands every method to the registry: arguments in the
order of declaration, and the output read as the declared result says. Skipped methods keep their
own bodies.
-/

namespace QueryMethods

/-- How an output is read: rows as entities or by their first column, or one value. -/
inductive OutputReader where
  | entity (type : TypeExpr)
  | entities (type : TypeExpr)
  | optionalFirst (type : TypeExpr)
  | listFirst (type : TypeExpr)
  | scalar (type : TypeExpr)

namespace OutputReader

/-- Rows are read as entities if their type is named as the entity of the repository is. -/
def ofReturns (entity : Path) : Returns → OutputReader
  | .optional inner => if inner.names entity then .entity inner else .optionalFirst inner
  | .list inner => if inner.names entity then .entities inner else .listFirst inner
  | .scalar type => .scalar type

def shape : OutputReader → Shape
  | .entity _ | .optionalFirst _ => .optional
  | .entities _ | .listFirst _ => .list
  | .scalar _ => .scalar

def callCode (name : String) (type : TypeExpr) : Code :=
  [.word "output", .mark '.', .word name] ++ Path.separator ++ inAngles type.code ++ inParens []

def firstCode (name : String) (type : TypeExpr) : Code :=
  [.word "output", .mark '.', .word name] ++
    inParens (code "|row: &" ++ support "Row" ++ code "| row.first::" ++ inAngles type.code ++
      inParens [])

def print : OutputReader → Code
  | .entity type => callCode "into_entity" type
  | .entities type => callCode "into_entities" type
  | .optionalFirst type => firstCode "into_optional" type
  | .listFirst type => firstCode "into_list" type
  | .scalar type => callCode "into_scalar" type

end OutputReader

/-- One method of the generated implementation. -/
structure Delegate where
  identifier : String
  name : String
  params : List (String × TypeExpr)
  output : TypeExpr
  reader : OutputReader

def MethodDef.delegate (entity : Path) (method : MethodDef) : Delegate :=
  { identifier := method.identifier
    name := method.name
    params := method.params
    output := method.output
    reader := .ofReturns entity method.returns }

/-- The methods of the generated implementation, in the order of declaration. -/
def RepositoryDef.delegates (repository : RepositoryDef) : List Delegate :=
  (repository.methods.filter fun method => !method.skip).map (·.delegate repository.entity)

def Delegate.print (delegate : Delegate) : Code :=
  let params := delegate.params.map fun (identifier, type) =>
    .word identifier :: .mark ':' :: type.code
  let values := delegate.params.map fun (identifier, _) =>
    support "ToValue" ++ code "::to_value" ++ inParens [.mark '&', .word identifier]
  let arguments := [.word "self", .mark ',', .literal delegate.name, .mark ','] ++
    code "::std::vec!" ++ inBrackets (commaSeparated values)
  let call := code "let output =" ++ support "RepositoryHandle" ++ code "::call" ++
    inParens arguments ++ code ".await?;"
  [.word "async", .word "fn", .word delegate.identifier] ++
    inParens (code "&self," ++ commaSeparated params) ++ code "->" ++ delegate.output.code ++
    inBraces (call ++ code "::core::result::Result::Ok" ++
      inParens (delegate.reader.print ++ [.mark '?']))

def RepositoryDef.delegationCode (repository : RepositoryDef) : Code :=
  asyncTrait ++ .word "impl" :: inAngles (code "__F:" ++ support "SessionFactory") ++
    [.word repository.trait.name, .word "for"] ++ support "RepositoryHandle" ++
    inAngles [repository.descriptor, .mark ',', .word "__F"] ++
    inBraces (repository.delegates.flatMap Delegate.print)

/-- All code that a repository expands to. -/
def RepositoryDef.code (repository : RepositoryDef) : Code :=
  repository.trait.code ++ repository.registrationCode ++ repository.delegationCode

end QueryMethods
