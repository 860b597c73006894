import QueryMethods.Expansion.Trait

/-!
# Registration code

For every repository a descriptor type is generated that lists its methods for registration. A
skipped method is listed by name and shape alone.
-/

namespace QueryMethods

/-- One listed method. -/
structure Listing where
  name : String
  params : List (TypeExpr × String)
  shape : Shape
  query : Option QueryAttribute
  skip : Bool

def MethodDef.listing (method : MethodDef) : Listing :=
  { name := method.name
    params := if method.skip then [] else
      method.params.map fun (identifier, type) => (type, plainName identifier)
    shape := method.returns.shape
    query := if method.skip then none else method.query
    skip := method.skip }

def RepositoryDef.listings (repository : RepositoryDef) : List Listing :=
  repository.methods.map MethodDef.listing

/-- The descriptor type of a repository. -/
def RepositoryDef.descriptor (repository : RepositoryDef) : Token :=
  .word (plainName repository.trait.name ++ "Descriptor")

namespace Listing

def shapeCode (shape : Shape) : Code :=
  support "ResultShape" ++ Path.separator ++
    match shape with
    | .optional => [.word "OptionalSingle"]
    | .list => [.word "List"]
    | .scalar => [.word "Scalar"]

def paramCode (param : TypeExpr × String) : Code :=
  code ".param_of::" ++ inAngles param.1.code ++ inParens [.literal param.2]

def queryCode (query : QueryAttribute) : Code :=
  code ".query" ++ inParens [.literal query.sql] ++
    code ".modifying" ++ inParens [.word (toString query.modifying)]

def print (listing : Listing) : Code :=
  support "MethodDescriptor" ++ code "::new" ++ inParens [.literal listing.name] ++
    listing.params.flatMap paramCode ++
    code ".returns" ++ inParens (shapeCode listing.shape) ++
    (listing.query.map queryCode).getD [] ++
    if listing.skip then code ".skip()" else []

end Listing

def RepositoryDef.registrationCode (repository : RepositoryDef) : Code :=
  let name := repository.trait.name
  let descriptor := repository.descriptor
  let doc := "Registration descriptor of [`" ++ name ++ "`]."
  let nameItem := code "const NAME: &'static str = ::core::concat!" ++
    inParens (code "::core::module_path!()," ++ [.literal "::", .mark ',', .literal name]) ++
    [.mark ';']
  let entityItem := code "type Entity =" ++ repository.entity.code ++ [.mark ';']
  let methodsItem := code "fn methods() -> ::std::vec::Vec" ++
    inAngles (support "MethodDescriptor") ++
    inBraces (code "::std::vec!" ++
      inBrackets (commaSeparated (repository.listings.map Listing.print)))
  .mark '#' :: inBrackets [.word "doc", .mark '=', .literal doc] ++
    .mark '#' :: inBrackets (code "derive(Debug, Clone, Copy, Default)") ++
    repository.trait.head.visibility ++ [.word "struct", descriptor, .mark ';'] ++
    .word "impl" :: support "Repository" ++ [.word "for", descriptor] ++
    inBraces (nameItem ++ entityItem ++ methodsItem)

end QueryMethods
