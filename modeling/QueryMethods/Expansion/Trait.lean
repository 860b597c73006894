import QueryMethods.Declaration.Repository

/-! The trait of a repository as it is kept: without query attributes, and safe to share. -/

namespace QueryMethods

/-- An item of the library that generated code calls into. -/
def support (name : String) : Code :=
  code "::query_derive::" ++ [.word name]

/-- Attributes that only direct the expansion. -/
def isMethodAttribute (attr : Attribute) : Bool :=
  attr.name == "query" || attr.name == "skip"

def attributesCode (attrs : List Attribute) : Code :=
  attrs.flatMap Attribute.code

def asyncTrait : Code :=
  .mark '#' :: inBrackets (support "async_trait")

def returnsCode (type : Option TypeExpr) : Code :=
  match type with
  | none => []
  | some type => code "->" ++ type.code

def MethodDecl.code (decl : MethodDecl) : Code :=
  let params := decl.params.map fun (pattern, type) => pattern ++ .mark ':' :: type.code
  attributesCode (decl.attributes.filter fun attr => !isMethodAttribute attr) ++
    [.word "async", .word "fn", .word decl.name] ++
    inParens (commaSeparated (decl.receiver.toList ++ params)) ++
    returnsCode decl.returns ++
    decl.body.getD [.mark ';']

def TraitItem.code : TraitItem → Code
  | .method decl => decl.code
  | .other => []

def TraitDecl.code (decl : TraitDecl) : Code :=
  let own := if decl.tail.bounds.isEmpty then [] else [decl.tail.bounds]
  let bounds := own ++
    [QueryMethods.code "::core::marker::Send", QueryMethods.code "::core::marker::Sync"]
  attributesCode decl.attributes ++ decl.head.attributes ++ asyncTrait ++
    decl.head.visibility ++ decl.head.modifiers ++ [.word "trait", .word decl.name, .mark ':'] ++
    separatedBy [.mark '+'] bounds ++ decl.tail.conditions ++
    inBraces (decl.items.flatMap TraitItem.code)

end QueryMethods
