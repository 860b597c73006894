import QueryMethods.Declaration.Repository
import QueryMethods.Text.SnakeCase

/-!
# Declared entities

A struct with named fields declares an entity. Its table is named after it unless an attribute says
otherwise, and every field is a column.
-/

namespace QueryMethods

/-- What kind of type a declaration declares; only a struct with named fields is an entity. -/
inductive DataKind where
  | named
  | tuple
  | unit
  | enumeration
  | union
deriving DecidableEq

structure FieldDecl where
  name : String
  type : TypeExpr

structure DataDecl where
  kind : DataKind
  attributes : List Attribute := []
  name : String
  generics : List Code := []
  fields : List FieldDecl := []

structure ColumnDef where
  identifier : String
  type : TypeExpr

def ColumnDef.name (column : ColumnDef) : String :=
  plainName column.identifier

structure EntityDef where
  identifier : String
  table : String
  schema : Option String
  columns : List ColumnDef

/-- The table of an entity that names none: its name in snake case, in the plural. -/
def defaultTable (identifier : String) : String :=
  snakeCase (plainName identifier) ++ "s"

namespace DataDecl

def entityKeys : List KnownKey :=
  [.of "schema" ArgumentReader.text false, .of "table" ArgumentReader.text false]

def entityForms (decl : DataDecl) : List AttributeForm :=
  (decl.attributes.filter (·.name == "entity")).map (·.form)

/-- The arguments of one attribute; a bare attribute has none. -/
def argumentsOf : AttributeForm → List ReadArgument
  | .list arguments => readArguments arguments
  | _ => []

def arguments (decl : DataDecl) : List ReadArgument :=
  decl.entityForms.flatMap argumentsOf

/-- The faults of the entity attributes, where a key may come in one of them only. -/
def attributeFaults (seen : List String) : List AttributeForm → List AttributeFault
  | [] => []
  | .word :: rest => attributeFaults seen rest
  | .value _ :: rest => .notArguments "entity" :: attributeFaults seen rest
  | .list given :: rest =>
      let arguments := readArguments given
      argumentFaults entityKeys seen arguments ++
        attributeFaults (arguments.filterMap (·.key?) ++ seen) rest

/-- The faults of the attributes and of the kind of type, which hide all others. -/
def faults (decl : DataDecl) : List DeclarationFault :=
  (attributeFaults [] decl.entityForms).map .argument ++
    if decl.kind = .union then [.union] else []

def accept (decl : DataDecl) : Except (List DeclarationFault) EntityDef :=
  match decl.faults with
  | [] =>
      if !decl.generics.isEmpty then
        .error [.genericEntity]
      else if decl.kind ≠ .named then
        .error [.unnamedFields]
      else
        let table := readArgument? ArgumentReader.text "table" decl.arguments
        .ok {
          identifier := decl.name
          table := table.getD (defaultTable decl.name)
          schema := readArgument? ArgumentReader.text "schema" decl.arguments
          columns := decl.fields.map fun field => ⟨field.name, field.type⟩ }
  | faults => .error faults

end DataDecl

end QueryMethods
