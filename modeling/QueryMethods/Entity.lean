import QueryMethods.Text.Ascii
import QueryMethods.Value.Type

/-! Tables and their columns, as query methods see them. -/

namespace QueryMethods

structure Field where
  name : String
  type : ValueType
  nullable : Bool := false
deriving DecidableEq

structure Entity where
  name : String
  table : String
  schema : Option String
  fields : List Field
deriving DecidableEq

namespace Entity

/-- The first field of that name, up to ASCII case. -/
def field? (entity : Entity) (name : String) : Option Field :=
  entity.fields.find? fun field => sameName field.name name

def columns (entity : Entity) : String :=
  ", ".intercalate (entity.fields.map (·.name))

/-- The table, behind the entity's own schema or else the default one. -/
def qualifiedTable (entity : Entity) (defaultSchema : Option String) : String :=
  match entity.schema.or defaultSchema with
  | some schema => schema ++ "." ++ entity.table
  | none => entity.table

end Entity

end QueryMethods
