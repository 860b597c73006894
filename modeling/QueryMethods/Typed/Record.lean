import QueryMethods.Declaration.Entity
import QueryMethods.Entity
import QueryMethods.Row
import QueryMethods.Typed.Meaning

/-! Entities of the calling program: what rows are read as, field by field. -/

namespace QueryMethods

/-- One value for each type. -/
abbrev HostValues : List HostType → Type
  | [] => Unit
  | type :: rest => type.Carrier × HostValues rest

/-- The values as the database takes them. -/
def HostValues.encode : (types : List HostType) → HostValues types → List Value
  | [], _ => []
  | type :: rest, (value, values) => type.encode value :: encode rest values

/-- An entity with the types of its fields. -/
structure EntityType where
  name : String
  table : String
  schema : Option String
  columns : List (String × HostType)

namespace EntityType

def entity (type : EntityType) : Entity :=
  { name := type.name
    table := type.table
    schema := type.schema
    fields := type.columns.map fun (column, host) => ⟨column, host.valueType, host.nullable⟩ }

/-- The values of an entity's fields, in the order of declaration. -/
abbrev Record (type : EntityType) : Type :=
  HostValues (type.columns.map (·.2))

/-- Reads columns one by one; the first that cannot be read decides. -/
def readColumns (row : Row) :
    (columns : List (String × HostType)) → Except DecodeError (HostValues (columns.map (·.2)))
  | [] => .ok ()
  | (column, host) :: rest =>
      match row.get host.decode column with
      | .error error => .error error
      | .ok value => (readColumns row rest).map (value, ·)

def ofRow (type : EntityType) (row : Row) : Except DecodeError type.Record :=
  readColumns row type.columns

end EntityType

/-- The entity that a declaration declares, if every field has a known type. -/
def EntityDef.type? (declared : EntityDef) : Option EntityType :=
  let columns? := declared.columns.mapM fun (column : ColumnDef) =>
    column.type.hostType?.map fun host => (column.name, host)
  columns?.map fun columns =>
    { name := declared.identifier, table := declared.table, schema := declared.schema, columns }

end QueryMethods
