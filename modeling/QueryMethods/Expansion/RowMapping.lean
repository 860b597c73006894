import QueryMethods.Declaration.Entity
import QueryMethods.Expansion.Trait

/-!
# Row mapping code

For every entity an implementation is generated that describes its table and reads each field from
the column of its name.
-/

namespace QueryMethods

def ColumnDef.typeConstant (column : ColumnDef) (name : String) : Code :=
  inAngles (column.type.code ++ .word "as" :: support "SqlType") ++ Path.separator ++ [.word name]

def ColumnDef.descriptorCode (column : ColumnDef) : Code :=
  support "FieldDescriptor" ++ code "::new" ++ inParens (commaSeparated
    [[.literal column.name], column.typeConstant "TYPE", column.typeConstant "NULLABLE"])

def ColumnDef.readCode (column : ColumnDef) : Code :=
  [.word column.identifier, .mark ':'] ++ code "row.get::" ++ inAngles column.type.code ++
    inParens [.literal column.name] ++ [.mark '?']

namespace EntityDef

def schemaCode (schema : Option String) : Code :=
  code "::core::option::Option::" ++
    match schema with
    | none => [.word "None"]
    | some schema => .word "Some" :: inParens [.literal schema]

def descriptorCode (entity : EntityDef) : Code :=
  let fields := code "static FIELDS: &" ++ inBrackets (support "FieldDescriptor") ++ code "= &" ++
    inBrackets (commaSeparated (entity.columns.map ColumnDef.descriptorCode)) ++ [.mark ';']
  let arguments := commaSeparated [[.literal entity.identifier], [.literal entity.table],
    schemaCode entity.schema, [.word "FIELDS"]]
  let descriptor := code "static DESCRIPTOR:" ++ support "EntityDescriptor" ++ code "=" ++
    support "EntityDescriptor" ++ code "::new" ++ inParens arguments ++ [.mark ';']
  code "fn descriptor() -> &'static" ++ support "EntityDescriptor" ++
    inBraces (fields ++ descriptor ++ code "&DESCRIPTOR")

def readerCode (entity : EntityDef) : Code :=
  code "fn from_row" ++ inParens (code "row: &" ++ support "Row") ++ code "->" ++
    support "Result" ++ inAngles [.word "Self"] ++
    inBraces (code "::core::result::Result::Ok" ++
      inParens (.word "Self" ::
        inBraces (commaSeparated (entity.columns.map ColumnDef.readCode))))

/-- All code that an entity expands to. -/
def code (entity : EntityDef) : Code :=
  .word "impl" :: support "Entity" ++ [.word "for", .word entity.identifier] ++
    inBraces (entity.descriptorCode ++ entity.readerCode)

end EntityDef

end QueryMethods
