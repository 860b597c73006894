import QueryMethods.Expansion.RowMapping
import QueryMethods.Proofs.Expansion.Registration
import QueryMethods.Typed.Fields

/-!
# What row mapping code does

The implementation of an entity has two functions. One gives the descriptor of its table, which is
the entity that query methods see; the other makes a record of a row, where each field of the record
is named and is read by an expression of its own. Fields may have any types of the calling program.
-/

namespace QueryMethods

inductive IsValueType (types : ColumnTypes) : Code → ValueType → Prop where
  | constant {type : TypeExpr} {column : ValueType × Bool} (htype : types type = some column) :
      IsValueType types (inAngles (type.code ++ .word "as" :: support "SqlType") ++
        Path.separator ++ [.word "TYPE"]) column.1

inductive IsNullable (types : ColumnTypes) : Code → Bool → Prop where
  | constant {type : TypeExpr} {column : ValueType × Bool} (htype : types type = some column) :
      IsNullable types (inAngles (type.code ++ .word "as" :: support "SqlType") ++
        Path.separator ++ [.word "NULLABLE"]) column.2

inductive IsField (types : ColumnTypes) : Code → Field → Prop where
  | new {typeCode nullableCode : Code} {type : ValueType} {nullable : Bool} (name : String)
      (htype : IsValueType types typeCode type)
      (hnullable : IsNullable types nullableCode nullable) :
      IsField types (support "FieldDescriptor" ++ code "::new" ++
        inParens (commaSeparated [[.literal name], typeCode, nullableCode]))
        ⟨name, type, nullable⟩

inductive IsSchema : Code → Option String → Prop where
  | none : IsSchema (code "::core::option::Option::" ++ [.word "None"]) none
  | some (schema : String) : IsSchema
      (code "::core::option::Option::" ++ .word "Some" :: inParens [.literal schema]) (some schema)

/-- The function that gives the descriptor of an entity. -/
inductive Describes (types : ColumnTypes) : Code → Entity → Prop where
  | function {items : List Code} {fields : List Field} {schemaCode : Code} {schema : Option String}
      (name table : String) (hfields : List.Forall₂ (IsField types) items fields)
      (hschema : IsSchema schemaCode schema) :
      Describes types (code "fn descriptor() -> &'static" ++ support "EntityDescriptor" ++
        inBraces ((code "static FIELDS: &" ++ inBrackets (support "FieldDescriptor") ++
            code "= &" ++ inBrackets (commaSeparated items) ++ [.mark ';']) ++
          (code "static DESCRIPTOR:" ++ support "EntityDescriptor" ++ code "=" ++
            support "EntityDescriptor" ++ code "::new" ++
            inParens (commaSeparated [[.literal name], [.literal table], schemaCode,
              [.word "FIELDS"]]) ++ [.mark ';']) ++
          code "&DESCRIPTOR")) ⟨name, table, schema, fields⟩

theorem isSchema_schemaCode (schema : Option String) :
    IsSchema (EntityDef.schemaCode schema) schema := by
  cases schema with
  | none => exact .none
  | some schema => exact .some schema

theorem isField_descriptorCode {types : ColumnTypes} {column : ColumnDef} {found : ValueType × Bool}
    (h : types column.type = some found) :
    IsField types column.descriptorCode ⟨column.name, found.1, found.2⟩ :=
  .new column.name (.constant h) (.constant h)

/-- The descriptor of a declared entity is the entity of its type. -/
theorem EntityDef.describes_descriptorCode {declared : EntityDef} {type : EntityType}
    (h : declared.type? = some type) : Describes .host declared.descriptorCode type.entity := by
  obtain ⟨columns, hcolumns, rfl⟩ := Option.map_eq_some_iff.mp h
  have hfields : List.Forall₂ (IsField .host) (declared.columns.map ColumnDef.descriptorCode)
      (columns.map fun column => ⟨column.1, column.2.valueType, column.2.nullable⟩) := by
    rw [List.forall₂_map_left_iff, List.forall₂_map_right_iff]
    apply (mapM_eq_some_iff.mp hcolumns).imp
    intro declaredColumn column hcolumn
    obtain ⟨host, hhost, rfl⟩ := Option.map_eq_some_iff.mp hcolumn
    have hfound : ColumnTypes.host declaredColumn.type = some (host.valueType, host.nullable) := by
      simp only [ColumnTypes.host, hhost, Option.map_some]
    exact isField_descriptorCode hfound
  exact .function declared.identifier declared.table hfields (isSchema_schemaCode declared.schema)

/-- A value of a field, with the type of the field. -/
structure FieldValue where
  type : FieldType
  value : type.Carrier

section

variable (meaning : TypeExpr → FieldType) (row : Row)

/-- One field of a record, by name. -/
inductive Initializes : Code → Except DecodeError (String × FieldValue) → Prop where
  | read {identifier column : String} {type : TypeExpr} {value : (meaning type).Carrier}
      (h : row.get (meaning type).decode column = .ok value) :
      Initializes ([.word identifier, .mark ':'] ++ code "row.get::" ++ inAngles type.code ++
        inParens [.literal column] ++ [.mark '?']) (.ok (identifier, ⟨meaning type, value⟩))
  | failed {identifier column : String} {type : TypeExpr} {error : DecodeError}
      (h : row.get (meaning type).decode column = .error error) :
      Initializes ([.word identifier, .mark ':'] ++ code "row.get::" ++ inAngles type.code ++
        inParens [.literal column] ++ [.mark '?']) (.error error)

/-- Fields are read in the order in which they are written, up to the first that fails. -/
inductive InitializesAll : List Code → Except DecodeError (List (String × FieldValue)) → Prop where
  | nil : InitializesAll [] (.ok [])
  | failed {item : Code} {items : List Code} {error : DecodeError}
      (h : Initializes meaning row item (.error error)) :
      InitializesAll (item :: items) (.error error)
  | cons {item : Code} {items : List Code} {field : String × FieldValue}
      {fields : Except DecodeError (List (String × FieldValue))}
      (h : Initializes meaning row item (.ok field)) (hrest : InitializesAll items fields) :
      InitializesAll (item :: items) (fields.map (field :: ·))

/-- The function that makes a record of a row. -/
inductive ReadsRecord : Code → Except DecodeError (List (String × FieldValue)) → Prop where
  | function {items : List Code} {fields : Except DecodeError (List (String × FieldValue))}
      (h : InitializesAll meaning row items fields) :
      ReadsRecord (code "fn from_row" ++ inParens (code "row: &" ++ support "Row") ++ code "->" ++
        support "Result" ++ inAngles [.word "Self"] ++
        inBraces (code "::core::result::Result::Ok" ++
          inParens (.word "Self" :: inBraces (commaSeparated items)))) fields

end

/-- The values of columns, under the names of their fields. -/
def namedFields (meaning : TypeExpr → FieldType) : (columns : List ColumnDef) →
    FieldValues (columns.map fun column => (column.name, meaning column.type)) →
    List (String × FieldValue)
  | [], _ => []
  | column :: rest, (value, values) =>
      (column.identifier, ⟨meaning column.type, value⟩) :: namedFields meaning rest values

/-- The initializers of a record read what its columns hold. -/
theorem initializesAll_readCode (meaning : TypeExpr → FieldType) (row : Row)
    (columns : List ColumnDef) :
    InitializesAll meaning row (columns.map ColumnDef.readCode)
      ((readFields row (columns.map fun column => (column.name, meaning column.type))).map
        (namedFields meaning columns)) := by
  induction columns with
  | nil => exact .nil
  | cons column rest ih =>
      rw [List.map_cons]
      cases hget : row.get (meaning column.type).decode column.name with
      | error error =>
          have hread : readFields row ((column :: rest).map fun column =>
              (column.name, meaning column.type)) = .error error := readFields_cons_of_error hget
          rw [hread]
          exact .failed (.failed hget)
      | ok value =>
          have hread : readFields row ((column :: rest).map fun column =>
                (column.name, meaning column.type)) =
              (readFields row (rest.map fun column =>
                (column.name, meaning column.type))).map (value, ·) := readFields_cons_of_ok hget
          have hfirst : Initializes meaning row column.readCode
              (.ok (column.identifier, ⟨meaning column.type, value⟩)) := .read hget
          have hall := InitializesAll.cons hfirst ih
          rw [Except.map_map_ok] at hall
          rw [hread, Except.map_map_ok]
          exact hall

/-- A record is made of the values of the columns, each in the field that the column is read for. -/
theorem EntityDef.readsRecord_readerCode (declared : EntityDef) (meaning : TypeExpr → FieldType)
    (row : Row) :
    ReadsRecord meaning row declared.readerCode
      ((readFields row (declared.columnsAs meaning)).map (namedFields meaning declared.columns)) :=
  .function (initializesAll_readCode meaning row declared.columns)

/-- Both functions are part of the implementation. -/
theorem EntityDef.functions_infix_code (declared : EntityDef) :
    declared.descriptorCode <:+: declared.code ∧ declared.readerCode <:+: declared.code := by
  have hbody : declared.descriptorCode ++ declared.readerCode <:+: declared.code := by
    apply List.IsInfix.trans (infix_inBraces _)
    exact (List.suffix_append _ _).isInfix
  constructor
  · exact (List.prefix_append _ _).isInfix.trans hbody
  · exact (List.suffix_append _ _).isInfix.trans hbody

end QueryMethods
