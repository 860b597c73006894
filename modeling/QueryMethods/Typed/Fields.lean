import QueryMethods.Typed.Record

/-!
# Fields of any types

A field may have a type of the calling program's own, which says how its values are written to the
database and read back. Where all types are known, such fields are read as those of an entity type.
-/

namespace QueryMethods

structure FieldType where
  Carrier : Type
  encode : Carrier → Value
  decode : Value → Except DecodeFault Carrier

def HostType.fieldType (type : HostType) : FieldType :=
  ⟨type.Carrier, type.encode, type.decode⟩

/-- One value for each column. -/
abbrev FieldValues : List (String × FieldType) → Type
  | [] => Unit
  | (_, type) :: rest => type.Carrier × FieldValues rest

/-- Reads columns one by one; the first that cannot be read decides. -/
def readFields (row : Row) :
    (columns : List (String × FieldType)) → Except DecodeError (FieldValues columns)
  | [] => .ok ()
  | (column, type) :: rest =>
      match row.get type.decode column with
      | .error error => .error error
      | .ok value => (readFields row rest).map (value, ·)

section

variable {row : Row} {column : String} {type : FieldType} {rest : List (String × FieldType)}

theorem readFields_cons_of_error {error : DecodeError}
    (h : row.get type.decode column = .error error) :
    readFields row ((column, type) :: rest) = .error error := by
  rw [readFields, h]

theorem readFields_cons_of_ok {value : type.Carrier} (h : row.get type.decode column = .ok value) :
    readFields row ((column, type) :: rest) = (readFields row rest).map (value, ·) := by
  rw [readFields, h]

end

/-- The columns of a declared entity, where source types stand for these types of fields. -/
def EntityDef.columnsAs (declared : EntityDef) (meaning : TypeExpr → FieldType) :
    List (String × FieldType) :=
  declared.columns.map fun column => (column.name, meaning column.type)

namespace EntityType

/-- The columns of known types, as columns of fields. -/
def fieldsOf : List (String × HostType) → List (String × FieldType)
  | [] => []
  | (column, host) :: rest => (column, host.fieldType) :: fieldsOf rest

/-- Values of known types, as values of fields. -/
def fieldValues : (columns : List (String × HostType)) → HostValues (columns.map (·.2)) →
    FieldValues (fieldsOf columns)
  | [], _ => ()
  | _ :: rest, (value, values) => (value, fieldValues rest values)

/-- Fields of known types are read as those of an entity type. -/
theorem readFields_fieldsOf (row : Row) (columns : List (String × HostType)) :
    readFields row (fieldsOf columns) = (readColumns row columns).map (fieldValues columns) := by
  induction columns with
  | nil => rfl
  | cons column rest ih =>
      obtain ⟨name, host⟩ := column
      rw [readColumns]
      cases hget : row.get host.decode name with
      | error error =>
          have hfield : row.get host.fieldType.decode name = .error error := hget
          exact readFields_cons_of_error hfield
      | ok value =>
          have hfield : row.get host.fieldType.decode name = .ok value := hget
          refine (readFields_cons_of_ok hfield).trans ?_
          rw [ih]
          cases readColumns row rest <;> rfl

end EntityType

end QueryMethods
