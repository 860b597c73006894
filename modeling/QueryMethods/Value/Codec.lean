import QueryMethods.Value.Fault

/-!
The types of a calling program: how each is written as a database value and read back. An option
writes its absence as `NULL`, at any depth.
-/

namespace QueryMethods

/-- The types that a column can hold on the side of the caller. -/
inductive ColumnType where
  | bool
  | int16
  | int32
  | int64
  | float32
  | float64
  | text
  | uuid
  | timestamp
deriving DecidableEq

namespace ColumnType

abbrev Carrier : ColumnType → Type
  | .bool => Bool
  | .int16 => Int16
  | .int32 => Int32
  | .int64 => Int64
  | .float32 => Binary32
  | .float64 => Binary64
  | .text => String
  | .uuid => Uuid
  | .timestamp => Timestamp

def valueType : ColumnType → ValueType
  | .bool => .bool
  | .int16 | .int32 | .int64 => .int
  | .float32 | .float64 => .float
  | .text => .text
  | .uuid => .uuid
  | .timestamp => .timestamp

def encode : (type : ColumnType) → type.Carrier → Value
  | .bool, value => .bool value
  | .int16, value => .int value.toInt64
  | .int32, value => .int value.toInt64
  | .int64, value => .int value
  | .float32, value => .float value.convert
  | .float64, value => .float value
  | .text, value => .text value
  | .uuid, value => .uuid value
  | .timestamp, value => .timestamp value

end ColumnType

def Value.toInt (value : Value) : Except DecodeFault Int64 :=
  match value with
  | .int n => .ok n
  | other => .error (.mismatch .int other.type?)

/-- A float, or an integer widened to one. -/
def Value.toFloat (value : Value) : Except DecodeFault Binary64 :=
  match value with
  | .float x => .ok x
  | .int n => .ok (.ofInt n.toInt)
  | other => .error (.mismatch .float other.type?)

/-- An identifier, or a text that spells one. -/
def Value.toUuid (value : Value) : Except DecodeFault Uuid :=
  match value with
  | .uuid id => .ok id
  | .text spelling =>
      match Uuid.ofText? spelling with
      | some id => .ok id
      | none => .error (.notUuid spelling)
  | other => .error (.mismatch .uuid other.type?)

namespace ColumnType

def decode : (type : ColumnType) → Value → Except DecodeFault type.Carrier
  | .bool, .bool value => .ok value
  | .bool, other => .error (.mismatch .bool other.type?)
  | .int16, value =>
      value.toInt.bind fun n =>
        if Int16.minValue.toInt ≤ n.toInt ∧ n.toInt ≤ Int16.maxValue.toInt then
          .ok n.toInt16
        else
          .error (.outOfRange n .int16)
  | .int32, value =>
      value.toInt.bind fun n =>
        if Int32.minValue.toInt ≤ n.toInt ∧ n.toInt ≤ Int32.maxValue.toInt then
          .ok n.toInt32
        else
          .error (.outOfRange n .int32)
  | .int64, value => value.toInt
  | .float32, value => value.toFloat.map Binary.convert
  | .float64, value => value.toFloat
  | .text, .text value => .ok value
  | .text, other => .error (.mismatch .text other.type?)
  | .uuid, value => value.toUuid
  | .timestamp, .timestamp value => .ok value
  | .timestamp, other => .error (.mismatch .timestamp other.type?)

end ColumnType

/-- A value under `depth` options. -/
abbrev Layered (α : Type) : Nat → Type
  | 0 => α
  | depth + 1 => Option (Layered α depth)

namespace Layered

def encode {α : Type} (encodeBase : α → Value) : (depth : Nat) → Layered α depth → Value
  | 0, value => encodeBase value
  | _ + 1, none => .null
  | depth + 1, some value => encode encodeBase depth value

def decode {α : Type} (decodeBase : Value → Except DecodeFault α) :
    (depth : Nat) → Value → Except DecodeFault (Layered α depth)
  | 0, value => decodeBase value
  | depth + 1, value =>
      if value.isNull then .ok none else (decode decodeBase depth value).map some

end Layered

/-- A type that a parameter or an entity field may have: a column type under options. -/
structure HostType where
  base : ColumnType
  depth : Nat
deriving DecidableEq

namespace HostType

abbrev Carrier (type : HostType) : Type :=
  Layered type.base.Carrier type.depth

def valueType (type : HostType) : ValueType :=
  type.base.valueType

def nullable (type : HostType) : Bool :=
  type.depth != 0

def encode (type : HostType) : type.Carrier → Value :=
  Layered.encode type.base.encode type.depth

def decode (type : HostType) : Value → Except DecodeFault type.Carrier :=
  Layered.decode type.base.decode type.depth

end HostType

/-- What one value of a result is read as: a column, a row count, or nothing at all. -/
inductive ResultBase where
  | column (type : ColumnType)
  | count
  | unit
deriving DecidableEq

namespace ResultBase

abbrev Carrier : ResultBase → Type
  | .column type => type.Carrier
  | .count => UInt64
  | .unit => Unit

/-- A count is never negative; nothing at all is read from any value, `NULL` included. -/
def decode : (base : ResultBase) → Value → Except DecodeFault base.Carrier
  | .column type, value => type.decode value
  | .count, value =>
      value.toInt.bind fun n =>
        if 0 ≤ n.toInt then .ok n.toUInt64 else .error (.outOfRange n .count)
  | .unit, _ => .ok ()

end ResultBase

/-- A type that one value of a result may be read as. -/
structure ResultType where
  base : ResultBase
  depth : Nat
deriving DecidableEq

namespace ResultType

abbrev Carrier (type : ResultType) : Type :=
  Layered type.base.Carrier type.depth

def decode (type : ResultType) : Value → Except DecodeFault type.Carrier :=
  Layered.decode type.base.decode type.depth

end ResultType

end QueryMethods
