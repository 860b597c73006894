import QueryMethods.Shape
import QueryMethods.Value.Basic

/-! Why a value, a row or an output cannot be read as what the caller asked for. -/

namespace QueryMethods

/-- The whole-number types that a database integer may be too large for. -/
inductive IntegerType where
  | int16
  | int32
  | count
deriving DecidableEq

def IntegerType.name : IntegerType → String
  | .int16 => "i16"
  | .int32 => "i32"
  | .count => "u64"

inductive DecodeFault where
  | columnMissing
  | rowEmpty
  | mismatch (expected : ValueType) (found : Option ValueType)
  | outOfRange (value : Int64) (target : IntegerType)
  | notUuid (spelling : String)
  | outputShape (expected found : Shape)
deriving DecidableEq

/-- The word for what was found where another type was expected. -/
def foundName : Option ValueType → String
  | none => "NULL"
  | some .bool => "Some(Bool)"
  | some .int => "Some(Int)"
  | some .float => "Some(Float)"
  | some .text => "Some(Text)"
  | some .uuid => "Some(Uuid)"
  | some .timestamp => "Some(Timestamp)"

/-- The wording of a fault, where a text that spells no identifier is refused in the words of the
parser of identifiers. -/
def DecodeFault.message (refusal : String → String) : DecodeFault → String
  | .columnMissing => "column not present in result"
  | .rowEmpty => "row has no columns"
  | .mismatch expected found => "expected " ++ expected.name ++ ", found " ++ foundName found
  | .outOfRange value target => toString value.toInt ++ " out of range for " ++ target.name
  | .notUuid spelling => refusal spelling
  | .outputShape expected found =>
      "expected " ++ expected.name ++ " output, found " ++ found.name

/-- A fault, at the column where it was met. -/
structure DecodeError where
  column : String
  fault : DecodeFault
deriving DecidableEq

def DecodeError.message (error : DecodeError) (refusal : String → String) : String :=
  "cannot decode column `" ++ error.column ++ "`: " ++ error.fault.message refusal

end QueryMethods
